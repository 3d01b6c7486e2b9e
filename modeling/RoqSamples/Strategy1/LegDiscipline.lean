/- Strategy1/LegDiscipline
   digest: A leg has one request at a time, creates one order with a bounded number of attempts, and
     rests only at the latest price, as long as no rejection makes it call its retry. -/
import RoqSamples.Strategy1.LegTokens

set_option autoImplicit false
set_option relaxedAutoImplicit false

namespace RoqSamples.Strategy1.LegDiscipline

open RoqSamples.Arith (Double)
open RoqSamples.Client
open RoqSamples.Execution.Runs
open RoqSamples.Strategy1.LegTokens
open Session (effects next initial requestOf NotRateLimited)

/-- `utils::is_equal` and `utils::update` taken as exact equality. -/
def exactly (x y : Double) : Bool := decide (x = y)

variable (settings : Settings)

def isCreate : Effect → Bool
  | .createOrder _ _ => true
  | _ => false

/-- The CreateOrders that a step sends. -/
def creates (s : Session) (e : Event) : List Effect :=
  (effects exactly settings s e).filter isCreate

/-- The successful response that a step delivers: the helper that sent the request, and the price
that is acknowledged. -/
def successes (s : Session) : Event → List (Helper × Double)
  | .response index (.success ack) _ =>
      (s.requests[index]?.map fun request => (request.helper, ack.price)).toList
  | _ => []

/-- The price that a modify_order call asks for. -/
def modifyPrice : Event → Option Double
  | .modifyOrder price _ => some price
  | _ => none

/-- The latest price requested, which is the initial one before any modify_order call. -/
def requested (price : Double) (es : List Event) : Double :=
  (es.filterMap modifyPrice).getLastD price

/-- The CreateOrders sent by a run. -/
def sentBy (start : Session) (es : List Event) : List Effect :=
  trace (next exactly settings) (creates settings) start es

/-- The successful responses delivered by a run. -/
def successesOf (start : Session) (es : List Event) : List (Helper × Double) :=
  trace (next exactly settings) successes start es

/-- The CreateOrders that a run has seen accepted. -/
def acceptedBy (start : Session) (es : List Event) : List (Helper × Double) :=
  (successesOf settings start es).filter fun success => success.1 = .submit

/-- The price convergence and the request discipline of a leg after the events of a run, all of
whose behaviour has been defined. -/
structure Disciplined (side : Side) (quantity price : Double) (es : List Event) (s : Session) :
    Prop where
  defined : s.lost = false
  one_request : s.requests.length ≤ 1
  no_timer : s.requests ≠ [] → s.timers = []
  accepted : (acceptedBy settings (initial side quantity price) es).length ≤ 1
  sent : (sentBy settings (initial side quantity price) es).length ≤ settings.maxRetries + 1
  acknowledged : s.leg.state = .waiting →
    (successesOf settings (initial side quantity price) es).getLast?.map Prod.snd =
      some s.leg.price
  latest : s.leg.price = requested price es

/-- How many CreateOrders a leg has sent and how many have been accepted, against the retry counter
of the create that is under way. -/
structure Counted (sent accepted : Nat) (s : Session) : Prop where
  sent_le : sent ≤ settings.maxRetries + 1
  accepted_le : accepted ≤ 1
  fresh : s.leg.state = .undefined → sent = 0 ∧ accepted = 0
  request : ∀ request ∈ s.requests, request.helper = .submit →
    sent ≤ request.retryCounter + 1 ∧ request.retryCounter ≤ settings.maxRetries ∧ accepted = 0
  timer : ∀ timer ∈ s.timers, timer.helper = .submit →
    sent ≤ timer.retryCounter + 1 ∧ timer.retryCounter < settings.maxRetries ∧ accepted = 0

/-- The sent CreateOrders are the requests of the submit helper. -/
private theorem creates_length (effects : List Effect) :
    (effects.filter isCreate).length =
      ((effects.filterMap requestOf).filter fun request => request.helper = .submit).length := by
  induction effects with
  | nil => rfl
  | cons effect effects ih =>
      cases effect <;> simp [List.filter_cons, List.filterMap_cons, isCreate, requestOf, ih]

/-- What every step preserves, together with the events so far. -/
structure Tracked (start : Session) (price : Double) (es : List Event) (s : Session) : Prop where
  held : Held s
  counted : Counted settings (sentBy settings start es).length
    (acceptedBy settings start es).length s
  waits : s.leg.state = .waiting →
    (successesOf settings start es).getLast?.map Prod.snd = some s.leg.price
  latest : s.leg.price = requested price es

variable {settings}

private theorem none_created {o : Leg × List Effect} {timers : List RetryTimer} {fatal : Bool}
    (yields : Yields o [] timers fatal) : (o.2.filter isCreate).length = 0 := by
  rw [creates_length, yields.requests]
  rfl

private theorem none_created_dangling {o : Leg × List Effect} (dangles : Dangles o) :
    (o.2.filter isCreate).length = 0 := by
  rw [creates_length, dangles.requests]
  rfl

/-- Without a create under way the counts only have to be in bounds. -/
private theorem counted_of_none {sent accepted : Nat} {s : Session}
    (sent_le : sent ≤ settings.maxRetries + 1) (accepted_le : accepted ≤ 1)
    (started : s.leg.state ≠ .undefined) (free : s.requests = [] ∧ s.timers = []) :
    Counted settings sent accepted s := by
  refine ⟨sent_le, accepted_le, fun fresh => (started fresh).elim, ?_, ?_⟩
  · intro request mem
    rw [free.1] at mem
    exact (List.not_mem_nil mem).elim
  · intro timer mem
    rw [free.2] at mem
    exact (List.not_mem_nil mem).elim

private theorem retry_counted {sent accepted counter : Nat} {helper : Helper} {m : Session}
    {o : Leg × List Effect} (retry : Retry settings helper counter o)
    (free : m.requests = [] ∧ m.timers = []) (sent_le : sent ≤ settings.maxRetries + 1)
    (accepted_le : accepted ≤ 1) (started : o.1.state ≠ .undefined)
    (under_way : helper = .submit → sent ≤ counter + 1 ∧ accepted = 0) :
    Counted settings (sent + (o.2.filter isCreate).length) accepted (m.commit o) := by
  cases retry with
  | deferred few yields =>
      rw [none_created yields, commit_eq yields, free.1, free.2]
      refine ⟨sent_le, accepted_le, fun fresh => (started fresh).elim, ?_, ?_⟩
      · exact fun request mem => (List.not_mem_nil mem).elim
      · intro timer mem submit
        cases List.mem_singleton.mp mem
        obtain ⟨attempts, unaccepted⟩ := under_way submit
        exact ⟨attempts, few, unaccepted⟩
  | exhausted many yields =>
      rw [none_created yields, commit_eq yields, free.1, free.2]
      exact counted_of_none sent_le accepted_le started ⟨rfl, rfl⟩

private theorem attempt_counted {sent accepted counter : Nat} {helper : Helper} {link : Link}
    {m : Session} {o : Leg × List Effect} (attempt : Attempt settings helper counter link o)
    (free : m.requests = [] ∧ m.timers = []) (sent_le : sent ≤ settings.maxRetries + 1)
    (accepted_le : accepted ≤ 1) (started : o.1.state ≠ .undefined)
    (under_way : helper = .submit → sent ≤ counter ∧ counter ≤ settings.maxRetries ∧
      accepted = 0) :
    Counted settings (sent + (o.2.filter isCreate).length) accepted (m.commit o) := by
  cases attempt with
  | sent ready connected yields =>
      rw [creates_length, yields.requests, commit_eq yields, free.1, free.2]
      cases helper with
      | submit =>
          obtain ⟨attempts, within, unaccepted⟩ := under_way rfl
          have one_more : sent + ([(⟨.submit, counter, o.1.price⟩ : Request)].filter
              fun request => request.helper = .submit).length = sent + 1 := rfl
          rw [one_more]
          refine ⟨by omega, accepted_le, fun fresh => (started fresh).elim, ?_, ?_⟩
          · intro request mem _
            cases List.mem_singleton.mp mem
            exact ⟨by show sent + 1 ≤ counter + 1; omega, within, unaccepted⟩
          · exact fun timer mem => (List.not_mem_nil mem).elim
      | modify =>
          refine ⟨sent_le, accepted_le, fun fresh => (started fresh).elim, ?_, ?_⟩
          · intro request mem submit
            cases List.mem_singleton.mp mem
            cases submit
          · exact fun timer mem => (List.not_mem_nil mem).elim
  | lost ready connected yields =>
      rw [none_created yields, commit_eq yields, free.1, free.2]
      exact counted_of_none sent_le accepted_le started ⟨rfl, rfl⟩
  | delayed busy retry =>
      refine retry_counted retry free sent_le accepted_le started fun submit => ?_
      obtain ⟨attempts, _, unaccepted⟩ := under_way submit
      exact ⟨by omega, unaccepted⟩

/-- A leg that starts nothing keeps the counts. -/
private theorem quiet_counted {sent accepted : Nat} {s : Session} {o : Leg × List Effect}
    (counted : Counted settings sent accepted s) (yields : Yields o [] [] false)
    (state : o.1.state = s.leg.state ∨ o.1.state = .finished) :
    Counted settings (sent + (o.2.filter isCreate).length) accepted (s.commit o) := by
  rw [none_created yields, commit_eq yields, List.append_nil, List.append_nil]
  refine ⟨counted.sent_le, counted.accepted_le, ?_, counted.request, counted.timer⟩
  intro fresh
  rcases state with same | finished
  · exact counted.fresh (same.symm.trans fresh)
  · exact State.noConfusion (finished.symm.trans fresh)

private theorem started_of_expected {state : State} {helper : Helper}
    (expected : state = helper.expected ∨ state = .finished) : state ≠ .undefined := by
  rintro rfl
  cases helper <;> simp [Helper.expected] at expected

/-- An answered request was under way: it has not been accepted before. -/
private theorem accepts_once {sent accepted : Nat} {s : Session} {index : Nat} {request : Request}
    (ack : OrderAck) (link : Link) (counted : Counted settings sent accepted s)
    (found : s.requests[index]? = some request) :
    accepted + ((successes s (.response index (.success ack) link)).filter
      fun success => success.1 = .submit).length ≤ 1 := by
  have mem := List.mem_of_getElem? found
  cases helper : request.helper with
  | submit =>
      obtain ⟨_, _, unaccepted⟩ := counted.request request mem helper
      simp [successes, found, helper, unaccepted]
  | modify => simpa [successes, found, helper] using counted.accepted_le

private theorem step_counted {sent accepted : Nat} {s m : Session} {e : Event}
    {o : Leg × List Effect} (held : Held s) (counted : Counted settings sent accepted s)
    (step : Step exactly settings s e m o) :
    Counted settings (sent + (o.2.filter isCreate).length)
      (accepted + ((successes s e).filter fun success => success.1 = .submit).length)
      (m.commit o) := by
  have sent_le := counted.sent_le
  have accepted_le := counted.accepted_le
  cases step with
  | unready => exact quiet_counted counted (Yields.nothing s.leg) (.inl rfl)
  | submitted ready status link guard leg attempt =>
      obtain ⟨none_sent, unaccepted⟩ := counted.fresh guard.1
      refine attempt_counted attempt (held.free (.inl guard.1)) sent_le accepted_le ?_ fun _ => ?_
      · rw [leg]
        exact nofun
      · exact ⟨by omega, Nat.zero_le _, unaccepted⟩
  | noted _ _ _ leg yields => exact quiet_counted counted yields (.inl (by rw [leg]))
  | changed _ _ state _ leg attempt =>
      refine attempt_counted attempt (held.free (.inr state)) sent_le accepted_le ?_ nofun
      rw [leg]
      exact nofun
  | updated orderStatus =>
      have tokens : Counted settings sent accepted
          { s with completed := s.completed || decide (orderStatus = .completed) } :=
        ⟨sent_le, accepted_le, counted.fresh, counted.request, counted.timer⟩
      refine quiet_counted tokens (Yields.nothing _) ?_
      unfold Leg.onOrderUpdate
      split
      · exact .inr rfl
      · exact .inl rfl
  | rejected index request ack link found _ leg dangles =>
      obtain ⟨alone, no_timer, state⟩ := held.request found
      rw [none_created_dangling dangles, commit_dangling dangles]
      refine counted_of_none sent_le accepted_le ?_ ⟨alone, no_timer⟩
      change o.1.state ≠ .undefined
      rw [leg]
      exact started_of_expected state
  | refused index request ack link fatal found _ leg yields =>
      obtain ⟨alone, no_timer, _⟩ := held.request found
      rw [none_created yields, commit_eq yields, leg, alone, no_timer]
      refine counted_of_none sent_le accepted_le ?_ ⟨rfl, rfl⟩
      cases fatal <;> exact nofun
  | converged index request ack link found _ leg yields =>
      obtain ⟨alone, no_timer, _⟩ := held.request found
      rw [none_created yields, commit_eq yields, leg, alone, no_timer]
      exact counted_of_none sent_le (accepts_once ack link counted found) nofun ⟨rfl, rfl⟩
  | chased index request ack link found _ leg attempt =>
      obtain ⟨alone, no_timer, _⟩ := held.request found
      refine attempt_counted attempt ⟨alone, no_timer⟩ sent_le
        (accepts_once ack link counted found) ?_ nofun
      rw [leg]
      exact nofun
  | retried index timer link found leg _ attempt =>
      obtain ⟨no_request, alone, state⟩ := held.timer found
      refine attempt_counted attempt ⟨no_request, alone⟩ sent_le accepted_le ?_ fun submit => ?_
      · rw [leg]
        exact started_of_expected state
      · obtain ⟨attempts, few, unaccepted⟩ :=
          counted.timer timer (List.mem_of_getElem? found) submit
        exact ⟨attempts, few, unaccepted⟩
  | expired index timer link found _ gone =>
      obtain ⟨no_request, alone, state⟩ := held.timer found
      rw [none_created (Yields.nothing s.leg), commit_eq (Yields.nothing s.leg), no_request, alone]
      exact counted_of_none sent_le accepted_le (started_of_expected state) ⟨rfl, rfl⟩

/-- A leg comes to rest only with a success that acknowledges its price. -/
theorem step_acknowledged {acknowledged : Option Double} {s m : Session} {e : Event}
    {o : Leg × List Effect}
    (before : s.leg.state = .waiting → acknowledged = some s.leg.price)
    (step : Step exactly settings s e m o) (rests : (m.commit o).leg.state = .waiting) :
    ((successes s e).getLast?.map Prod.snd).or acknowledged = some (m.commit o).leg.price := by
  change o.1.state = .waiting at rests
  show _ = some o.1.price
  cases step with
  | unready => exact before rests
  | submitted _ _ _ _ leg _ | changed _ _ _ _ leg _ | chased _ _ _ _ _ _ leg _ =>
      rw [leg] at rests
      cases rests
  | noted price link reason leg _ =>
      rw [leg] at rests ⊢
      rcases reason with idle | equal
      · exact (idle rests).elim
      · simp only [equal, if_true]
        exact before rests
  | updated orderStatus =>
      by_cases completed : orderStatus = .completed
      · simp [Leg.onOrderUpdate, completed] at rests
      · simp only [Leg.onOrderUpdate, if_neg completed] at rests ⊢
        exact before rests
  | rejected _ request _ _ found _ leg _ =>
      rw [leg] at rests ⊢
      exact before rests
  | refused _ _ _ _ fatal _ _ leg _ =>
      rw [leg] at rests
      cases fatal <;> cases rests
  | converged index request ack link found equal leg _ =>
      have same : ack.price = s.leg.price := of_decide_eq_true equal
      rw [leg]
      simp [successes, found, same]
  | retried _ timer _ found leg _ _ =>
      rw [leg] at rests ⊢
      exact before rests
  | expired => exact before rests

/-- The price of the leg is the last one asked for. -/
theorem step_price {s m : Session} {e : Event} {o : Leg × List Effect}
    (step : Step exactly settings s e m o) : o.1.price = (modifyPrice e).getD s.leg.price := by
  cases step with
  | unready | expired => rfl
  | updated orderStatus =>
      unfold Leg.onOrderUpdate
      split <;> rfl
  | noted price link _ leg _ =>
      rw [leg]
      show (if exactly s.leg.price price = true then s.leg.price else price) = price
      split
      · rename_i equal
        exact of_decide_eq_true equal
      · rfl
  | submitted _ _ _ _ leg _ | changed _ _ _ _ leg _ | rejected _ _ _ _ _ _ leg _
  | refused _ _ _ _ _ _ _ leg _ | converged _ _ _ _ _ _ leg _ | chased _ _ _ _ _ _ leg _
  | retried _ _ _ _ leg _ _ =>
      rw [leg]
      rfl

private theorem requested_snoc (price : Double) (es : List Event) (e : Event) :
    requested price (es ++ [e]) = (modifyPrice e).getD (requested price es) := by
  unfold requested
  rw [List.filterMap_append]
  cases asked : modifyPrice e with
  | none => simp [asked]
  | some p => simp [asked]

private theorem tracked_step {start m t : Session} {price : Double} {es : List Event} {e : Event}
    (before : run (next exactly settings) start es = some m)
    (tracked : Tracked settings start price es m)
    (taken : next exactly settings m e = some t) :
    Tracked settings start price (es ++ [e]) t := by
  obtain ⟨held, counted, waits, latest⟩ := tracked
  obtain ⟨m', o, step, effects_eq, rfl⟩ := next_step taken
  have more_sent : sentBy settings start (es ++ [e]) =
      sentBy settings start es ++ o.2.filter isCreate := by
    rw [sentBy, trace_append before, trace_singleton taken, creates, effects_eq, sentBy]
  have more_successes : successesOf settings start (es ++ [e]) =
      successesOf settings start es ++ successes m e := by
    rw [successesOf, trace_append before, trace_singleton taken, successesOf]
  have more_accepted : acceptedBy settings start (es ++ [e]) = acceptedBy settings start es ++
      (successes m e).filter fun success => success.1 = .submit := by
    rw [acceptedBy, more_successes, List.filter_append, acceptedBy]
  refine ⟨step.held held, ?_, ?_, ?_⟩
  · rw [more_sent, more_accepted, List.length_append, List.length_append]
    exact step_counted held counted step
  · intro rests
    rw [more_successes, List.getLast?_append, Option.map_or]
    exact step_acknowledged waits step rests
  · rw [requested_snoc, ← latest]
    exact step_price step

private theorem run_tracked {side : Side} {quantity price : Double} {es : List Event}
    {s : Session}
    (reached : run (next exactly settings) (initial side quantity price) es = some s) :
    Tracked settings (initial side quantity price) price es s := by
  have counted : Counted settings 0 0 (initial side quantity price) :=
    ⟨Nat.zero_le _, Nat.zero_le 1, fun _ => ⟨rfl, rfl⟩,
      fun _ mem => (List.not_mem_nil mem).elim, fun _ mem => (List.not_mem_nil mem).elim⟩
  exact run_history (I := Tracked settings (initial side quantity price) price)
    ⟨initial_held side quantity price, counted, nofun, rfl⟩
    (fun _ _ _ _ before tracked taken => tracked_step before tracked taken) reached

private theorem Tracked.disciplined {side : Side} {quantity price : Double} {es : List Event}
    {s : Session} (tracked : Tracked settings (initial side quantity price) price es s)
    (defined : s.lost = false) : Disciplined settings side quantity price es s := by
  have one := tracked.held.one
  refine ⟨defined, by omega, ?_, tracked.counted.accepted_le, tracked.counted.sent_le,
    tracked.waits, tracked.latest⟩
  intro outstanding
  have present := List.length_pos_of_ne_nil outstanding
  exact List.eq_nil_of_length_eq_zero (by omega)

/-- The behaviour of a leg stays defined as long as no request meets the rate limit. -/
private theorem run_defined {s t : Session} {es : List Event} (defined : s.lost = false)
    (unlimited : AllSteps (next exactly settings) (fun _ e => NotRateLimited e) s es)
    (reached : run (next exactly settings) s es = some t) : t.lost = false := by
  have states : AllStates (next exactly settings) (fun s => s.lost = false) s es :=
    AllSteps.invariant (fun _ _ _ _ calm taken => (next_lost_iff taken).mpr calm) defined unlimited
  exact states.last reached

/-- For every run of a leg, whose requests get one response each and whose timers fire once, and
with modify_order calls at any time: in every state that is reached, at most one request is
outstanding, and none together with a timer; at most one CreateOrder has been accepted, of at most
max_retries + 1 that were sent; and a leg that waits has had its latest price acknowledged. All of
this holds, of a behaviour that is defined, exactly when no request is answered by
REQUEST_RATE_LIMIT_REACHED. -/
theorem leg_disciplined_iff (side : Side) (quantity price : Double) (es : List Event) :
    (∀ prior, prior <+: es → ∀ s,
      run (next exactly settings) (initial side quantity price) prior = some s →
      Disciplined settings side quantity price prior s) ↔
      AllSteps (next exactly settings) (fun _ e => NotRateLimited e)
        (initial side quantity price) es := by
  constructor
  · intro disciplined
    refine allSteps_of_prefix fun prior e t u front reached taken => ?_
    have longer : run (next exactly settings) (initial side quantity price) (prior ++ [e]) =
        some u := by
      rw [run_append, reached, Option.bind_some]
      exact run_cons_eq_some.mpr ⟨u, taken, rfl⟩
    exact (next_lost_iff taken).mp (disciplined (prior ++ [e]) front u longer).defined
  · rintro unlimited prior ⟨rest, rfl⟩ s reached
    have earlier := (allSteps_append.mp unlimited).1
    exact (run_tracked reached).disciplined (run_defined rfl earlier reached)

/-- The create is rejected by the rate limit of the exchange. -/
def rejectedCreate : List Event :=
  [.market true .«open» ⟨true, 0, true⟩,
    .response 0 (.failure ⟨1, .sell, .createOrder, .rejected, .requestRateLimitReached, .nan⟩)
      ⟨true, 0, true⟩]

/-- The callback calls a lambda that went away when `submit_order_helper` returned. -/
theorem rejected_create_calls_dead_lambda : ∃ s,
    run (next exactly ⟨0, 3, 10000000000⟩) (initial .sell 1 100) rejectedCreate = some s ∧
      s.lost = true ∧ ¬ Disciplined ⟨0, 3, 10000000000⟩ .sell 1 100 rejectedCreate s := by
  refine ⟨_, rfl, rfl, fun disciplined => ?_⟩
  have defined := disciplined.defined
  cases defined

end RoqSamples.Strategy1.LegDiscipline
