/- Strategy1/LegTokens
   digest: What an event can do to the request or the retry timer that keeps a leg going. -/
import RoqSamples.Strategy1.Leg

set_option autoImplicit false
set_option relaxedAutoImplicit false

namespace RoqSamples.Strategy1.LegTokens

open RoqSamples.Arith (Double)
open RoqSamples.Client
open RoqSamples.Execution.Runs
open Session (effects next initial requestOf timerOf isFatal isDangling NotRateLimited)

/-- The requests and the timers that a handler starts, and whether it ends in log::fatal. -/
structure Yields (o : Leg × List Effect) (requests : List Request) (timers : List RetryTimer)
    (fatal : Bool) : Prop where
  requests : o.2.filterMap requestOf = requests
  timers : o.2.filterMap timerOf = timers
  fatal : o.2.any isFatal = fatal
  defined : o.2.any isDangling = false

theorem Yields.check {leg leg' : Leg} {effects : List Effect} {requests : List Request}
    {timers : List RetryTimer} {fatal : Bool} (yields : Yields (leg, effects) requests timers fatal)
    (check : Check) : Yields (leg', .check check :: effects) requests timers fatal :=
  ⟨yields.requests, yields.timers, yields.fatal, yields.defined⟩

theorem Yields.nothing (leg : Leg) : Yields (leg, []) [] [] false := ⟨rfl, rfl, rfl, rfl⟩

/-- A handler that starts nothing and ends in undefined behaviour. -/
structure Dangles (o : Leg × List Effect) : Prop where
  requests : o.2.filterMap requestOf = []
  timers : o.2.filterMap timerOf = []
  fatal : o.2.any isFatal = false
  undefined : o.2.any isDangling = true

/-- The lambda `handle_retry` adds a timer, unless there were too many retries. -/
inductive Retry (settings : Settings) (helper : Helper) (counter : Nat) :
    Leg × List Effect → Prop
  | deferred {o : Leg × List Effect} : counter < settings.maxRetries →
      Yields o [] [⟨helper, counter⟩] false → Retry settings helper counter o
  | exhausted {o : Leg × List Effect} : settings.maxRetries ≤ counter →
      Yields o [] [] true → Retry settings helper counter o

/-- What the `try` block of a helper comes to. -/
inductive Attempt (settings : Settings) (helper : Helper) (counter : Nat) (link : Link) :
    Leg × List Effect → Prop
  | sent {o : Leg × List Effect} : link.ready = true → link.connected = true →
      Yields o [⟨helper, counter, o.1.price⟩] [] false → Attempt settings helper counter link o
  | lost {o : Leg × List Effect} : link.ready = true → link.connected = false →
      Yields o [] [] false → Attempt settings helper counter link o
  | delayed {o : Leg × List Effect} : link.ready = false → Retry settings helper counter o →
      Attempt settings helper counter link o

theorem Retry.check {settings : Settings} {helper : Helper} {counter : Nat} {leg leg' : Leg}
    {effects : List Effect} (retry : Retry settings helper counter (leg, effects))
    (check : Check) : Retry settings helper counter (leg', .check check :: effects) := by
  cases retry with
  | deferred few yields => exact .deferred few (yields.check check)
  | exhausted many yields => exact .exhausted many (yields.check check)

theorem Attempt.check {settings : Settings} {helper : Helper} {counter : Nat} {link : Link}
    {leg : Leg} {effects : List Effect}
    (attempt : Attempt settings helper counter link (leg, effects)) (check : Check) :
    Attempt settings helper counter link (leg, .check check :: effects) := by
  cases attempt with
  | sent ready connected yields => exact .sent ready connected (yields.check check)
  | lost ready connected yields => exact .lost ready connected (yields.check check)
  | delayed busy retry => exact .delayed busy (retry.check check)

theorem commit_eq {m : Session} {o : Leg × List Effect} {requests : List Request}
    {timers : List RetryTimer} {fatal : Bool} (yields : Yields o requests timers fatal) :
    m.commit o =
      { m with
        leg := o.1
        requests := m.requests ++ requests
        timers := m.timers ++ timers
        stopped := fatal
        lost := false } := by
  rw [Session.commit, yields.requests, yields.timers, yields.fatal, yields.defined]

theorem commit_dangling {m : Session} {o : Leg × List Effect} (dangles : Dangles o) :
    m.commit o = { m with leg := o.1, stopped := false, lost := true } := by
  rw [Session.commit, dangles.requests, dangles.timers, dangles.fatal, dangles.undefined,
    List.append_nil, List.append_nil]

variable (isEqual : Double → Double → Bool) (settings : Settings)

theorem handleRetry_retry (helper : Helper) (delay : Int) (counter : Nat) (leg : Leg) :
    Retry settings helper counter (leg.handleRetry helper settings delay counter) := by
  by_cases many : settings.maxRetries ≤ counter
  · have stops : Yields (leg, [.fatal .tooManyRetries]) [] [] true := ⟨rfl, rfl, rfl, rfl⟩
    rw [Leg.handleRetry, if_pos many]
    exact .exhausted many (stops.check _)
  · have waits : Yields (leg, [.addTimer delay helper counter]) [] [⟨helper, counter⟩] false :=
      ⟨rfl, rfl, rfl, rfl⟩
    rw [Leg.handleRetry, if_neg many]
    exact .deferred (by omega) (waits.check _)

theorem trySend_attempt (helper : Helper) (link : Link) (counter : Nat) (request : Effect)
    (leg : Leg) (sends : Yields (leg, [request]) [⟨helper, counter, leg.price⟩] [] false) :
    Attempt settings helper counter link (leg.trySend helper settings link counter request) := by
  unfold Leg.trySend
  cases ready : link.ready with
  | true =>
      cases connected : link.connected with
      | true => exact .sent ready connected sends
      | false => exact .lost ready connected (Yields.nothing leg)
  | false => exact .delayed ready (handleRetry_retry settings helper link.delay counter leg)

theorem trySend_leg (helper : Helper) (link : Link) (counter : Nat) (request : Effect)
    (leg : Leg) : (leg.trySend helper settings link counter request).1 = leg := by
  unfold Leg.trySend
  split_ifs <;> rfl

theorem submitOrderHelper_attempt (link : Link) (counter : Nat) (leg : Leg) :
    Attempt settings .submit counter link (leg.submitOrderHelper settings link counter) ∧
      (leg.submitOrderHelper settings link counter).1 = leg :=
  ⟨(trySend_attempt settings .submit link counter _ leg ⟨rfl, rfl, rfl, rfl⟩).check _,
    trySend_leg settings .submit link counter _ leg⟩

/-- The other states are given up on. -/
theorem modifyOrderHelper_attempt (link : Link) (counter : Nat) (leg : Leg)
    (running : leg.state ≠ .finished ∧ leg.state ≠ .failed) :
    Attempt settings .modify counter link (leg.modifyOrderHelper settings link counter) ∧
      (leg.modifyOrderHelper settings link counter).1 = leg := by
  have sent := trySend_attempt settings .modify link counter
    (.modifyOrder (Leg.createModifyOrderRequest leg.price) counter) leg ⟨rfl, rfl, rfl, rfl⟩
  have same := trySend_leg settings .modify link counter
    (.modifyOrder (Leg.createModifyOrderRequest leg.price) counter) leg
  unfold Leg.modifyOrderHelper
  cases state : leg.state with
  | finished => exact (running.1 state).elim
  | failed => exact (running.2 state).elim
  | changing => exact ⟨sent, same⟩
  | undefined | creating | waiting => exact ⟨sent.check _, same⟩

/-- The kinds of steps of a session, by event: the session whose token has been taken, and what the
leg made of the event. -/
inductive Step (s : Session) : Event → Session → Leg × List Effect → Prop
  /-- The leg does not react to the market. -/
  | unready (ready : Bool) (status : TradingStatus) (link : Link) :
      ¬ (s.leg.state = .undefined ∧ ready = true ∧ status = .«open») →
      Step s (.market ready status link) s (s.leg, [])
  | submitted (ready : Bool) (status : TradingStatus) (link : Link) {o : Leg × List Effect} :
      s.leg.state = .undefined ∧ ready = true ∧ status = .«open» →
      o.1 = { s.leg with state := .creating } →
      Attempt settings .submit 0 link o → Step s (.market ready status link) s o
  /-- The price is remembered at most. -/
  | noted (price : Double) (link : Link) {o : Leg × List Effect} :
      s.leg.state ≠ .waiting ∨ isEqual s.leg.price price = true →
      o.1 = { s.leg with price := if isEqual s.leg.price price then s.leg.price else price } →
      Yields o [] [] false → Step s (.modifyOrder price link) s o
  | changed (price : Double) (link : Link) {o : Leg × List Effect} :
      s.leg.state = .waiting → isEqual s.leg.price price = false →
      o.1 = { s.leg with price := price, state := .changing } →
      Attempt settings .modify 0 link o → Step s (.modifyOrder price link) s o
  | updated (orderStatus : OrderStatus) :
      Step s (.orderUpdate orderStatus)
        { s with completed := s.completed || decide (orderStatus = .completed) }
        (s.leg.onOrderUpdate orderStatus, [])
  | rejected (index : Nat) (request : Request) (ack : OrderAck) (link : Link)
      {o : Leg × List Effect} : s.requests[index]? = some request →
      ack.error = .requestRateLimitReached → o.1 = s.leg → Dangles o →
      Step s (.response index (.failure ack) link)
        { s with requests := s.requests.eraseIdx index } o
  | refused (index : Nat) (request : Request) (ack : OrderAck) (link : Link) (fatal : Bool)
      {o : Leg × List Effect} : s.requests[index]? = some request →
      ack.error ≠ .requestRateLimitReached →
      o.1 = { s.leg with state := if fatal then .failed else .finished } → Yields o [] [] fatal →
      Step s (.response index (.failure ack) link)
        { s with requests := s.requests.eraseIdx index } o
  | converged (index : Nat) (request : Request) (ack : OrderAck) (link : Link)
      {o : Leg × List Effect} : s.requests[index]? = some request →
      isEqual ack.price s.leg.price = true → o.1 = { s.leg with state := .waiting } →
      Yields o [] [] false →
      Step s (.response index (.success ack) link)
        { s with requests := s.requests.eraseIdx index } o
  | chased (index : Nat) (request : Request) (ack : OrderAck) (link : Link)
      {o : Leg × List Effect} : s.requests[index]? = some request →
      isEqual ack.price s.leg.price = false → o.1 = { s.leg with state := .changing } →
      Attempt settings .modify 0 link o →
      Step s (.response index (.success ack) link)
        { s with requests := s.requests.eraseIdx index } o
  | retried (index : Nat) (timer : RetryTimer) (link : Link) {o : Leg × List Effect} :
      s.timers[index]? = some timer → o.1 = s.leg →
      timer.helper = .submit ∨ s.leg.state ≠ .finished →
      Attempt settings timer.helper (timer.retryCounter + 1) link o →
      Step s (.timer index link) { s with timers := s.timers.eraseIdx index } o
  /-- A retry of a modify finds the order gone. -/
  | expired (index : Nat) (timer : RetryTimer) (link : Link) :
      s.timers[index]? = some timer → timer.helper = .modify →
      s.leg.state = .finished ∨ s.leg.state = .failed →
      Step s (.timer index link) { s with timers := s.timers.eraseIdx index } (s.leg, [])

private theorem market_step (s : Session) (ready : Bool) (status : TradingStatus) (link : Link) :
    Step isEqual settings s (.market ready status link) s
      (s.leg.maybeSubmitOrder settings link ready status) := by
  unfold Leg.maybeSubmitOrder
  split
  · rename_i guard
    obtain ⟨attempt, same⟩ :=
      submitOrderHelper_attempt settings link 0 { s.leg with state := .creating }
    exact .submitted ready status link guard same (attempt.check _)
  · rename_i idle
    exact .unready ready status link idle

private theorem modifyOrder_step (s : Session) (price : Double) (link : Link) :
    Step isEqual settings s (.modifyOrder price link) s
      (s.leg.modifyOrder isEqual settings link price) := by
  cases equal : isEqual s.leg.price price with
  | true =>
      simp only [Leg.modifyOrder, equal, if_true]
      refine .noted price link (.inr equal) ?_ ((Yields.nothing s.leg).check _)
      simp only [equal, if_true]
  | false =>
      have quiet (effects : List Effect)
          (yields : Yields ({ s.leg with price := price }, effects) [] [] false)
          (idle : s.leg.state ≠ .waiting) :
          Step isEqual settings s (.modifyOrder price link) s
            ({ s.leg with price := price }, effects) := by
        refine .noted price link (.inl idle) ?_ yields
        simp only [equal, Bool.false_eq_true, if_false]
      simp only [Leg.modifyOrder, equal, Bool.false_eq_true, if_false]
      cases state : s.leg.state with
      | waiting =>
          obtain ⟨attempt, same⟩ := modifyOrderHelper_attempt settings link 0
            { s.leg with price := price, state := .changing } ⟨nofun, nofun⟩
          exact .changed price link state equal same (attempt.check _)
      | undefined | creating | changing | finished | failed =>
          simp only [state] at quiet
          exact quiet _ ⟨rfl, rfl, rfl, rfl⟩ nofun

private theorem failure_step {s : Session} {index : Nat} {request : Request} (ack : OrderAck)
    (link : Link) (found : s.requests[index]? = some request) :
    Step isEqual settings s (.response index (.failure ack) link)
      { s with requests := s.requests.eraseIdx index }
      (s.leg.handleFailure request.helper settings request.retryCounter ack) := by
  unfold Leg.handleFailure
  dsimp only
  split
  · rename_i limit
    exact .rejected index request ack link found limit rfl ⟨rfl, rfl, rfl, rfl⟩
  · rename_i other
    split
    · exact .refused index request ack link false found other rfl ⟨rfl, rfl, rfl, rfl⟩
    · exact .refused index request ack link true found other rfl ⟨rfl, rfl, rfl, rfl⟩

private theorem success_step {s : Session} {index : Nat} {request : Request} (ack : OrderAck)
    (link : Link) (found : s.requests[index]? = some request) :
    Step isEqual settings s (.response index (.success ack) link)
      { s with requests := s.requests.eraseIdx index }
      (s.leg.handleSuccess isEqual request.helper settings link ack) := by
  cases equal : isEqual ack.price s.leg.price with
  | true =>
      simp only [Leg.handleSuccess, equal, if_true]
      exact .converged index request ack link found equal rfl ⟨rfl, rfl, rfl, rfl⟩
  | false =>
      obtain ⟨attempt, same⟩ := modifyOrderHelper_attempt settings link 0
        { s.leg with state := .changing } ⟨nofun, nofun⟩
      simp only [Leg.handleSuccess, equal, Bool.false_eq_true, if_false]
      exact .chased index request ack link found equal same (attempt.check _)

private theorem timer_step {s : Session} {index : Nat} {timer : RetryTimer} (link : Link)
    (found : s.timers[index]? = some timer) :
    Step isEqual settings s (.timer index link) { s with timers := s.timers.eraseIdx index }
      (Session.fire settings timer link s.leg) := by
  unfold Session.fire
  cases helper : timer.helper with
  | submit =>
      obtain ⟨attempt, same⟩ :=
        submitOrderHelper_attempt settings link (timer.retryCounter + 1) s.leg
      rw [← helper] at attempt
      exact .retried index timer link found same (.inl helper) attempt
  | modify =>
      by_cases over_now : s.leg.state = .finished ∨ s.leg.state = .failed
      · have given_up : s.leg.modifyOrderHelper settings link (timer.retryCounter + 1) =
            (s.leg, []) := by
          rcases over_now with state | state <;> simp only [Leg.modifyOrderHelper, state]
        simp only [given_up]
        exact .expired index timer link found helper over_now
      · obtain ⟨unfinished, unfailed⟩ := not_or.mp over_now
        obtain ⟨attempt, same⟩ := modifyOrderHelper_attempt settings link (timer.retryCounter + 1)
          s.leg ⟨unfinished, unfailed⟩
        rw [← helper] at attempt
        exact .retried index timer link found same (.inr unfinished) attempt

/-- Every event leads to one of the kinds of steps. -/
theorem outcome_step {s m : Session} {e : Event} {o : Leg × List Effect}
    (found : s.outcome isEqual settings e = some (m, o)) : Step isEqual settings s e m o := by
  cases e with
  | market ready status link =>
      cases found
      exact market_step isEqual settings s ready status link
  | modifyOrder price link =>
      cases found
      exact modifyOrder_step isEqual settings s price link
  | orderUpdate orderStatus =>
      cases found
      exact .updated orderStatus
  | response index response link =>
      obtain ⟨request, at_index, same⟩ := Option.map_eq_some_iff.mp found
      cases same
      cases response with
      | failure ack => exact failure_step isEqual settings ack link at_index
      | success ack => exact success_step isEqual settings ack link at_index
  | timer index link =>
      obtain ⟨timer, at_index, same⟩ := Option.map_eq_some_iff.mp found
      cases same
      exact timer_step isEqual settings link at_index

/-- At most one token, held by the state of the leg or by a leg that has finished meanwhile. -/
structure Held (s : Session) : Prop where
  one : s.requests.length + s.timers.length ≤ 1
  requests : ∀ request ∈ s.requests,
    s.leg.state = request.helper.expected ∨ s.leg.state = .finished
  timers : ∀ timer ∈ s.timers, s.leg.state = timer.helper.expected ∨ s.leg.state = .finished

theorem initial_held (side : Side) (quantity price : Double) :
    Held (initial side quantity price) :=
  ⟨Nat.zero_le 1, fun _ mem => (List.not_mem_nil mem).elim,
    fun _ mem => (List.not_mem_nil mem).elim⟩

theorem Held.free {s : Session} (held : Held s)
    (state : s.leg.state = .undefined ∨ s.leg.state = .waiting) :
    s.requests = [] ∧ s.timers = [] := by
  have none_holds (helper : Helper) :
      ¬ (s.leg.state = helper.expected ∨ s.leg.state = .finished) := by
    rcases state with state | state <;> rw [state] <;> cases helper <;> decide
  refine ⟨List.eq_nil_iff_forall_not_mem.mpr ?_, List.eq_nil_iff_forall_not_mem.mpr ?_⟩
  · exact fun request mem => none_holds request.helper (held.requests request mem)
  · exact fun timer mem => none_holds timer.helper (held.timers timer mem)

/-- With the request that is answered no token is left. -/
theorem Held.request {s : Session} {index : Nat} {request : Request} (held : Held s)
    (found : s.requests[index]? = some request) :
    s.requests.eraseIdx index = [] ∧ s.timers = [] ∧
      (s.leg.state = request.helper.expected ∨ s.leg.state = .finished) := by
  have one := held.one
  obtain ⟨mem, erased⟩ := Session.sole_token found (by omega)
  have present := List.length_pos_of_mem mem
  refine ⟨erased, ?_, held.requests request mem⟩
  exact List.eq_nil_of_length_eq_zero (by omega)

theorem Held.timer {s : Session} {index : Nat} {timer : RetryTimer} (held : Held s)
    (found : s.timers[index]? = some timer) :
    s.requests = [] ∧ s.timers.eraseIdx index = [] ∧
      (s.leg.state = timer.helper.expected ∨ s.leg.state = .finished) := by
  have one := held.one
  obtain ⟨mem, erased⟩ := Session.sole_token found (by omega)
  have present := List.length_pos_of_mem mem
  refine ⟨?_, erased, held.timers timer mem⟩
  exact List.eq_nil_of_length_eq_zero (by omega)

/-- A handler that starts at most one request or timer of its helper. -/
theorem held_of_yields {m : Session} {o : Leg × List Effect} {requests : List Request}
    {timers : List RetryTimer} {fatal : Bool} (yields : Yields o requests timers fatal)
    (free : m.requests = [] ∧ m.timers = []) (one : requests.length + timers.length ≤ 1)
    (holds_requests : ∀ request ∈ requests,
      o.1.state = request.helper.expected ∨ o.1.state = .finished)
    (holds_timers : ∀ timer ∈ timers, o.1.state = timer.helper.expected ∨ o.1.state = .finished) :
    Held (m.commit o) := by
  rw [commit_eq yields, free.1, free.2]
  exact ⟨one, holds_requests, holds_timers⟩

variable {isEqual settings}

private theorem held_of_nothing {m : Session} {o : Leg × List Effect} {fatal : Bool}
    (yields : Yields o [] [] fatal) (free : m.requests = [] ∧ m.timers = []) :
    Held (m.commit o) :=
  held_of_yields yields free (Nat.zero_le 1) (fun _ mem => (List.not_mem_nil mem).elim)
    (fun _ mem => (List.not_mem_nil mem).elim)

private theorem held_of_dangling {m : Session} {o : Leg × List Effect} (dangles : Dangles o)
    (free : m.requests = [] ∧ m.timers = []) : Held (m.commit o) := by
  rw [commit_dangling dangles]
  refine ⟨?_, ?_, ?_⟩
  · change m.requests.length + m.timers.length ≤ 1
    rw [free.1, free.2]
    exact Nat.zero_le 1
  · intro request mem
    change request ∈ m.requests at mem
    rw [free.1] at mem
    exact (List.not_mem_nil mem).elim
  · intro timer mem
    change timer ∈ m.timers at mem
    rw [free.2] at mem
    exact (List.not_mem_nil mem).elim

theorem Retry.held {m : Session} {helper : Helper} {counter : Nat} {o : Leg × List Effect}
    (retry : Retry settings helper counter o) (free : m.requests = [] ∧ m.timers = [])
    (state : o.1.state = helper.expected ∨ o.1.state = .finished) : Held (m.commit o) := by
  cases retry with
  | deferred _ yields =>
      refine held_of_yields yields free (le_refl 1) (fun _ mem => (List.not_mem_nil mem).elim) ?_
      intro timer mem
      rw [List.mem_singleton.mp mem]
      exact state
  | exhausted _ yields => exact held_of_nothing yields free

theorem Attempt.held {m : Session} {helper : Helper} {counter : Nat} {link : Link}
    {o : Leg × List Effect} (attempt : Attempt settings helper counter link o)
    (free : m.requests = [] ∧ m.timers = [])
    (state : o.1.state = helper.expected ∨ o.1.state = .finished) : Held (m.commit o) := by
  cases attempt with
  | sent _ _ yields =>
      refine held_of_yields yields free (le_refl 1) ?_ (fun _ mem => (List.not_mem_nil mem).elim)
      intro request mem
      rw [List.mem_singleton.mp mem]
      exact state
  | lost _ _ yields => exact held_of_nothing yields free
  | delayed _ retry => exact retry.held free state

/-- A leg that starts nothing keeps its token. -/
private theorem Held.quiet {s : Session} {o : Leg × List Effect} (held : Held s)
    (yields : Yields o [] [] false)
    (state : o.1.state = s.leg.state ∨ o.1.state = .finished) : Held (s.commit o) := by
  rw [commit_eq yields]
  refine ⟨?_, ?_, ?_⟩
  · simpa using held.one
  · intro request mem
    have before := held.requests request (by simpa using mem)
    rcases state with same | finished
    · rcases before with expected | finished
      · exact .inl (same.trans expected)
      · exact .inr (same.trans finished)
    · exact .inr finished
  · intro timer mem
    have before := held.timers timer (by simpa using mem)
    rcases state with same | finished
    · rcases before with expected | finished
      · exact .inl (same.trans expected)
      · exact .inr (same.trans finished)
    · exact .inr finished

theorem Step.held {s m : Session} {e : Event} {o : Leg × List Effect} (held : Held s)
    (step : Step isEqual settings s e m o) : Held (m.commit o) := by
  cases step with
  | unready => exact held.quiet (Yields.nothing s.leg) (.inl rfl)
  | submitted _ _ _ guard leg attempt =>
      exact attempt.held (held.free (.inl guard.1)) (.inl (by rw [leg]; rfl))
  | noted _ _ _ leg yields => exact held.quiet yields (.inl (by rw [leg]))
  | changed _ _ state _ leg attempt =>
      exact attempt.held (held.free (.inr state)) (.inl (by rw [leg]; rfl))
  | updated orderStatus =>
      have tokens : Held { s with completed := s.completed || decide (orderStatus = .completed) } :=
        ⟨held.one, held.requests, held.timers⟩
      refine tokens.quiet (Yields.nothing _) ?_
      unfold Leg.onOrderUpdate
      split
      · exact .inr rfl
      · exact .inl rfl
  | rejected _ request _ _ found _ leg dangles =>
      obtain ⟨alone, no_timer, _⟩ := held.request found
      exact held_of_dangling dangles ⟨alone, no_timer⟩
  | refused _ request _ _ _ found _ _ yields =>
      obtain ⟨alone, no_timer, _⟩ := held.request found
      exact held_of_nothing yields ⟨alone, no_timer⟩
  | converged _ request _ _ found _ _ yields =>
      obtain ⟨alone, no_timer, _⟩ := held.request found
      exact held_of_nothing yields ⟨alone, no_timer⟩
  | chased _ request _ _ found _ leg attempt =>
      obtain ⟨alone, no_timer, _⟩ := held.request found
      exact attempt.held ⟨alone, no_timer⟩ (.inl (by rw [leg]; rfl))
  | retried _ timer _ found leg _ attempt =>
      obtain ⟨no_request, alone, state⟩ := held.timer found
      exact attempt.held ⟨no_request, alone⟩ (by rwa [leg])
  | expired _ timer _ found =>
      obtain ⟨no_request, alone, _⟩ := held.timer found
      exact held_of_nothing (Yields.nothing s.leg) ⟨no_request, alone⟩

theorem next_step {s t : Session} {e : Event} (taken : s.next isEqual settings e = some t) :
    ∃ m o, Step isEqual settings s e m o ∧ s.effects isEqual settings e = o.2 ∧ t = m.commit o := by
  obtain ⟨m, o, found, does, same⟩ := Session.next_eq_some isEqual settings taken
  exact ⟨m, o, outcome_step isEqual settings found, does, same⟩

/-- The behaviour becomes undefined with a rejection by the rate limit, and with nothing else. -/
theorem Step.lost_iff {s m : Session} {e : Event} {o : Leg × List Effect}
    (step : Step isEqual settings s e m o) : (m.commit o).lost = false ↔ NotRateLimited e := by
  have goes {o : Leg × List Effect} {requests : List Request} {timers : List RetryTimer}
      {fatal : Bool} (yields : Yields o requests timers fatal) : (m.commit o).lost = false :=
    yields.defined
  have tried {helper : Helper} {counter : Nat} {link : Link} {o : Leg × List Effect}
      (attempt : Attempt settings helper counter link o) : (m.commit o).lost = false := by
    cases attempt with
    | sent _ _ yields | lost _ _ yields => exact goes yields
    | delayed _ retry =>
        cases retry with
        | deferred _ yields | exhausted _ yields => exact goes yields
  cases step with
  | unready | updated | expired => exact iff_of_true (goes (Yields.nothing _)) trivial
  | submitted _ _ _ _ _ attempt | changed _ _ _ _ _ attempt | chased _ _ _ _ _ _ _ attempt
  | retried _ _ _ _ _ _ attempt => exact iff_of_true (tried attempt) trivial
  | noted _ _ _ _ yields | converged _ _ _ _ _ _ _ yields => exact iff_of_true (goes yields) trivial
  | refused _ _ _ _ _ _ other _ yields => exact iff_of_true (goes yields) other
  | rejected _ _ _ _ _ limit _ dangles =>
      refine iff_of_false (fun defined => ?_) fun other => other limit
      exact Bool.noConfusion (defined.symm.trans dangles.undefined)

theorem next_lost_iff {s t : Session} {e : Event}
    (taken : s.next isEqual settings e = some t) : t.lost = false ↔ NotRateLimited e := by
  obtain ⟨m, o, step, _, rfl⟩ := next_step taken
  exact step.lost_iff

theorem next_held {s t : Session} {e : Event} (held : Held s)
    (taken : s.next isEqual settings e = some t) : Held t := by
  obtain ⟨m, o, step, _, rfl⟩ := next_step taken
  exact step.held held

end RoqSamples.Strategy1.LegTokens
