/- Strategy1/LegCompletion
   digest: A completed leg stays finished exactly when no callback of its requests runs after the
     completion and no rejection makes one call its retry, whatever the interleaving. -/
import RoqSamples.Strategy1.LegTokens

set_option autoImplicit false
set_option relaxedAutoImplicit false

namespace RoqSamples.Strategy1.LegCompletion

open RoqSamples.Arith (Double)
open RoqSamples.Client
open RoqSamples.Execution.Runs
open RoqSamples.Strategy1.LegTokens (next_lost_iff)
open Session (effects next initial requestOf timerOf NotRateLimited)

variable (isEqual : Double → Double → Bool) (settings : Settings)

/-- What completion promises of one step: it has a defined behaviour, the assertions that it
evaluates hold, the leg is finished once a COMPLETED OrderUpdate has been processed, and it then
sends no ModifyOrder. -/
structure FinishedForGood (s : Session) (e : Event) : Prop where
  defined : ∀ t, next isEqual settings s e = some t → t.lost = false
  assertions : ∀ expected actual,
    Effect.check (.inState expected actual) ∈ effects isEqual settings s e → actual = expected
  finished : ∀ t, next isEqual settings s e = some t → t.completed = true →
    t.leg.isFinished = true
  silent : s.completed = true → ∀ request retryCounter,
    Effect.modifyOrder request retryCounter ∉ effects isEqual settings s e

/-- Once a COMPLETED OrderUpdate has been processed, no response to a request is delivered and no
retry timer of a create fires. -/
def AnsweredFirst (s : Session) (e : Event) : Prop :=
  s.completed = true →
    match e with
    | .response _ _ _ => False
    | .timer index _ => ∀ timer ∈ s.timers[index]?, timer.helper = .modify
    | _ => True

/-- An outcome that hands on at most one token, held by the state the leg is left in, and whose
assertions hold. -/
structure HandsOn (outcome : Leg × List Effect) : Prop where
  one : (outcome.2.filterMap requestOf).length + (outcome.2.filterMap timerOf).length ≤ 1
  requests : ∀ request ∈ outcome.2.filterMap requestOf,
    outcome.1.state = request.helper.expected
  timers : ∀ timer ∈ outcome.2.filterMap timerOf, outcome.1.state = timer.helper.expected
  checks : ∀ expected actual, Effect.check (.inState expected actual) ∈ outcome.2 →
    actual = expected

/-- An outcome that leaves the state alone, requests nothing and evaluates no assertion about the
state. -/
structure Idle (leg : Leg) (outcome : Leg × List Effect) : Prop where
  state : outcome.1.state = leg.state
  requests : outcome.2.filterMap requestOf = []
  timers : outcome.2.filterMap timerOf = []
  checks : ∀ expected actual, Effect.check (.inState expected actual) ∉ outcome.2

private theorem idle_nil (leg : Leg) : Idle leg (leg, []) :=
  ⟨rfl, rfl, rfl, by simp⟩

private theorem handsOn_of_no_token {outcome : Leg × List Effect}
    (requests : outcome.2.filterMap requestOf = []) (timers : outcome.2.filterMap timerOf = [])
    (checks : ∀ expected actual, Effect.check (.inState expected actual) ∉ outcome.2) :
    HandsOn outcome := by
  refine ⟨by simp [requests, timers], by simp [requests], by simp [timers], ?_⟩
  intro expected actual mem
  exact (checks expected actual mem).elim

private theorem HandsOn.check {leg : Leg} {effects : List Effect} (sound : HandsOn (leg, effects))
    {expected actual : State} (holds : actual = expected) :
    HandsOn (leg, .check (.inState expected actual) :: effects) := by
  refine ⟨sound.one, sound.requests, sound.timers, ?_⟩
  intro expected' actual' mem
  rcases List.mem_cons.mp mem with here | there
  · cases here
    exact holds
  · exact sound.checks expected' actual' there

private theorem HandsOn.number {leg : Leg} {effects : List Effect} (sound : HandsOn (leg, effects))
    (price : Double) : HandsOn (leg, .check (.number price) :: effects) := by
  refine ⟨sound.one, sound.requests, sound.timers, ?_⟩
  intro expected' actual' mem
  rcases List.mem_cons.mp mem with here | there
  · cases here
  · exact sound.checks expected' actual' there

private theorem handleRetry_handsOn (helper : Helper) (delay : Int) (retryCounter : Nat)
    (leg : Leg) (state : leg.state = helper.expected) :
    HandsOn (leg.handleRetry helper settings delay retryCounter) := by
  unfold Leg.handleRetry
  refine HandsOn.check ?_ state
  split
  · exact handsOn_of_no_token rfl rfl (by simp)
  · exact ⟨by simp [requestOf, timerOf], by simp [requestOf], by simpa [timerOf] using state,
      by simp⟩

private theorem trySend_handsOn (helper : Helper) (link : Link) (retryCounter : Nat)
    (request : Effect) (leg : Leg) (state : leg.state = helper.expected)
    (pending : ∃ price, requestOf request = some ⟨helper, retryCounter, price⟩)
    (no_timer : timerOf request = none) :
    HandsOn (leg.trySend helper settings link retryCounter request) := by
  obtain ⟨price, pending⟩ := pending
  have no_check : ∀ expected actual, request ≠ Effect.check (.inState expected actual) := by
    rintro expected actual rfl
    simp [requestOf] at pending
  unfold Leg.trySend
  split
  · split
    · refine ⟨by simp [pending, no_timer], by simpa [pending] using state,
        by simp [no_timer], ?_⟩
      intro expected actual mem
      exact (no_check expected actual (List.mem_singleton.mp mem).symm).elim
    · exact handsOn_of_no_token rfl rfl (by simp)
  · exact handleRetry_handsOn settings helper link.delay retryCounter leg state

private theorem submitOrderHelper_handsOn (link : Link) (retryCounter : Nat) (leg : Leg)
    (state : leg.state = .creating) :
    HandsOn (leg.submitOrderHelper settings link retryCounter) :=
  (trySend_handsOn settings .submit link retryCounter _ leg state ⟨_, rfl⟩ rfl).check state

private theorem modifyOrderHelper_handsOn (link : Link) (retryCounter : Nat) (leg : Leg)
    (state : leg.state = .changing) :
    HandsOn (leg.modifyOrderHelper settings link retryCounter) := by
  have sent := trySend_handsOn settings .modify link retryCounter
    (.modifyOrder (Leg.createModifyOrderRequest leg.price) retryCounter) leg state ⟨_, rfl⟩ rfl
  simpa only [Leg.modifyOrderHelper, state] using sent

private theorem submitOrder_handsOn (link : Link) (leg : Leg) (state : leg.state = .undefined) :
    HandsOn (leg.submitOrder settings link) :=
  (submitOrderHelper_handsOn settings link 0 { leg with state := .creating } rfl).check state

private theorem handleFailure_handsOn (helper : Helper) (retryCounter : Nat)
    (orderAck : OrderAck) (leg : Leg) (state : leg.state = helper.expected) :
    HandsOn (leg.handleFailure helper settings retryCounter orderAck) := by
  unfold Leg.handleFailure
  dsimp only
  split
  · exact HandsOn.check (handsOn_of_no_token rfl rfl (by simp)) state
  · split
    · exact HandsOn.check (handsOn_of_no_token rfl rfl (by simp)) state
    · exact HandsOn.check (handsOn_of_no_token rfl rfl (by simp)) state

private theorem handleSuccess_handsOn (helper : Helper) (link : Link) (orderAck : OrderAck)
    (leg : Leg) (state : leg.state = helper.expected) :
    HandsOn (leg.handleSuccess isEqual helper settings link orderAck) := by
  unfold Leg.handleSuccess
  dsimp only
  split
  · exact HandsOn.check (handsOn_of_no_token rfl rfl (by simp)) state
  · have sent := modifyOrderHelper_handsOn settings link 0 { leg with state := .changing } rfl
    exact sent.check state

private theorem respond_handsOn (request : Request) (link : Link) (leg : Leg)
    (response : Response) (state : leg.state = request.helper.expected) :
    HandsOn (Session.respond isEqual settings request link leg response) := by
  cases response with
  | failure orderAck => exact handleFailure_handsOn settings _ _ orderAck leg state
  | success orderAck => exact handleSuccess_handsOn isEqual settings _ link orderAck leg state

private theorem fire_handsOn (timer : RetryTimer) (link : Link) (leg : Leg)
    (state : leg.state = timer.helper.expected) :
    HandsOn (Session.fire settings timer link leg) := by
  obtain ⟨helper, retryCounter⟩ := timer
  cases helper with
  | submit => exact submitOrderHelper_handsOn settings link _ leg state
  | modify => exact modifyOrderHelper_handsOn settings link _ leg state

/-- modify_order sends from WAITING only; everywhere else it just remembers the price. -/
private theorem modifyOrder_cases (link : Link) (price : Double) (leg : Leg) :
    Idle leg (leg.modifyOrder isEqual settings link price) ∨
      leg.state = .waiting ∧ HandsOn (leg.modifyOrder isEqual settings link price) := by
  unfold Leg.modifyOrder
  dsimp only
  split
  · exact .inl ⟨rfl, rfl, rfl, by simp⟩
  · cases state : leg.state with
    | waiting =>
        exact .inr ⟨rfl, (modifyOrderHelper_handsOn settings link 0
          { leg with price := price, state := .changing } rfl).number price⟩
    | _ => exact .inl ⟨state.symm, rfl, rfl, by simp⟩

private theorem maybeSubmitOrder_cases (link : Link) (ready : Bool)
    (tradingStatus : TradingStatus) (leg : Leg) :
    Idle leg (leg.maybeSubmitOrder settings link ready tradingStatus) ∨
      leg.state = .undefined ∧
        HandsOn (leg.maybeSubmitOrder settings link ready tradingStatus) := by
  unfold Leg.maybeSubmitOrder
  split
  · rename_i guard
    exact .inr ⟨guard.1, submitOrder_handsOn settings link leg guard.1⟩
  · exact .inl (idle_nil leg)

/-- Before the completion a single token, request or timer, is held by the state of the leg; from
the completion on the leg is finished. -/
structure Tracked (s : Session) : Prop where
  finished : s.completed = true → s.leg.state = .finished
  one : s.completed = false → s.requests.length + s.timers.length ≤ 1
  requests : s.completed = false → ∀ request ∈ s.requests,
    s.leg.state = request.helper.expected
  timers : s.completed = false → ∀ timer ∈ s.timers, s.leg.state = timer.helper.expected

private theorem tracked_of_completed {s : Session} (completed : s.completed = true)
    (finished : s.leg.state = .finished) : Tracked s := by
  refine ⟨fun _ => finished, ?_, ?_, ?_⟩ <;>
    exact fun pending => (Bool.false_ne_true (pending.symm.trans completed)).elim

theorem initial_tracked (side : Side) (quantity price : Double) :
    Tracked (initial side quantity price) :=
  ⟨fun completed => (Bool.false_ne_true completed).elim, fun _ => Nat.zero_le 1,
    fun _ _ mem => (List.not_mem_nil mem).elim, fun _ _ mem => (List.not_mem_nil mem).elim⟩

private theorem Idle.silent {leg : Leg} {outcome : Leg × List Effect} (idle : Idle leg outcome)
    (request : ModifyOrder) (retryCounter : Nat) :
    Effect.modifyOrder request retryCounter ∉ outcome.2 := by
  intro mem
  have pending : (⟨.modify, retryCounter, request.price⟩ : Request) ∈
      outcome.2.filterMap requestOf := List.mem_filterMap.mpr ⟨_, mem, rfl⟩
  rw [idle.requests] at pending
  exact List.not_mem_nil pending

private theorem commit_idle {s : Session} {outcome : Leg × List Effect}
    (idle : Idle s.leg outcome) (tracked : Tracked s) : Tracked (s.commit outcome) := by
  obtain ⟨state, requests, timers, _⟩ := idle
  refine ⟨?_, ?_, ?_, ?_⟩
  · intro completed
    exact state.trans (tracked.finished completed)
  · intro pending
    simpa [Session.commit, requests, timers] using tracked.one pending
  · intro pending request mem
    simp only [Session.commit, requests, List.append_nil] at mem
    exact state.trans (tracked.requests pending request mem)
  · intro pending timer mem
    simp only [Session.commit, timers, List.append_nil] at mem
    exact state.trans (tracked.timers pending timer mem)

/-- A handler that hands on a token keeps the session tracked when no other token is left. -/
private theorem commit_handsOn {s : Session} {outcome : Leg × List Effect}
    (sound : HandsOn outcome) (pending : s.completed = false)
    (requests : s.requests = []) (timers : s.timers = []) : Tracked (s.commit outcome) := by
  refine ⟨?_, ?_, ?_, ?_⟩
  · intro completed
    exact (Bool.false_ne_true (pending.symm.trans completed)).elim
  · intro _
    simpa [Session.commit, requests, timers] using sound.one
  · intro _ request mem
    simp only [Session.commit, requests, List.nil_append] at mem
    exact sound.requests request mem
  · intro _ timer mem
    simp only [Session.commit, timers, List.nil_append] at mem
    exact sound.timers timer mem

theorem no_token {s : Session} (tracked : Tracked s) (pending : s.completed = false)
    (state : ∀ helper : Helper, s.leg.state ≠ helper.expected) :
    s.requests = [] ∧ s.timers = [] := by
  refine ⟨List.eq_nil_iff_forall_not_mem.mpr ?_, List.eq_nil_iff_forall_not_mem.mpr ?_⟩
  · exact fun request mem => state _ (tracked.requests pending request mem)
  · exact fun timer mem => state _ (tracked.timers pending timer mem)

/-- A leg that starts a request on its own has not completed, and holds no token. -/
private theorem no_token_of_state {s : Session} (tracked : Tracked s)
    (state : s.leg.state = .undefined ∨ s.leg.state = .waiting) :
    s.completed = false ∧ s.requests = [] ∧ s.timers = [] := by
  have pending : s.completed = false := by
    by_contra completed
    have finished := tracked.finished (by simpa using completed)
    rcases state with state | state <;> exact State.noConfusion (state.symm.trans finished)
  refine ⟨pending, no_token tracked pending fun helper => ?_⟩
  rcases state with state | state <;> rw [state] <;> cases helper <;> decide

/-- What a tracked session makes of an outcome: it stays tracked, the assertions hold, and nothing
is modified after the completion. -/
structure Sound (s m : Session) (o : Leg × List Effect) : Prop where
  tracked : Tracked (m.commit o)
  checks : ∀ expected actual, Effect.check (.inState expected actual) ∈ o.2 → actual = expected
  silent : s.completed = true → ∀ request retryCounter,
    Effect.modifyOrder request retryCounter ∉ o.2

private theorem Sound.of_idle {s m : Session} {o : Leg × List Effect} (idle : Idle m.leg o)
    (tracked : Tracked m) : Sound s m o where
  tracked := commit_idle idle tracked
  checks := fun expected actual mem => (idle.checks expected actual mem).elim
  silent := fun _ => idle.silent

private theorem Sound.of_handsOn {s m : Session} {o : Leg × List Effect} (sound : HandsOn o)
    (before : s.completed = false) (same : m.completed = false) (requests : m.requests = [])
    (timers : m.timers = []) : Sound s m o where
  tracked := commit_handsOn sound same requests timers
  checks := sound.checks
  silent := fun completed => (Bool.false_ne_true (before.symm.trans completed)).elim

private theorem response_sound {s m : Session} {index : Nat} {response : Response} {link : Link}
    {o : Leg × List Effect} (tracked : Tracked s) (pending : s.completed = false)
    (found : s.outcome isEqual settings (.response index response link) = some (m, o)) :
    Sound s m o := by
  obtain ⟨request, at_index, same⟩ := Option.map_eq_some_iff.mp found
  cases same
  have one := tracked.one pending
  obtain ⟨mem, erased⟩ := Session.sole_token at_index (by omega)
  have timers : s.timers = [] := by
    have present := List.length_pos_of_mem mem
    exact List.eq_nil_of_length_eq_zero (by omega)
  have state := tracked.requests pending request mem
  exact .of_handsOn (respond_handsOn isEqual settings request link s.leg response state) pending
    pending erased timers

/-- A timer of a modify that fires after the completion finds the leg FINISHED and stops. -/
private theorem timer_sound {s m : Session} {index : Nat} {link : Link} {o : Leg × List Effect}
    (tracked : Tracked s) (answered : AnsweredFirst s (.timer index link))
    (found : s.outcome isEqual settings (.timer index link) = some (m, o)) : Sound s m o := by
  obtain ⟨timer, at_index, same⟩ := Option.map_eq_some_iff.mp found
  cases same
  cases completed : s.completed with
  | true =>
      have helper : timer.helper = .modify := answered completed timer (by simp [at_index])
      have finished := tracked.finished completed
      have still : Session.fire settings timer link s.leg = (s.leg, []) := by
        simp only [Session.fire, helper, Leg.modifyOrderHelper, finished]
      rw [still]
      exact .of_idle (idle_nil _) (tracked_of_completed rfl finished)
  | false =>
      have one := tracked.one completed
      obtain ⟨mem, erased⟩ := Session.sole_token at_index (by omega)
      have requests : s.requests = [] := by
        have present := List.length_pos_of_mem mem
        exact List.eq_nil_of_length_eq_zero (by omega)
      have state := tracked.timers completed timer mem
      rw [← completed]
      exact .of_handsOn (fire_handsOn settings timer link s.leg state) completed completed requests
        erased

private theorem orderUpdate_sound {s m : Session} {orderStatus : OrderStatus}
    {o : Leg × List Effect} (tracked : Tracked s)
    (found : s.outcome isEqual settings (.orderUpdate orderStatus) = some (m, o)) :
    Sound s m o := by
  cases found
  refine ⟨?_, by simp, by simp⟩
  by_cases terminal : orderStatus = .completed
  · refine tracked_of_completed (by simp [Session.commit, terminal]) ?_
    simp [Session.commit, Leg.onOrderUpdate, terminal]
  · have same : s.leg.onOrderUpdate orderStatus = s.leg := by
      simp [Leg.onOrderUpdate, terminal]
    rw [same]
    exact commit_idle (s := { s with completed := _ }) (idle_nil _)
      (by simpa [terminal] using tracked)

/-- Every event whose callbacks come in time has a sound outcome. -/
private theorem outcome_sound {s m : Session} {e : Event} {o : Leg × List Effect}
    (tracked : Tracked s) (answered : AnsweredFirst s e)
    (found : s.outcome isEqual settings e = some (m, o)) : Sound s m o := by
  cases e with
  | market ready tradingStatus link =>
      cases found
      rcases maybeSubmitOrder_cases settings link ready tradingStatus s.leg with
        idle | ⟨state, sound⟩
      · exact .of_idle idle tracked
      · obtain ⟨pending, requests, timers⟩ := no_token_of_state tracked (.inl state)
        exact .of_handsOn sound pending pending requests timers
  | response index response link =>
      have pending : s.completed = false := by
        by_contra completed
        exact answered (by simpa using completed)
      exact response_sound isEqual settings tracked pending found
  | timer index link => exact timer_sound isEqual settings tracked answered found
  | modifyOrder price link =>
      cases found
      rcases modifyOrder_cases isEqual settings link price s.leg with idle | ⟨state, sound⟩
      · exact .of_idle idle tracked
      · obtain ⟨pending, requests, timers⟩ := no_token_of_state tracked (.inr state)
        exact .of_handsOn sound pending pending requests timers
  | orderUpdate orderStatus => exact orderUpdate_sound isEqual settings tracked found

theorem step_sound {s t : Session} {e : Event} (tracked : Tracked s)
    (answered : AnsweredFirst s e) (unlimited : NotRateLimited e)
    (taken : s.next isEqual settings e = some t) :
    Tracked t ∧ FinishedForGood isEqual settings s e := by
  have defined := (next_lost_iff taken).mpr unlimited
  obtain ⟨m, o, found, same, rfl⟩ := Session.next_eq_some isEqual settings taken
  obtain ⟨after, checks, silent⟩ := outcome_sound isEqual settings tracked answered found
  refine ⟨after, ?_, ?_, ?_, ?_⟩
  · intro t again
    cases taken.symm.trans again
    exact defined
  · rwa [same]
  · intro t again completed
    cases taken.symm.trans again
    simpa [Leg.isFinished] using after.finished completed
  · rwa [same]

private theorem respond_checks (request : Request) (link : Link) (leg : Leg)
    (response : Response) :
    Effect.check (.inState request.helper.expected leg.state) ∈
      (Session.respond isEqual settings request link leg response).2 := by
  cases response with
  | failure orderAck =>
      unfold Session.respond Leg.handleFailure
      dsimp only
      split_ifs <;> simp
  | success orderAck =>
      unfold Session.respond Leg.handleSuccess
      dsimp only
      split_ifs <;> simp

/-- A callback that runs after the completion finds the leg FINISHED and fails its assertion. -/
private theorem late_callback {s t : Session} {e : Event} (tracked : Tracked s)
    (taken : s.next isEqual settings e = some t) (good : FinishedForGood isEqual settings s e) :
    AnsweredFirst s e := by
  intro completed
  obtain ⟨m, o, found, same, _⟩ := Session.next_eq_some isEqual settings taken
  have finished := tracked.finished completed
  cases e with
  | response index response link =>
      obtain ⟨request, _, here⟩ := Option.map_eq_some_iff.mp found
      cases here
      have check := respond_checks isEqual settings request link s.leg response
      rw [← same] at check
      have state := good.assertions _ _ check
      rw [finished] at state
      exact Helper.casesOn (motive := fun helper => State.finished ≠ helper.expected)
        request.helper State.noConfusion State.noConfusion state
  | timer index link =>
      intro timer mem
      by_contra other
      have helper : timer.helper = .submit := by
        cases helper : timer.helper with
        | submit => rfl
        | modify => exact (other helper).elim
      have at_index : s.timers[index]? = some timer := mem
      simp only [Session.outcome, at_index, Option.map_some, Option.some.injEq, Prod.mk.injEq,
        Session.fire, helper] at found
      obtain ⟨_, rfl⟩ := found
      have state := good.assertions .creating s.leg.state (by
        rw [same]
        simp [Leg.submitOrderHelper])
      exact State.noConfusion (finished.symm.trans state)
  | _ => trivial

/-- For every interleaving of market events, responses, retry timers, modify_order calls and
OrderUpdates: completion is final and every assertion of a callback holds exactly when no request
is answered, and no create is retried, after a COMPLETED OrderUpdate, and no request is answered by
REQUEST_RATE_LIMIT_REACHED, where the callback has no defined behaviour. -/
theorem completion_is_final_iff (side : Side) (quantity price : Double) (es : List Event) :
    AllSteps (next isEqual settings) (FinishedForGood isEqual settings)
        (initial side quantity price) es ↔
      AllSteps (next isEqual settings) (fun s e => AnsweredFirst s e ∧ NotRateLimited e)
        (initial side quantity price) es := by
  refine allSteps_congr (I := Tracked) ?_ ?_ (initial_tracked side quantity price)
  · intro s e t tracked ⟨answered, unlimited⟩ taken
    exact (step_sound isEqual settings tracked answered unlimited taken).1
  · intro s e t tracked taken
    constructor
    · intro good
      exact ⟨late_callback isEqual settings tracked taken good,
        (next_lost_iff taken).mp (good.defined t taken)⟩
    · rintro ⟨answered, unlimited⟩
      exact (step_sound isEqual settings tracked answered unlimited taken).2

/-- The flags of the sample at their defaults. -/
def flagDefaults : Settings where
  strategyId := 0
  maxRetries := 3
  retryDelay := 10000000000

/-- A post-only order is created, rests and is filled; the fill overtakes the ack of the create. -/
def overtakingFill : List Event :=
  [.market true .«open» ⟨true, 0, true⟩,
    .orderUpdate .completed,
    .response 0
      (.success ⟨1, .sell, .createOrder, .accepted, .undefined, 100⟩) ⟨true, 0, true⟩]

/-- The callback of the create finds the leg FINISHED, its assertion fails, and the leg goes back
to WAITING although its order is completed. -/
theorem overtaking_fill_reopens_leg :
    (∃ t, run (next (fun x y => decide (x = y)) flagDefaults) (initial .sell 1 100)
        overtakingFill = some t ∧ t.completed = true ∧ t.leg.isFinished = false) ∧
      ¬ AllSteps (next (fun x y => decide (x = y)) flagDefaults)
        (FinishedForGood (fun x y => decide (x = y)) flagDefaults) (initial .sell 1 100)
        overtakingFill := by
  refine ⟨⟨_, rfl, rfl, rfl⟩, ?_⟩
  rintro ⟨_, _, last, _⟩
  have state := last.assertions .creating .finished (by
    change _ ∈ [Effect.check (.inState .creating .finished)]
    exact List.mem_singleton_self _)
  exact State.noConfusion state

end RoqSamples.Strategy1.LegCompletion
