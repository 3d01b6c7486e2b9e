/- Strategy1/LegSteps
   digest: The price that a step of a leg sends, the states that it cannot leave, and the assertions
     that it evaluates. -/
import RoqSamples.Strategy1.LegCompletion
import RoqSamples.Strategy1.LegDiscipline

set_option autoImplicit false
set_option relaxedAutoImplicit false

namespace RoqSamples.Strategy1.LegSteps

open RoqSamples.Arith (Double)
open RoqSamples.Client
open RoqSamples.Execution.Runs
open RoqSamples.Strategy1.LegTokens
open Session (effects next initial requestOf timerOf)

variable {isEqual : Double → Double → Bool} {settings : Settings}

/-- An attempt sends the price of the leg, if anything. -/
private theorem attempt_price {helper : Helper} {counter : Nat} {link : Link}
    {o : Leg × List Effect} (attempt : Attempt settings helper counter link o) {request : Request}
    (mem : request ∈ o.2.filterMap requestOf) : request.price = o.1.price := by
  cases attempt with
  | sent _ _ yields =>
      rw [yields.requests] at mem
      rw [List.mem_singleton.mp mem]
  | lost _ _ yields =>
      rw [yields.requests] at mem
      exact (List.not_mem_nil mem).elim
  | delayed _ retry =>
      cases retry with
      | deferred _ yields | exhausted _ yields =>
          rw [yields.requests] at mem
          exact (List.not_mem_nil mem).elim

/-- Every request carries the price that the step leaves behind. -/
theorem sent_price {s m : Session} {e : Event} {o : Leg × List Effect}
    (step : Step isEqual settings s e m o) {request : Request}
    (mem : request ∈ o.2.filterMap requestOf) : request.price = o.1.price := by
  have quiet {timers : List RetryTimer} {fatal : Bool} (yields : Yields o [] timers fatal) :
      request.price = o.1.price := by
    rw [yields.requests] at mem
    exact (List.not_mem_nil mem).elim
  cases step with
  | submitted _ _ _ _ _ attempt | changed _ _ _ _ _ attempt | chased _ _ _ _ _ _ _ attempt
  | retried _ _ _ _ _ _ attempt => exact attempt_price attempt mem
  | noted _ _ _ _ yields | refused _ _ _ _ _ _ _ _ yields | converged _ _ _ _ _ _ _ yields =>
      exact quiet yields
  | rejected _ _ _ _ _ _ _ dangles =>
      rw [dangles.requests] at mem
      exact (List.not_mem_nil mem).elim
  | unready | updated | expired => exact (List.not_mem_nil mem).elim

/-- A finished leg holds no token that could take it out of that state. -/
theorem finished_step {s m : Session} {e : Event} {o : Leg × List Effect}
    (tracked : LegCompletion.Tracked s) (answered : LegCompletion.AnsweredFirst s e)
    (step : Step isEqual settings s e m o) (finished : s.leg.state = .finished) :
    o.1.state = .finished ∧ o.2.filterMap requestOf = [] := by
  have other (helper : Helper) : s.leg.state ≠ helper.expected := by
    rw [finished]
    cases helper <;> decide
  have unanswered {index : Nat} {request : Request} {response : Response} {link : Link}
      (answered : LegCompletion.AnsweredFirst s (.response index response link))
      (found : s.requests[index]? = some request) : False := by
    cases completed : s.completed with
    | true => exact answered completed
    | false =>
        rw [(LegCompletion.no_token tracked completed other).1] at found
        cases found
  cases step with
  | unready => exact ⟨finished, rfl⟩
  | submitted _ _ _ guard => cases finished.symm.trans guard.1
  | noted _ _ _ leg yields => exact ⟨by rw [leg]; exact finished, yields.requests⟩
  | changed _ _ state => cases finished.symm.trans state
  | updated orderStatus =>
      refine ⟨?_, rfl⟩
      unfold Leg.onOrderUpdate
      split
      · rfl
      · exact finished
  | rejected _ _ _ _ found => exact (unanswered answered found).elim
  | refused _ _ _ _ _ found => exact (unanswered answered found).elim
  | converged _ _ _ _ found => exact (unanswered answered found).elim
  | chased _ _ _ _ found => exact (unanswered answered found).elim
  | retried index timer link found leg resumes _ =>
      cases completed : s.completed with
      | true =>
          have helper : timer.helper = .modify := answered completed timer found
          rcases resumes with submit | unfinished
          · cases submit.symm.trans helper
          · exact (unfinished finished).elim
      | false =>
          rw [(LegCompletion.no_token tracked completed other).2] at found
          cases found
  | expired => exact ⟨finished, rfl⟩

/-- Only a COMPLETED OrderUpdate completes a leg. -/
theorem completed_step {s m : Session} {e : Event} {o : Leg × List Effect}
    (step : Step isEqual settings s e m o) (completed : m.completed = true) :
    s.completed = true ∨ e = .orderUpdate .completed := by
  cases step with
  | updated orderStatus =>
      rcases Bool.or_eq_true_iff.mp completed with before | now
      · exact .inl before
      · rw [of_decide_eq_true now]
        exact .inr rfl
  | unready | submitted | noted | changed | rejected | refused | converged | chased | retried
  | expired => exact .inl completed

/-- The market events with which a leg starts. -/
def Opens : Event → Prop
  | .market ready tradingStatus _ => ready = true ∧ tradingStatus = .«open»
  | _ => False

private theorem started_of_held {state : State} {helper : Helper}
    (held : state = helper.expected ∨ state = .finished) : state ≠ .undefined := by
  rintro rfl
  cases helper <;> simp [Helper.expected] at held

/-- A leg leaves UNDEFINED when the market opens, and never returns. -/
theorem undefined_step {s m : Session} {e : Event} {o : Leg × List Effect} (held : Held s)
    (submitted : e = .orderUpdate .completed → s.leg.state ≠ .undefined)
    (step : Step isEqual settings s e m o) :
    o.1.state = .undefined ↔ s.leg.state = .undefined ∧ ¬ Opens e := by
  cases step with
  | unready ready status link idle =>
      refine ⟨fun state => ⟨state, fun opens => idle ⟨state, opens⟩⟩, fun both => both.1⟩
  | submitted ready status link guard leg _ =>
      rw [leg]
      exact iff_of_false State.noConfusion fun both => both.2 guard.2
  | noted _ _ _ leg _ =>
      rw [leg]
      exact ⟨fun state => ⟨state, id⟩, fun both => both.1⟩
  | changed _ _ state _ leg _ =>
      rw [leg]
      refine iff_of_false State.noConfusion fun both => ?_
      cases state.symm.trans both.1
  | updated orderStatus =>
      by_cases completed : orderStatus = .completed
      · rw [completed] at submitted ⊢
        exact iff_of_false State.noConfusion fun both => submitted rfl both.1
      · simp only [Leg.onOrderUpdate, if_neg completed]
        exact ⟨fun state => ⟨state, id⟩, fun both => both.1⟩
  | rejected _ _ _ _ found _ leg _ =>
      rw [leg]
      have started := started_of_held (held.request found).2.2
      exact iff_of_false started fun both => started both.1
  | refused _ _ _ _ fatal found _ leg _ =>
      rw [leg]
      have started := started_of_held (held.request found).2.2
      refine iff_of_false ?_ fun both => started both.1
      cases fatal <;> exact State.noConfusion
  | converged _ _ _ _ found _ leg _ =>
      rw [leg]
      have started := started_of_held (held.request found).2.2
      exact iff_of_false State.noConfusion fun both => started both.1
  | chased _ _ _ _ found _ leg _ =>
      rw [leg]
      have started := started_of_held (held.request found).2.2
      exact iff_of_false State.noConfusion fun both => started both.1
  | retried _ _ _ found leg _ _ =>
      rw [leg]
      have started := started_of_held (held.timer found).2.2
      exact iff_of_false started fun both => started both.1
  | expired _ _ _ found =>
      have started := started_of_held (held.timer found).2.2
      exact iff_of_false started fun both => started both.1

/-- An assertion holds: the leg is in the state expected, the price is a number, and the branch that
should never be taken is not. -/
def Holds : Check → Prop
  | .inState expected actual => actual = expected
  | .number price => price ≠ .nan
  | .unexpected _ => False

/-- The assertions of an outcome that do not compare states hold. -/
def Foreseen (o : Leg × List Effect) : Prop :=
  ∀ check, Effect.check check ∈ o.2 → (∃ expected actual, check = .inState expected actual) ∨
    Holds check

private theorem foreseen_nil (leg : Leg) : Foreseen (leg, []) :=
  fun _ mem => (List.not_mem_nil mem).elim

private theorem Foreseen.check {leg leg' : Leg} {effects : List Effect}
    (foreseen : Foreseen (leg, effects)) (expected actual : State) :
    Foreseen (leg', .check (.inState expected actual) :: effects) := by
  intro check mem
  rcases List.mem_cons.mp mem with same | later
  · cases same
    exact .inl ⟨expected, actual, rfl⟩
  · exact foreseen check later

private theorem Foreseen.number {leg leg' : Leg} {effects : List Effect}
    (foreseen : Foreseen (leg, effects)) {price : Double} (number : price ≠ .nan) :
    Foreseen (leg', .check (.number price) :: effects) := by
  intro check mem
  rcases List.mem_cons.mp mem with same | later
  · cases same
    exact .inr number
  · exact foreseen check later

private theorem foreseen_single (leg : Leg) {effect : Effect}
    (silent : ∀ check, effect ≠ .check check) : Foreseen (leg, [effect]) := by
  intro check mem
  exact (silent check (List.mem_singleton.mp mem).symm).elim

private theorem handleRetry_foreseen (helper : Helper) (delay : Int) (counter : Nat) (leg : Leg) :
    Foreseen (leg.handleRetry helper settings delay counter) := by
  unfold Leg.handleRetry
  split
  · have stops : Foreseen (leg, [.fatal .tooManyRetries]) := foreseen_single leg nofun
    exact stops.check _ _
  · have waits : Foreseen (leg, [.addTimer delay helper counter]) := foreseen_single leg nofun
    exact waits.check _ _

private theorem trySend_foreseen (helper : Helper) (link : Link) (counter : Nat)
    (request : Effect) (silent : ∀ check, request ≠ .check check) (leg : Leg) :
    Foreseen (leg.trySend helper settings link counter request) := by
  unfold Leg.trySend
  split
  · split
    · exact foreseen_single leg silent
    · exact foreseen_nil leg
  · exact handleRetry_foreseen helper link.delay counter leg

private theorem submitOrderHelper_foreseen (link : Link) (counter : Nat) (leg : Leg) :
    Foreseen (leg.submitOrderHelper settings link counter) :=
  (trySend_foreseen .submit link counter (.createOrder _ counter) nofun leg).check _ _

private theorem modifyOrderHelper_foreseen (link : Link) (counter : Nat) (leg : Leg)
    (state : leg.state = .changing ∨ leg.state = .finished ∨ leg.state = .failed) :
    Foreseen (leg.modifyOrderHelper settings link counter) := by
  let request := Effect.modifyOrder (Leg.createModifyOrderRequest leg.price) counter
  have sends : Foreseen (leg.trySend .modify settings link counter request) :=
    trySend_foreseen .modify link counter request nofun leg
  rcases state with state | state | state
  · simpa only [Leg.modifyOrderHelper, state] using sends
  · simpa only [Leg.modifyOrderHelper, state] using foreseen_nil leg
  · simpa only [Leg.modifyOrderHelper, state] using foreseen_nil leg

private theorem respond_foreseen (request : Request) (link : Link) (leg : Leg)
    (response : Response) :
    Foreseen (Session.respond isEqual settings request link leg response) := by
  cases response with
  | failure ack =>
      unfold Session.respond Leg.handleFailure
      dsimp only
      split
      · have calls : Foreseen
            (leg, [.danglingCall settings.retryDelay request.helper request.retryCounter]) :=
          foreseen_single leg nofun
        exact calls.check _ _
      · split
        · exact (foreseen_nil leg).check _ _
        · have stops : Foreseen (leg, [.fatal (.unexpectedError ack.error)]) :=
            foreseen_single leg nofun
          exact stops.check _ _
  | success ack =>
      unfold Session.respond Leg.handleSuccess
      dsimp only
      split
      · exact (foreseen_nil leg).check _ _
      · exact (modifyOrderHelper_foreseen link 0 { leg with state := .changing }
          (.inl rfl)).check _ _

private theorem modifyOrder_foreseen (link : Link) {price : Double} {leg : Leg}
    (number : price ≠ .nan) (started : leg.state ≠ .undefined) :
    Foreseen (leg.modifyOrder isEqual settings link price) := by
  unfold Leg.modifyOrder
  dsimp only
  split
  · exact (foreseen_nil leg).number number
  · cases state : leg.state with
    | undefined => exact (started state).elim
    | waiting =>
        let changing : Leg := { leg with price := price, state := .changing }
        have sends : Foreseen (changing.modifyOrderHelper settings link 0) :=
          modifyOrderHelper_foreseen link 0 changing (.inl rfl)
        exact sends.number number
    | creating | changing | finished | failed => exact (foreseen_nil leg).number number

/-- No step of a leg takes a branch that should never be taken, provided that it is asked to modify
its order to a number, after it has left UNDEFINED. -/
theorem outcome_foreseen {s m : Session} {e : Event} {o : Leg × List Effect} (held : Held s)
    (asked : ∀ price link, e = .modifyOrder price link →
      price ≠ .nan ∧ s.leg.state ≠ .undefined)
    (found : s.outcome isEqual settings e = some (m, o)) : Foreseen o := by
  cases e with
  | market ready status link =>
      cases found
      unfold Leg.maybeSubmitOrder
      split
      · exact (submitOrderHelper_foreseen link 0 { s.leg with state := .creating }).check _ _
      · exact foreseen_nil _
  | response index response link =>
      obtain ⟨request, _, same⟩ := Option.map_eq_some_iff.mp found
      cases same
      exact respond_foreseen request link s.leg response
  | timer index link =>
      obtain ⟨timer, at_index, same⟩ := Option.map_eq_some_iff.mp found
      cases same
      obtain ⟨_, _, state⟩ := held.timer at_index
      unfold Session.fire
      cases helper : timer.helper with
      | submit => exact submitOrderHelper_foreseen link _ s.leg
      | modify =>
          rw [helper] at state
          exact modifyOrderHelper_foreseen link _ s.leg (state.imp_right .inl)
  | modifyOrder price link =>
      cases found
      obtain ⟨number, started⟩ := asked price link rfl
      exact modifyOrder_foreseen link number started
  | orderUpdate orderStatus =>
      cases found
      exact foreseen_nil _

end RoqSamples.Strategy1.LegSteps
