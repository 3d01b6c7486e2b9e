/- Strategy1/LegProgress
   digest: A leg that is creating or changing has something to wait for exactly as long as none of
     its sends has thrown NotConnected and none of its requests met the rate limit. -/
import RoqSamples.Strategy1.LegTokens

set_option autoImplicit false
set_option relaxedAutoImplicit false

namespace RoqSamples.Strategy1.LegProgress

open RoqSamples.Arith (Double)
open RoqSamples.Client
open RoqSamples.Execution.Runs
open RoqSamples.Strategy1.LegTokens
open Session (next initial NotRateLimited)

variable (isEqual : Double → Double → Bool) (settings : Settings)

/-- The send goes out to a gateway that is not connected. -/
def Throws (link : Link) : Prop := link.ready = true ∧ link.connected = false

/-- Unless log::fatal has been reached, a leg that is creating or changing has exactly one
outstanding request or pending retry timer. -/
def Waits (s : Session) : Prop :=
  s.stopped = false → s.leg.state = .creating ∨ s.leg.state = .changing →
    s.requests.length + s.timers.length = 1

/-- The behaviour is defined, and the leg has something to wait for. -/
def Progresses (s : Session) : Prop := s.lost = false ∧ Waits s

/-- No send that is due throws: the first one of a create when the market is ready, the one of a
modify when the price has changed, and the one of a retry unless the order is completed. -/
def NoneThrown (s : Session) : Event → Prop
  | .market ready status link =>
      s.leg.state = .undefined → ready = true → status = .«open» → ¬ Throws link
  | .modifyOrder price link =>
      s.leg.state = .waiting → isEqual s.leg.price price = false → ¬ Throws link
  | .response _ (.success ack) link => isEqual ack.price s.leg.price = false → ¬ Throws link
  | .timer _ link => s.leg.state ≠ .finished → ¬ Throws link
  | .response _ (.failure _) _ | .orderUpdate _ => True

variable {isEqual settings}

private theorem waits_of_settled {s : Session}
    (settled : s.leg.state ≠ .creating ∧ s.leg.state ≠ .changing) : Waits s := by
  intro _ state
  rcases state with creating | changing
  · exact (settled.1 creating).elim
  · exact (settled.2 changing).elim

/-- A leg that has ended waits for nothing. -/
private theorem waits_of_ended {s : Session}
    (ended : s.leg.state = .finished ∨ s.leg.state = .failed) : Waits s := by
  refine waits_of_settled ?_
  rcases ended with state | state
  · rw [state]
    exact ⟨by decide, by decide⟩
  · rw [state]
    exact ⟨by decide, by decide⟩

private theorem expected_unsettled (helper : Helper) :
    helper.expected = .creating ∨ helper.expected = .changing := by
  cases helper with
  | submit => exact .inl rfl
  | modify => exact .inr rfl

/-- A retry always leaves something to wait for, or stops. -/
private theorem retry_waits {m : Session} {helper : Helper} {counter : Nat}
    {o : Leg × List Effect} (retry : Retry settings helper counter o)
    (free : m.requests = [] ∧ m.timers = []) : Waits (m.commit o) := by
  cases retry with
  | deferred _ yields =>
      rw [commit_eq yields, free.1, free.2]
      exact fun _ _ => rfl
  | exhausted _ yields =>
      rw [commit_eq yields]
      exact fun running _ => Bool.noConfusion running

/-- An attempt to send leaves something to wait for exactly when it does not throw. -/
private theorem attempt_waits {m : Session} {helper : Helper} {counter : Nat} {link : Link}
    {o : Leg × List Effect} (attempt : Attempt settings helper counter link o)
    (free : m.requests = [] ∧ m.timers = []) (state : o.1.state = helper.expected) :
    Waits (m.commit o) ↔ ¬ Throws link := by
  cases attempt with
  | sent _ connected yields =>
      rw [commit_eq yields, free.1, free.2]
      refine iff_of_true (fun _ _ => rfl) ?_
      exact fun throws => Bool.noConfusion (connected.symm.trans throws.2)
  | lost ready connected yields =>
      rw [commit_eq yields, free.1, free.2]
      refine iff_of_false (fun waits => ?_) fun calm => calm ⟨ready, connected⟩
      have one := waits rfl (by rw [state]; exact expected_unsettled helper)
      exact Nat.noConfusion one
  | delayed busy retry =>
      refine iff_of_true (retry_waits retry free) fun throws => ?_
      exact Bool.noConfusion (busy.symm.trans throws.1)

/-- A leg that starts nothing and does not change its state keeps what it waits for. -/
private theorem quiet_waits {s : Session} {o : Leg × List Effect}
    (running : s.stopped = false) (waits : Waits s) (yields : Yields o [] [] false)
    (same : o.1.state = s.leg.state) : Waits (s.commit o) := by
  rw [commit_eq yields]
  intro _ state
  simpa using waits running (by rwa [← same])

private theorem step_waits {s m : Session} {e : Event} {o : Leg × List Effect}
    (held : Held s) (running : s.stopped = false) (waits : Waits s)
    (unlimited : NotRateLimited e) (step : Step isEqual settings s e m o) :
    Waits (m.commit o) ↔ NoneThrown isEqual s e := by
  cases step with
  | unready ready status link idle =>
      refine iff_of_true (quiet_waits running waits (Yields.nothing s.leg) rfl) ?_
      exact fun state up «open» => (idle ⟨state, up, «open»⟩).elim
  | submitted ready status link guard leg attempt =>
      obtain ⟨state, up, «open»⟩ := guard
      rw [attempt_waits attempt (held.free (.inl state)) (by rw [leg]; rfl)]
      exact ⟨fun calm _ _ _ => calm, fun calm => calm state up «open»⟩
  | noted price link reason leg yields =>
      refine iff_of_true (quiet_waits running waits yields (by rw [leg])) ?_
      intro state differs
      rcases reason with idle | equal
      · exact (idle state).elim
      · exact Bool.noConfusion (differs.symm.trans equal)
  | changed price link state differs leg attempt =>
      rw [attempt_waits attempt (held.free (.inr state)) (by rw [leg]; rfl)]
      exact ⟨fun calm _ _ => calm, fun calm => calm state differs⟩
  | updated orderStatus =>
      refine iff_of_true ?_ trivial
      by_cases completed : orderStatus = .completed
      · refine waits_of_settled ?_
        simp [Session.commit, Leg.onOrderUpdate, completed]
      · intro _ state
        simp only [Session.commit, Leg.onOrderUpdate, if_neg completed] at state
        simpa [Session.commit] using waits running state
  | rejected index request ack link found limit _ _ => exact (unlimited limit).elim
  | refused index request ack link fatal found _ leg yields =>
      refine iff_of_true (waits_of_ended ?_) trivial
      rw [commit_eq yields, leg]
      cases fatal with
      | false => exact .inl rfl
      | true => exact .inr rfl
  | converged index request ack link found equal leg yields =>
      refine iff_of_true (waits_of_settled ?_) ?_
      · rw [commit_eq yields, leg]
        exact ⟨State.noConfusion, State.noConfusion⟩
      · exact fun differs => Bool.noConfusion (differs.symm.trans equal)
  | chased index request ack link found differs leg attempt =>
      obtain ⟨alone, no_timer, _⟩ := held.request found
      have sends := attempt_waits (m := { s with requests := s.requests.eraseIdx index })
        attempt ⟨alone, no_timer⟩ (by rw [leg]; rfl)
      rw [sends]
      exact ⟨fun calm _ => calm, fun calm => calm differs⟩
  | retried index timer link found leg _ attempt =>
      obtain ⟨no_request, alone, expected | finished⟩ := held.timer found
      · have unfinished : s.leg.state ≠ .finished := by
          rw [expected]
          cases timer.helper <;> decide
        have sends := attempt_waits (m := { s with timers := s.timers.eraseIdx index })
          attempt ⟨no_request, alone⟩ (by rw [leg, expected])
        rw [sends]
        exact ⟨fun calm _ => calm, fun calm => calm unfinished⟩
      · -- a retry of a create after the completion: the leg no longer waits for anything
        refine iff_of_true (waits_of_ended ?_) fun unfinished => (unfinished finished).elim
        exact .inl ((congrArg Leg.state leg).trans finished)
  | expired index timer link found helper gone =>
      refine iff_of_true (waits_of_ended gone) fun unfinished => ?_
      obtain ⟨_, _, expected | finished⟩ := held.timer found
      · rw [helper] at expected
        rcases gone with finished | failed
        · exact (unfinished finished).elim
        · exact State.noConfusion (failed.symm.trans expected)
      · exact (unfinished finished).elim

/-- For every interleaving of market events, rate limiter answers, sends, responses with any error,
retry timers, modify_order calls and OrderUpdates: a leg never gets stuck exactly when no send that
is due throws NotConnected and no request is answered by REQUEST_RATE_LIMIT_REACHED. -/
theorem never_stuck_iff (side : Side) (quantity price : Double) (es : List Event) :
    AllStates (next isEqual settings) Progresses (initial side quantity price) es ↔
      AllSteps (next isEqual settings) (fun s e => NoneThrown isEqual s e ∧ NotRateLimited e)
        (initial side quantity price) es := by
  have start : Progresses (initial side quantity price) :=
    ⟨rfl, waits_of_settled ⟨nofun, nofun⟩⟩
  refine allStates_iff_allSteps (I := Held) (fun _ _ _ held taken => next_held held taken) ?_
    (initial_held side quantity price) start
  intro s e t held progresses taken
  have running : s.stopped = false := by
    have going := Session.not_ended isEqual settings taken
    exact (Bool.or_eq_false_iff.mp going).1
  obtain ⟨m, o, step, _, rfl⟩ := next_step taken
  constructor
  · rintro ⟨defined, waits⟩
    have unlimited := step.lost_iff.mp defined
    exact ⟨(step_waits held running progresses.2 unlimited step).mp waits, unlimited⟩
  · rintro ⟨calm, unlimited⟩
    exact ⟨step.lost_iff.mpr unlimited,
      (step_waits held running progresses.2 unlimited step).mpr calm⟩

/-- The market opens while the gateway is not connected. -/
def lostCreate : List Event := [.market true .«open» ⟨true, 0, false⟩]

/-- The exception is caught and ignored: the leg stays CREATING and waits for nothing. -/
theorem lost_create_freezes_leg :
    ¬ AllStates (next (fun x y => decide (x = y)) ⟨0, 3, 10000000000⟩) Progresses
      (initial .sell 1 100) lostCreate := by
  rintro ⟨_, _, waits⟩
  have none_left := waits rfl (.inl rfl)
  exact Nat.noConfusion none_left

end RoqSamples.Strategy1.LegProgress
