/- Polling/Lifecycle
   digest: On one connection the polling strategy follows its lifecycle exactly as long as every ack
     that completes a request finds the strategy waiting for it. -/
import RoqSamples.Polling.Strategy

set_option autoImplicit false
set_option relaxedAutoImplicit false

namespace RoqSamples.Polling.Lifecycle

open RoqSamples.Client
open RoqSamples.Execution.Runs
open Session (effects next initial)

variable (maybeCompleted : RequestStatus → Bool)

/-- The intended lifecycle: one edge after the other, and from the two states of waiting a failure
or a timeout also leads to DONE. -/
def Edge : State → State → Prop
  | .undefined, .connecting | .connecting, .ready | .ready, .createOrder
  | .createOrder, .waitingCreate | .waitingCreate, .working | .waitingCreate, .done
  | .working, .cancelOrder | .cancelOrder, .waitingCancel | .waitingCancel, .done => True
  | _, _ => False

/-- DONE is never left. -/
theorem not_edge_done (state : State) : ¬ Edge .done state := by
  cases state <;> exact id

section Runs

variable [Utils]

/-- Every state that a step enters differs from the one before, and an edge leads there. -/
def OnTrack (s : Session) (e : Event) : Prop :=
  ∀ before after, Effect.check (.differs before after) ∈ s.effects maybeCompleted e →
    before ≠ after ∧ Edge before after

/-- The states that await an ack which completes a request. A failure, or the end of the order, may
come in either state of waiting; other requests have never been sent. -/
def awaits (state : State) (orderAck : OrderAck) : Bool :=
  if Utils.hasRequestFailed orderAck.requestStatus then
    state = .waitingCreate || state = .waitingCancel
  else
    match orderAck.requestType with
    | .createOrder => state = .waitingCreate
    | .cancelOrder => state = .waitingCreate || state = .waitingCancel
    | .undefined | .modifyOrder => true

/-- Acks that complete a request come while it is awaited, and refresh has been called before Ready,
the way dispatch() does. -/
def Awaited (s : Session) : Event → Prop
  | .orderAck orderAck _ =>
      maybeCompleted orderAck.requestStatus = true → awaits s.strategy.state orderAck = true
  | .ready _ => s.strategy.state ≠ .undefined
  | _ => True

instance (s : Session) : ∀ e, Decidable (Awaited maybeCompleted s e)
  | .orderAck _ _ => inferInstanceAs (Decidable (_ → _))
  | .ready _ => inferInstanceAs (Decidable (_ ≠ _))
  | .refresh _ _ _ | .connected | .disconnected _ | .downloadBegin | .downloadEnd _ =>
      inferInstanceAs (Decidable True)

def SingleConnection (e : Event) : Prop := ∀ clock, e ≠ .disconnected clock

/-- Until Ready has been received nothing has happened yet. -/
def Unready (s : Session) : Prop :=
  s.connection ≠ .ready → s.strategy.state = .undefined ∨ s.strategy.state = .connecting

variable {maybeCompleted}

/-- A handler that enters one state at most. -/
private theorem onTrack_of_setState {s : Session} {e : Event} (after : State)
    (changes : ∀ before next, Effect.check (.differs before next) ∈ s.effects maybeCompleted e ↔
      before = s.strategy.state ∧ next = after) :
    OnTrack maybeCompleted s e ↔ s.strategy.state ≠ after ∧ Edge s.strategy.state after := by
  constructor
  · intro onTrack
    exact onTrack _ _ ((changes _ _).mpr ⟨rfl, rfl⟩)
  · intro edge before next mem
    obtain ⟨rfl, rfl⟩ := (changes before next).mp mem
    exact edge

private theorem onTrack_of_unchanged {s : Session} {e : Event}
    (unchanged : ∀ before next,
      Effect.check (.differs before next) ∉ s.effects maybeCompleted e) :
    OnTrack maybeCompleted s e :=
  fun before next mem => (unchanged before next mem).elim

/-- A refresh moves along the lifecycle, whatever the clock says. -/
private theorem refresh_onTrack (s : Session) (now clock : Nat) (failure : Option SendError) :
    OnTrack maybeCompleted s (.refresh now clock failure) := by
  have sends_no_check (request : Effect) (check : Check) (other : request ≠ .check check) :
      Effect.check check ≠ Strategy.send failure request := by
    cases failure with
    | none => exact other.symm
    | some error => exact nofun
  intro before after mem
  by_cases early : now < s.strategy.nextUpdate
  · simp [Session.effects, Session.handle, Strategy.refresh, early] at mem
  · cases state : s.strategy.state with
    | connecting | done =>
        simp [Session.effects, Session.handle, Strategy.refresh, early, state] at mem
    | undefined | ready | waitingCreate | working | waitingCancel =>
        simp [Session.effects, Session.handle, Strategy.refresh, early, state,
          Strategy.setState, Strategy.andThen] at mem
        obtain ⟨rfl, rfl⟩ := mem
        exact ⟨nofun, trivial⟩
    | createOrder =>
        simp [Session.effects, Session.handle, Strategy.refresh, early, state,
          Strategy.setState, Strategy.andThen, Strategy.createOrder] at mem
        rcases mem with ⟨rfl, rfl⟩ | sent
        · exact ⟨nofun, trivial⟩
        · exact (sends_no_check (.createOrder _) _ nofun sent).elim
    | cancelOrder =>
        simp [Session.effects, Session.handle, Strategy.refresh, early, state,
          Strategy.setState, Strategy.andThen, Strategy.cancelOrder] at mem
        rcases mem with ⟨rfl, rfl⟩ | sent
        · exact ⟨nofun, trivial⟩
        · exact (sends_no_check (.cancelOrder _) _ nofun sent).elim

private theorem ack_onTrack (s : Session) (orderAck : OrderAck) (clock : Nat) :
    OnTrack maybeCompleted s (.orderAck orderAck clock) ↔
      Awaited maybeCompleted s (.orderAck orderAck clock) := by
  cases completed : maybeCompleted orderAck.requestStatus with
  | false =>
      have ignored : Awaited maybeCompleted s (.orderAck orderAck clock) := by
        intro up
        rw [completed] at up
        cases up
      refine iff_of_true (onTrack_of_unchanged ?_) ignored
      simp [Session.effects, Session.handle, Strategy.onOrderAck, completed]
  | true =>
      have awaited : Awaited maybeCompleted s (.orderAck orderAck clock) ↔
          awaits s.strategy.state orderAck = true := ⟨fun h => h completed, fun h _ => h⟩
      rw [awaited, awaits]
      by_cases failed : Utils.hasRequestFailed orderAck.requestStatus = true
      · rw [if_pos failed, onTrack_of_setState .done ?_]
        · cases s.strategy.state <;> simp [Edge]
        · simp [Session.effects, Session.handle, Strategy.onOrderAck, completed, failed,
            Strategy.setState]
      · rw [if_neg failed]
        cases type : orderAck.requestType with
        | undefined | modifyOrder =>
            refine iff_of_true (onTrack_of_unchanged ?_) rfl
            simp [Session.effects, Session.handle, Strategy.onOrderAck, completed, failed, type]
        | createOrder =>
            rw [onTrack_of_setState .working ?_]
            · cases s.strategy.state <;> simp [Edge]
            · simp [Session.effects, Session.handle, Strategy.onOrderAck, completed, failed, type,
                Strategy.setState]
        | cancelOrder =>
            rw [onTrack_of_setState .done ?_]
            · cases s.strategy.state <;> simp [Edge]
            · simp [Session.effects, Session.handle, Strategy.onOrderAck, completed, failed, type,
                Strategy.setState]

private theorem ready_onTrack (s : Session) (clock : Nat)
    (start : s.strategy.state = .undefined ∨ s.strategy.state = .connecting) :
    OnTrack maybeCompleted s (.ready clock) ↔ s.strategy.state ≠ .undefined := by
  rw [onTrack_of_setState .ready ?_]
  · rcases start with state | state <;> simp [state, Edge]
  · simp [Session.effects, Session.handle, Strategy.onReady, Strategy.andThen, Strategy.setState]

private theorem next_cases {s t : Session} {e : Event} (taken : s.next maybeCompleted e = some t) :
    Session.connect s.connection e = some t.connection ∧
      t.strategy = (Session.handle maybeCompleted s.strategy e).1 := by
  obtain ⟨_, connection, connects, rfl⟩ := Session.next_eq_some taken
  exact ⟨connects, rfl⟩

/-- On a single connection the step that a Ready takes finds the strategy unready. -/
private theorem step_onTrack {s t : Session} {e : Event} (unready : Unready s)
    (single : SingleConnection e) (taken : s.next maybeCompleted e = some t) :
    OnTrack maybeCompleted s e ↔ Awaited maybeCompleted s e := by
  obtain ⟨connects, _⟩ := next_cases taken
  cases e with
  | refresh now clock failure => exact iff_of_true (refresh_onTrack s now clock failure) trivial
  | orderAck orderAck clock => exact ack_onTrack s orderAck clock
  | disconnected clock => exact (single clock rfl).elim
  | connected | downloadBegin | downloadEnd =>
      refine iff_of_true (onTrack_of_unchanged ?_) trivial
      simp [Session.effects, Session.handle, Strategy.onConnected, Strategy.onDownloadEnd]
  | ready clock =>
      refine ready_onTrack s clock (unready ?_)
      intro already
      simp [Session.connect, already] at connects

/-- Acks that are awaited do not move a strategy that is not ready yet. -/
private theorem unready_step {s t : Session} {e : Event} (unready : Unready s)
    (single : SingleConnection e) (awaited : Awaited maybeCompleted s e)
    (taken : s.next maybeCompleted e = some t) : Unready t := by
  obtain ⟨connects, moved⟩ := next_cases taken
  intro still
  rw [moved]
  cases e with
  | disconnected clock => exact (single clock rfl).elim
  | ready clock =>
      simp only [Session.connect] at connects
      split at connects
      · exact (still (Option.some.inj connects).symm).elim
      · cases connects
  | connected =>
      refine unready fun already => ?_
      simp [Session.connect, already] at connects
  | downloadBegin | downloadEnd =>
      simp only [Session.connect] at connects
      split at connects
      · cases connects
      · exact unready ((Option.some.inj connects) ▸ still)
  | refresh now clock failure =>
      have before := unready ((Option.some.inj connects) ▸ still)
      show (s.strategy.refresh now clock failure).1.state = _ ∨
        (s.strategy.refresh now clock failure).1.state = _
      by_cases early : now < s.strategy.nextUpdate
      · simpa [Strategy.refresh, early] using before
      · rcases before with state | state
        · simp [Strategy.refresh, early, state, Strategy.andThen, Strategy.setState]
        · simp [Strategy.refresh, early, state]
  | orderAck orderAck clock =>
      have before := unready ((Option.some.inj connects) ▸ still)
      show (s.strategy.onOrderAck maybeCompleted orderAck clock).1.state = _ ∨
        (s.strategy.onOrderAck maybeCompleted orderAck clock).1.state = _
      cases completed : maybeCompleted orderAck.requestStatus with
      | false => simpa [Strategy.onOrderAck, completed] using before
      | true =>
          have asked := awaited completed
          unfold awaits at asked
          by_cases failed : Utils.hasRequestFailed orderAck.requestStatus = true
          · rw [if_pos failed] at asked
            rcases before with state | state <;> simp [state] at asked
          · rw [if_neg failed] at asked
            cases type : orderAck.requestType with
            | undefined | modifyOrder =>
                simpa [Strategy.onOrderAck, completed, failed, type] using before
            | createOrder | cancelOrder =>
                simp only [type] at asked
                rcases before with state | state <;> simp [state] at asked

/-- On a single connection, for every interleaving of refresh calls at any clock values with acks
that may come at any time: every state change follows the lifecycle, and the assertion of
operator()(State) holds, exactly when every ack that completes a request is awaited. -/
theorem lifecycle_iff (settings : Settings) (es : List Event)
    (single : ∀ e ∈ es, SingleConnection e) :
    AllSteps (next maybeCompleted) (OnTrack maybeCompleted) (initial settings) es ↔
      AllSteps (next maybeCompleted) (Awaited maybeCompleted) (initial settings) es := by
  have assumed : AllSteps (next maybeCompleted) (fun _ e => SingleConnection e)
      (initial settings) es := allSteps_of_forall (fun _ => single) _
  refine allSteps_congr_of (I := Unready) ?_ ?_ (fun _ => .inl rfl) assumed
  · intro s e t unready single awaited taken
    exact unready_step unready single awaited taken
  · intro s e t unready single taken
    exact step_onTrack unready single taken

end Runs

section Examples

open scoped RoqSamples.Client.Documented

private def second : Nat := 10 ^ 9

/-- The events that lead to the request; its ack is awaited for ten seconds. -/
private def requested : List Event :=
  [.refresh 0 0 none, .connected, .downloadBegin, .downloadEnd 1000, .ready second,
    .refresh (11 * second) (11 * second) none, .refresh (21 * second) (21 * second) none]

private def timedOut : List Event := [.refresh (31 * second) (31 * second) none]

private def accepted (orderId : Nat) : OrderAck where
  orderId := orderId
  side := .buy
  requestType := .createOrder
  requestStatus := .accepted
  error := .undefined
  price := 1000

/-- An ack that comes in time keeps a run on the lifecycle. -/
theorem lifecycle_when_awaited :
    AllSteps (next Utils.hasRequestCompleted) (OnTrack Utils.hasRequestCompleted)
      (initial { price := 1000 }) (requested ++ [.orderAck (accepted 1001) (22 * second)]) := by
  refine (lifecycle_iff { price := 1000 } _ ?_).mpr ?_
  · simp [requested, SingleConnection]
  · decide +kernel

private def late : OrderAck := accepted 1001

/-- The ack that comes after the timeout takes DONE back to WORKING, and a second ack of the same
request fails the assertion. -/
theorem late_ack_leaves_done :
    ¬ AllSteps (next Utils.hasRequestCompleted)
        (OnTrack Utils.hasRequestCompleted) (initial { price := 1000 })
        (requested ++ timedOut ++ [.orderAck late (32 * second)]) ∧
      ∃ s t : Session,
        run (next Utils.hasRequestCompleted) (initial { price := 1000 })
            (requested ++ timedOut) = some s ∧
          s.strategy.state = .done ∧
          next Utils.hasRequestCompleted s (.orderAck late (32 * second)) = some t ∧
          t.strategy.state = .working ∧
          Effect.check (.differs .working .working) ∈
            t.effects Utils.hasRequestCompleted (.orderAck late (33 * second)) := by
  have enters (s : Session) (clock : Nat) : Effect.check (.differs s.strategy.state .working) ∈
      s.effects Utils.hasRequestCompleted (.orderAck late clock) := List.mem_cons_self
  obtain ⟨t, both, working⟩ : ∃ t, run (next Utils.hasRequestCompleted)
      (initial { price := 1000 }) (requested ++ timedOut ++ [.orderAck late (32 * second)]) =
        some t ∧ t.strategy.state = .working := reaches_of_any (by decide +kernel)
  obtain ⟨s, reached, done⟩ : ∃ s, run (next Utils.hasRequestCompleted)
      (initial { price := 1000 }) (requested ++ timedOut) = some s ∧ s.strategy.state = .done :=
    reaches_of_any (by decide +kernel)
  rw [run_append, reached, Option.bind_some] at both
  obtain ⟨_, taken, rest⟩ := run_cons_eq_some.mp both
  cases rest
  constructor
  · intro steps
    have entered := enters s (32 * second)
    rw [done] at entered
    exact not_edge_done _ (steps.after reached taken _ _ entered).2
  · refine ⟨s, t, reached, done, taken, working, ?_⟩
    have entered := enters t (33 * second)
    rwa [working] at entered

end Examples

end RoqSamples.Polling.Lifecycle
