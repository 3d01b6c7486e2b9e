/- Polling/SingleOrder
   digest: The polling strategy sends one order and cancels it once, exactly as long as no Ready
     comes after the order and no ack leads to WORKING without an order to cancel. -/
import RoqSamples.Polling.Strategy

set_option autoImplicit false
set_option relaxedAutoImplicit false

namespace RoqSamples.Polling.SingleOrder

open RoqSamples.Client
open RoqSamples.Execution.Runs
open Session (effects next initial)

variable (maybeCompleted : RequestStatus → Bool)

/-- An order is only created when there has been none, and canceled once, after its create was
acknowledged as successful; the assertions before the two requests hold. -/
def Single (s : Session) : Effect → Prop
  | .createOrder _ => s.created = []
  | .cancelOrder request =>
      s.created = [request.orderId] ∧ request.orderId ∈ s.acknowledged ∧ s.canceled = []
  | .check (.noOrder orderId) => orderId = 0
  | .check (.someOrder orderId) => orderId ≠ 0
  | _ => True

section Runs

variable [Utils]

def OneOrder (s : Session) (e : Event) : Prop :=
  ∀ effect ∈ s.effects maybeCompleted e, Single s effect

/-- The order that was sent is one that the ack lets the strategy cancel. -/
structure Cancelable (s : Session) (orderAck : OrderAck) : Prop where
  sent : s.created = [s.strategy.orderId]
  assigned : s.strategy.orderId ≠ 0
  confirmed : s.strategy.orderId ∈ s.acknowledged ++ [orderAck.orderId]
  uncanceled : s.canceled = []

/-- Ready comes before the order, and a successful ack of a CreateOrder comes after it and before
its cancel. -/
def Undisturbed (s : Session) : Event → Prop
  | .ready _ => s.created = []
  | .orderAck orderAck _ => Session.confirms maybeCompleted orderAck = true → Cancelable s orderAck
  | _ => True

def IsRefresh (e : Event) : Prop := ∃ now clock failure, e = .refresh now clock failure

variable {maybeCompleted}

/-- What a step leaves alone when it sends nothing and confirms nothing. -/
private structure Kept (s t : Session) : Prop where
  orderId : t.strategy.orderId = s.strategy.orderId
  created : t.created = s.created
  acknowledged : t.acknowledged = s.acknowledged
  canceled : t.canceled = s.canceled

/-- A state from which no request follows before another event has come. -/
private def Resting (state : State) : Prop :=
  state ≠ .ready ∧ state ≠ .createOrder ∧ state ≠ .working ∧ state ≠ .cancelOrder

/-- What a step can do to the order. -/
private inductive Step (maybeCompleted : RequestStatus → Bool) (s t : Session) : Event → Prop
  | stops {e} (stopped : t.stopped = true) : Step maybeCompleted s t e
  | rests {e} (kept : Kept s t)
      (state : t.strategy.state = s.strategy.state ∨ Resting t.strategy.state) :
      Step maybeCompleted s t e
  | prepares {e} (kept : Kept s t)
      (state : s.strategy.state = .ready ∧ t.strategy.state = .createOrder ∨
        s.strategy.state = .working ∧ t.strategy.state = .cancelOrder) :
      Step maybeCompleted s t e
  | starts {clock} (kept : Kept s t) (state : t.strategy.state = .ready) :
      Step maybeCompleted s t (.ready clock)
  | confirms {orderAck clock} (confirmed : Session.confirms maybeCompleted orderAck = true)
      (state : t.strategy.state = .working) (orderId : t.strategy.orderId = s.strategy.orderId)
      (created : t.created = s.created)
      (acknowledged : t.acknowledged = s.acknowledged ++ [orderAck.orderId])
      (canceled : t.canceled = s.canceled) :
      Step maybeCompleted s t (.orderAck orderAck clock)
  | creates {e} (before : s.strategy.state = .createOrder)
      (after : t.strategy.state = .waitingCreate)
      (created : t.created = s.created ++ [t.strategy.orderId]) : Step maybeCompleted s t e
  | cancels {e} (before : s.strategy.state = .cancelOrder)
      (after : t.strategy.state = .waitingCancel)
      (orderId : t.strategy.orderId = s.strategy.orderId) (created : t.created = s.created) :
      Step maybeCompleted s t e

private theorem step_of_refresh {s t : Session} {now clock : Nat} {failure : Option SendError}
    (taken : s.next maybeCompleted (.refresh now clock failure) = some t) :
    Step maybeCompleted s t (.refresh now clock failure) := by
  obtain ⟨_, connection, _, rfl⟩ := Session.next_eq_some taken
  by_cases early : now < s.strategy.nextUpdate
  · refine .rests ⟨?_, ?_, ?_, ?_⟩ (.inl ?_) <;>
      simp [Session.effects, Session.handle, Strategy.refresh, early, Session.acknowledgement]
  · cases state : s.strategy.state with
    | connecting | done =>
        refine .rests ⟨?_, ?_, ?_, ?_⟩ (.inl ?_) <;>
          simp [Session.effects, Session.handle, Strategy.refresh, early, state,
            Session.acknowledgement, Session.createdBy, Session.canceledBy]
    | undefined | waitingCreate | waitingCancel =>
        refine .rests ⟨?_, ?_, ?_, ?_⟩ (.inr ?_) <;>
          simp [Session.effects, Session.handle, Strategy.refresh, early, state,
            Strategy.andThen, Strategy.setState, Resting,
            Session.acknowledgement, Session.createdBy, Session.canceledBy]
    | ready | working =>
        refine .prepares ⟨?_, ?_, ?_, ?_⟩ ?_ <;>
          simp [Session.effects, Session.handle, Strategy.refresh, early, state, Strategy.setState,
            Session.acknowledgement, Session.createdBy, Session.canceledBy]
    | createOrder =>
        cases failure with
        | some error =>
            apply Step.stops
            simp [Session.effects, Session.handle, Strategy.refresh, early, state,
              Strategy.andThen, Strategy.setState, Strategy.createOrder, Strategy.send,
              Session.isFatal]
        | none =>
            refine .creates state ?_ ?_
            · simp [Session.handle, Strategy.refresh, early, state, Strategy.andThen,
                Strategy.setState, Strategy.createOrder]
            · simp only [Session.effects, Session.handle, Strategy.refresh, early, state,
                Strategy.andThen, Strategy.setState, if_false]
              rfl
    | cancelOrder =>
        cases failure with
        | some error =>
            apply Step.stops
            simp [Session.effects, Session.handle, Strategy.refresh, early, state,
              Strategy.andThen, Strategy.setState, Strategy.cancelOrder, Strategy.send,
              Session.isFatal]
        | none =>
            refine .cancels state ?_ ?_ ?_ <;>
              simp [Session.effects, Session.handle, Strategy.refresh, early, state,
                Strategy.andThen, Strategy.setState, Strategy.cancelOrder, Strategy.send,
                Session.createdBy]

private theorem confirms_iff {orderAck : OrderAck} :
    Session.confirms maybeCompleted orderAck = true ↔
      maybeCompleted orderAck.requestStatus = true ∧
        Utils.hasRequestFailed orderAck.requestStatus = false ∧
        orderAck.requestType = .createOrder := by
  simp [Session.confirms, and_assoc]

private theorem step_of_ack {s t : Session} {orderAck : OrderAck} {clock : Nat}
    (taken : s.next maybeCompleted (.orderAck orderAck clock) = some t) :
    Step maybeCompleted s t (.orderAck orderAck clock) := by
  obtain ⟨_, connection, _, rfl⟩ := Session.next_eq_some taken
  by_cases confirmed : Session.confirms maybeCompleted orderAck = true
  · obtain ⟨completed, succeeded, type⟩ := confirms_iff.mp confirmed
    refine .confirms confirmed ?_ ?_ ?_ ?_ ?_ <;>
      simp [Session.effects, Session.handle, Strategy.onOrderAck, completed, succeeded, type,
        Strategy.setState, Session.acknowledgement, confirmed, Session.createdBy,
        Session.canceledBy]
  · cases completed : maybeCompleted orderAck.requestStatus with
    | false =>
        refine .rests ⟨?_, ?_, ?_, ?_⟩ (.inl ?_) <;>
          simp [Session.effects, Session.handle, Strategy.onOrderAck, completed,
            Session.acknowledgement, confirmed]
    | true =>
        by_cases failed : Utils.hasRequestFailed orderAck.requestStatus = true
        · refine .rests ⟨?_, ?_, ?_, ?_⟩ (.inr ?_) <;>
            simp [Session.effects, Session.handle, Strategy.onOrderAck, completed, failed,
              Strategy.setState, Resting, Session.acknowledgement, confirmed, Session.createdBy,
              Session.canceledBy]
        · cases type : orderAck.requestType with
          | undefined | modifyOrder =>
              apply Step.stops
              simp [Session.effects, Session.handle, Strategy.onOrderAck, completed, failed, type,
                Session.isFatal]
          | createOrder =>
              exact (confirmed (by simp [Session.confirms, completed, failed, type])).elim
          | cancelOrder =>
              refine .rests ⟨?_, ?_, ?_, ?_⟩ (.inr ?_) <;>
                simp [Session.effects, Session.handle, Strategy.onOrderAck, completed, failed, type,
                  Strategy.setState, Resting, Session.acknowledgement, confirmed,
                  Session.createdBy, Session.canceledBy]

private theorem step_of_next {s t : Session} {e : Event}
    (taken : s.next maybeCompleted e = some t) :
    Step maybeCompleted s t e := by
  cases e with
  | refresh now clock failure => exact step_of_refresh taken
  | orderAck orderAck clock => exact step_of_ack taken
  | ready clock =>
      obtain ⟨_, connection, _, rfl⟩ := Session.next_eq_some taken
      refine .starts ⟨?_, ?_, ?_, ?_⟩ ?_ <;>
        simp [Session.effects, Session.handle, Strategy.onReady, Strategy.andThen,
          Strategy.setState, Session.acknowledgement, Session.createdBy, Session.canceledBy]
  | disconnected clock =>
      obtain ⟨_, connection, _, rfl⟩ := Session.next_eq_some taken
      refine .rests ⟨?_, ?_, ?_, ?_⟩ (.inr ?_) <;>
        simp [Session.effects, Session.handle, Strategy.onDisconnected, Strategy.setState, Resting,
          Session.acknowledgement, Session.createdBy, Session.canceledBy]
  | connected | downloadBegin | downloadEnd =>
      obtain ⟨_, connection, _, rfl⟩ := Session.next_eq_some taken
      refine .rests ⟨?_, ?_, ?_, ?_⟩ (.inl ?_) <;>
        simp [Session.effects, Session.handle, Strategy.onConnected, Strategy.onDownloadEnd,
          Session.acknowledgement, Session.createdBy, Session.canceledBy]

/-- Where the order stands: it has not been sent and nothing is about to cancel it, or it has been
sent and nothing is about to send it again. -/
private inductive Standing (s : Session) : Prop
  | stopped (stopped : s.stopped = true)
  | before (created : s.created = []) (orderId : s.strategy.orderId = 0)
      (canceled : s.canceled = [])
      (state : s.strategy.state ≠ .working ∧ s.strategy.state ≠ .cancelOrder)
  | after (created : s.created = [s.strategy.orderId])
      (state : s.strategy.state ≠ .ready ∧ s.strategy.state ≠ .createOrder)
      (cancelable : s.strategy.state = .working ∨ s.strategy.state = .cancelOrder →
        s.strategy.orderId ≠ 0 ∧ s.strategy.orderId ∈ s.acknowledged ∧ s.canceled = [])

private theorem standing_step {s t : Session} {e : Event} (standing : Standing s)
    (undisturbed : Undisturbed maybeCompleted s e) (taken : s.next maybeCompleted e = some t) :
    Standing t := by
  have step := step_of_next taken
  cases standing with
  | stopped stopped =>
      rw [(Session.next_eq_some taken).1] at stopped
      cases stopped
  | before created orderId canceled state =>
      cases step with
      | stops stopped => exact .stopped stopped
      | rests kept moved =>
          refine .before (kept.created.trans created) (kept.orderId.trans orderId)
            (kept.canceled.trans canceled) ?_
          rcases moved with same | resting
          · rwa [same]
          · exact resting.2.2
      | prepares kept moved =>
          refine .before (kept.created.trans created) (kept.orderId.trans orderId)
            (kept.canceled.trans canceled) ?_
          rcases moved with ⟨_, entered⟩ | ⟨working, _⟩
          · rw [entered]
            exact ⟨nofun, nofun⟩
          · exact (state.1 working).elim
      | starts kept entered =>
          refine .before (kept.created.trans created) (kept.orderId.trans orderId)
            (kept.canceled.trans canceled) ?_
          rw [entered]
          exact ⟨nofun, nofun⟩
      | confirms confirmed =>
          have sent := (undisturbed confirmed).sent
          rw [created] at sent
          cases sent
      | creates before entered sent =>
          rw [created, List.nil_append] at sent
          refine .after sent ?_ ?_
          · rw [entered]
            exact ⟨nofun, nofun⟩
          · rw [entered]
            exact nofun
      | cancels before => exact (state.2 before).elim
  | after created state cancelable =>
      cases step with
      | stops stopped => exact .stopped stopped
      | rests kept moved =>
          refine .after ?_ ?_ ?_
          · rw [kept.created, kept.orderId, created]
          · rcases moved with same | resting
            · rwa [same]
            · exact ⟨resting.1, resting.2.1⟩
          · rcases moved with same | resting
            · rwa [same, kept.orderId, kept.acknowledged, kept.canceled]
            · rintro (working | due)
              · exact (resting.2.2.1 working).elim
              · exact (resting.2.2.2 due).elim
      | prepares kept moved =>
          rcases moved with ⟨ready, _⟩ | ⟨working, entered⟩
          · exact (state.1 ready).elim
          · refine .after ?_ ?_ ?_
            · rw [kept.created, kept.orderId, created]
            · rw [entered]
              exact ⟨nofun, nofun⟩
            · intro _
              rw [kept.orderId, kept.acknowledged, kept.canceled]
              exact cancelable (.inl working)
      | starts kept entered =>
          have nothing : s.created = [] := undisturbed
          rw [created] at nothing
          cases nothing
      | confirms confirmed entered orderId created' acknowledged canceled =>
          have order := undisturbed confirmed
          refine .after ?_ ?_ ?_
          · rw [created', orderId, created]
          · rw [entered]
            exact ⟨nofun, nofun⟩
          · intro _
            rw [orderId, acknowledged, canceled]
            exact ⟨order.assigned, order.confirmed, order.uncanceled⟩
      | creates before => exact (state.2 before).elim
      | cancels before entered orderId created' =>
          refine .after ?_ ?_ ?_
          · rw [created', orderId, created]
          · rw [entered]
            exact ⟨nofun, nofun⟩
          · rw [entered]
            exact nofun

/-- Only a refresh that is due sends a request. -/
private theorem single_of_refresh {s : Session} {now clock : Nat} {failure : Option SendError}
    (create : s.strategy.state = .createOrder → s.created = [] ∧ s.strategy.orderId = 0)
    (cancel : s.strategy.state = .cancelOrder → s.strategy.orderId ≠ 0 ∧
      s.created = [s.strategy.orderId] ∧ s.strategy.orderId ∈ s.acknowledged ∧ s.canceled = []) :
    OneOrder maybeCompleted s (.refresh now clock failure) := by
  intro effect mem
  by_cases early : now < s.strategy.nextUpdate
  · simp [Session.effects, Session.handle, Strategy.refresh, early] at mem
  · cases state : s.strategy.state with
    | connecting =>
        simp [Session.effects, Session.handle, Strategy.refresh, early, state] at mem
    | undefined =>
        simp [Session.effects, Session.handle, Strategy.refresh, early, state, Strategy.andThen,
          Strategy.setState] at mem
        rcases mem with rfl | rfl <;> trivial
    | ready | waitingCreate | working | waitingCancel | done =>
        simp [Session.effects, Session.handle, Strategy.refresh, early, state,
          Strategy.setState] at mem
        rw [mem]
        trivial
    | createOrder =>
        obtain ⟨nothing, unassigned⟩ := create state
        simp [Session.effects, Session.handle, Strategy.refresh, early, state, Strategy.andThen,
          Strategy.setState, Strategy.createOrder] at mem
        rcases mem with rfl | rfl | rfl
        · trivial
        · exact unassigned
        · cases failure with
          | none => exact nothing
          | some error => trivial
    | cancelOrder =>
        obtain ⟨assigned, sent⟩ := cancel state
        simp [Session.effects, Session.handle, Strategy.refresh, early, state, Strategy.andThen,
          Strategy.setState, Strategy.cancelOrder] at mem
        rcases mem with rfl | rfl | rfl
        · trivial
        · exact assigned
        · cases failure with
          | none => exact sent
          | some error => trivial

private theorem oneOrder_of_standing {s t : Session} {e : Event} (standing : Standing s)
    (taken : s.next maybeCompleted e = some t) : OneOrder maybeCompleted s e := by
  cases e with
  | refresh now clock failure =>
      cases standing with
      | stopped stopped =>
          rw [(Session.next_eq_some taken).1] at stopped
          cases stopped
      | before created orderId canceled state =>
          exact single_of_refresh (fun _ => ⟨created, orderId⟩) fun due => (state.2 due).elim
      | after created state cancelable =>
          refine single_of_refresh (fun due => (state.2 due).elim) fun due => ?_
          obtain ⟨assigned, acknowledged, canceled⟩ := cancelable (.inr due)
          exact ⟨assigned, created, acknowledged, canceled⟩
  | connected | disconnected =>
      intro effect mem
      cases List.mem_singleton.mp mem
      trivial
  | downloadBegin | downloadEnd => exact fun effect mem => (List.not_mem_nil mem).elim
  | ready clock =>
      intro effect mem
      simp [Session.effects, Session.handle, Strategy.onReady, Strategy.andThen,
        Strategy.setState] at mem
      rcases mem with rfl | rfl <;> trivial
  | orderAck orderAck clock =>
      intro effect mem
      simp only [Session.effects, Session.handle, Strategy.onOrderAck] at mem
      split at mem
      · cases mem
      · split at mem
        · cases List.mem_singleton.mp mem
          trivial
        · split at mem <;> cases List.mem_singleton.mp mem <;> trivial

/-- The refresh that brings a strategy to its request, and the one that sends it. -/
private def due (s : Session) : List Event :=
  [.refresh s.strategy.nextUpdate 0 none, .refresh waitThisLongBeforeNextStateChange 0 none]

/-- Once both refreshes have come, the property has been asked where the request is sent. -/
private theorem request_of_due {s : Session} {state : State} (running : s.stopped = false)
    (prepares : s.strategy.refresh s.strategy.nextUpdate 0 none = s.strategy.setState 0 state)
    (steps : AllSteps (next maybeCompleted) (OneOrder maybeCompleted) s (due s)) :
    ∃ t, Kept s t ∧ t.strategy.state = state ∧
      t.strategy.nextUpdate = waitThisLongBeforeNextStateChange ∧
      OneOrder maybeCompleted t (.refresh waitThisLongBeforeNextStateChange 0 none) := by
  have first : s.next maybeCompleted (.refresh s.strategy.nextUpdate 0 none) =
      some { s with strategy := (s.strategy.setState 0 state).1 } := by
    simp [Session.next, running, Session.connect, Session.effects, Session.handle, prepares,
      Strategy.setState, Session.acknowledgement, Session.createdBy, Session.canceledBy,
      Session.isFatal]
  have later := ((allSteps_cons first _).mp steps).2
  obtain ⟨u, second⟩ : ∃ u, next maybeCompleted
      { s with strategy := (s.strategy.setState 0 state).1 }
      (.refresh waitThisLongBeforeNextStateChange 0 none) = some u := by
    simp [Session.next, running, Session.connect]
  have asked := ((allSteps_cons second []).mp later).1
  exact ⟨{ s with strategy := (s.strategy.setState 0 state).1 }, ⟨rfl, rfl, rfl, rfl⟩, rfl,
    Nat.zero_add _, asked⟩

private theorem unsent_of_due {s : Session} (running : s.stopped = false)
    (ready : s.strategy.state = .ready)
    (steps : AllSteps (next maybeCompleted) (OneOrder maybeCompleted) s (due s)) :
    s.created = [] := by
  have prepares : s.strategy.refresh s.strategy.nextUpdate 0 none =
      s.strategy.setState 0 .createOrder := by
    simp [Strategy.refresh, ready]
  obtain ⟨t, kept, state, timer, single⟩ := request_of_due running prepares steps
  rw [← kept.created]
  apply single (.createOrder (t.strategy.createOrderRequest (uint64 (t.strategy.maxOrderId + 1))))
  simp [Session.effects, Session.handle, Strategy.refresh, timer, state, Strategy.andThen,
    Strategy.setState, Strategy.createOrder, Strategy.send, Strategy.createOrderRequest]

private theorem cancelable_of_due {s : Session} (running : s.stopped = false)
    (working : s.strategy.state = .working)
    (steps : AllSteps (next maybeCompleted) (OneOrder maybeCompleted) s (due s)) :
    s.strategy.orderId ≠ 0 ∧ s.created = [s.strategy.orderId] ∧
      s.strategy.orderId ∈ s.acknowledged ∧ s.canceled = [] := by
  have prepares : s.strategy.refresh s.strategy.nextUpdate 0 none =
      s.strategy.setState 0 .cancelOrder := by
    simp [Strategy.refresh, working]
  obtain ⟨t, kept, state, timer, single⟩ := request_of_due running prepares steps
  have assigned := single (.check (.someOrder t.strategy.orderId)) (by
    simp [Session.effects, Session.handle, Strategy.refresh, timer, state, Strategy.andThen,
      Strategy.setState, Strategy.cancelOrder])
  have sent := single (.cancelOrder t.strategy.cancelOrderRequest) (by
    simp [Session.effects, Session.handle, Strategy.refresh, timer, state, Strategy.andThen,
      Strategy.setState, Strategy.cancelOrder, Strategy.send, Strategy.cancelOrderRequest])
  rw [← kept.orderId, ← kept.created, ← kept.acknowledged, ← kept.canceled]
  exact ⟨assigned, sent⟩

/-- What has to hold of a step for the refreshes that follow it to send nothing wrong. -/
private theorem undisturbed_of_due {s t : Session} {e : Event}
    (taken : s.next maybeCompleted e = some t)
    (steps : AllSteps (next maybeCompleted) (OneOrder maybeCompleted) t (due t)) :
    Undisturbed maybeCompleted s e := by
  cases e with
  | ready clock =>
      obtain ⟨_, connection, _, rfl⟩ := Session.next_eq_some taken
      have unsent := unsent_of_due (by simp [Session.effects, Session.handle, Strategy.onReady,
        Strategy.andThen, Strategy.setState, Session.isFatal]) rfl steps
      exact (List.append_eq_nil_iff.mp unsent).1
  | orderAck orderAck clock =>
      intro confirmed
      obtain ⟨completed, succeeded, type⟩ := confirms_iff.mp confirmed
      obtain ⟨_, connection, _, equal⟩ := Session.next_eq_some taken
      have moved : Session.handle maybeCompleted s.strategy (.orderAck orderAck clock) =
          s.strategy.setState clock .working := by
        simp [Session.handle, Strategy.onOrderAck, completed, succeeded, type]
      simp only [Session.effects, moved, Strategy.setState, Session.acknowledgement, confirmed,
        if_true, List.filterMap_cons, List.filterMap_nil, Session.createdBy, Session.canceledBy,
        List.append_nil, List.any_cons, List.any_nil, Session.isFatal, Bool.or_self] at equal
      subst equal
      obtain ⟨assigned, sent, acknowledged, canceled⟩ := cancelable_of_due rfl rfl steps
      exact ⟨sent, assigned, acknowledged, canceled⟩
  | refresh | connected | disconnected | downloadBegin | downloadEnd => trivial

/-- For every run, over all its reconnects, and however the clock goes on from any of its events:
one order at most is created, it is canceled at most once and after the successful ack of its
create, and the assertions on `order_id_` hold, exactly when Ready only comes before the order has
been sent, and a successful ack of a CreateOrder only for the order and before its cancel. -/
theorem one_order_iff (settings : Settings) (es : List Event) :
    (∀ p fs, p <+: es → (∀ f ∈ fs, IsRefresh f) →
        AllSteps (next maybeCompleted) (OneOrder maybeCompleted) (initial settings) (p ++ fs)) ↔
      AllSteps (next maybeCompleted) (Undisturbed maybeCompleted) (initial settings) es := by
  have start : Standing (initial settings) := .before rfl rfl rfl ⟨nofun, nofun⟩
  constructor
  · intro single
    apply allSteps_of_prefix
    intro p e s t front reached taken
    have steps := single (p ++ [e]) (due t) front (by
      intro f mem
      rcases List.mem_pair.mp mem with rfl | rfl <;> exact ⟨_, _, _, rfl⟩)
    rw [List.append_assoc, allSteps_append] at steps
    exact undisturbed_of_due taken ((allSteps_cons taken _).mp (steps.2 s reached)).2
  · rintro steps p fs ⟨rest, rfl⟩ ticks
    have undisturbed : AllSteps (next maybeCompleted) (Undisturbed maybeCompleted)
        (initial settings) (p ++ fs) := by
      refine allSteps_append.mpr ⟨(allSteps_append.mp steps).1, fun t _ => ?_⟩
      refine allSteps_of_forall (fun s f mem => ?_) t
      obtain ⟨now, clock, failure, rfl⟩ := ticks f mem
      trivial
    exact undisturbed.guarantee (fun _ _ _ => standing_step)
      (fun _ _ _ standing _ taken => oneOrder_of_standing standing taken) start

end Runs

section Examples

open scoped RoqSamples.Client.Documented

private def second : Nat := 10 ^ 9

private def tick (seconds : Nat) : Event := .refresh (seconds * second) (seconds * second) none

/-- The order is sent at 21s; the connection is lost before its ack has come, and comes back. -/
private def reconnected : List Event :=
  [tick 0, .connected, .downloadEnd 1000, .ready second, tick 11, tick 21,
    .disconnected (22 * second), .connected, .downloadEnd 1000, .ready (23 * second), tick 33]

/-- After the reconnect a second order goes out, with `order_id_` still set. -/
theorem second_order_after_reconnect :
    ¬ AllSteps (next Utils.hasRequestCompleted)
        (OneOrder Utils.hasRequestCompleted) (initial { price := 1000 })
        (reconnected ++ [tick 43]) ∧
      ∃ s, run (next Utils.hasRequestCompleted) (initial { price := 1000 }) reconnected =
          some s ∧
        s.created = [1001] ∧
        (s.effects Utils.hasRequestCompleted (tick 43)).filterMap Session.createdBy =
          [1002] ∧
        Effect.check (.noOrder 1001) ∈ s.effects Utils.hasRequestCompleted (tick 43) := by
  obtain ⟨s, reached, running, sent, again, failing⟩ :
      ∃ s, run (next Utils.hasRequestCompleted) (initial { price := 1000 }) reconnected =
          some s ∧ s.stopped = false ∧ s.created = [1001] ∧
        (s.effects Utils.hasRequestCompleted (tick 43)).filterMap Session.createdBy =
          [1002] ∧
        Effect.check (.noOrder 1001) ∈ s.effects Utils.hasRequestCompleted (tick 43) :=
    reaches_of_any (by decide +kernel)
  refine ⟨fun steps => ?_, s, reached, sent, again, failing⟩
  obtain ⟨t, taken⟩ : ∃ t, next Utils.hasRequestCompleted s (tick 43) = some t := by
    simp [Session.next, running, tick, Session.connect]
  have unassigned : 1001 = 0 := steps.after reached taken _ failing
  omega

end Examples

end RoqSamples.Polling.SingleOrder
