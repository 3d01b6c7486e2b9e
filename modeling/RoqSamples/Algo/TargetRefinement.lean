/- Algo/TargetRefinement
   digest: The order behind an order manager has the target of each call that returns, as long as
     targets are repeated only after they went through and keep the quantity of the order. -/
import RoqSamples.Algo.StrategyRules
import RoqSamples.Execution.Runs

set_option autoImplicit false
set_option relaxedAutoImplicit false

namespace RoqSamples.Algo.TargetRefinement

open RoqSamples.Arith (Double)
open RoqSamples.Client (Side Utils)
open RoqSamples.Execution.Runs

/-- What the requests make of an order. -/
structure Order where
  quantity : Double
  price : Double
  deriving DecidableEq

/-- CreateOrder sets both fields; ModifyOrder overwrites each field that is not NaN. -/
def replay (order : Option Order) : Request → Option Order
  | .create request => some { quantity := request.quantity, price := request.price }
  | .modify request =>
      order.map fun order =>
        { quantity := if request.quantity.isNaN then order.quantity else request.quantity
          price := if request.price.isNaN then order.price else request.price }
  | .cancel _ => order

def requestOf : Entry → Option Request
  | .sent request _ => some request
  | .reported _ => none

/-- The requests between two states of the dispatcher. -/
def dispatched (before after : Dispatcher) : List Request :=
  (after.log.drop before.log.length).filterMap requestOf

/-- A call of `set_target` with numbers. It dispatches one request at most, and tells whether the
dispatch would throw. -/
structure Call (C : Caches) where
  quantity : ℚ
  price : ℚ
  view : View C
  routed : List Key
  throws : Bool

def Call.context {C : Caches} (call : Call C) : Context C :=
  { call.view with routed := call.routed, refuses := fun _ => call.throws }

/-- The strategy with the order manager, the dispatcher, and the order as replayed so far. -/
structure System where
  base : Base
  dispatcher : Dispatcher
  order : Option Order := none

section Calls

variable {C : Caches} (position : Nat)

def setTarget [Utils] (s : System) (call : Call C) : (Base × Dispatcher) × Option Stop :=
  s.base.setTarget call.context position (.num call.quantity) (.num call.price) s.dispatcher

/-- A call that throws has dispatched nothing; anything but an exception ends the program. -/
def next [Utils] (s : System) (call : Call C) : Option System :=
  match setTarget position s call with
  | ((base, dispatcher), none) =>
      some { base, dispatcher, order := (dispatched s.dispatcher dispatcher).foldl replay s.order }
  | ((base, dispatcher), some stop) =>
      if stop.isException then some { s with base, dispatcher } else none

/-- The order that a call asks for. -/
def Call.target (call : Call C) : Order where
  quantity := .num call.quantity
  price := .num call.price

/-- A call that returns has brought the order to its target. -/
def Realized [Utils] (s : System) (call : Call C) : Prop :=
  (setTarget position s call).2 = none →
    ∃ t, next position s call = some t ∧ t.order = some call.target

/-- What a caller sees of its own calls: the last target, whether the dispatch of the last change of
the target went through, and the quantity that the order was created with. -/
structure Tracked where
  target : Option Order := none
  dispatched : Bool := false
  quantity : Option Double := none

/-- A repeated target is not dispatched; the first dispatch that goes through creates the order. -/
def Tracked.next (tracked : Tracked) (call : Call C) : Option Tracked :=
  if tracked.target = some call.target then some tracked
  else
    some
      { target := some call.target
        dispatched := !call.throws
        quantity :=
          if call.throws then tracked.quantity
          else tracked.quantity.or (some (.num call.quantity)) }

/-- A target is only repeated when its dispatch went through, and a change that goes through has the
quantity that the order was created with. -/
def Repeatable (tracked : Tracked) (call : Call C) : Prop :=
  if tracked.target = some call.target then tracked.dispatched = true
  else
    call.throws = true ∨ tracked.quantity = none ∨ tracked.quantity = some (.num call.quantity)

instance (tracked : Tracked) (call : Call C) : Decidable (Repeatable tracked call) := by
  unfold Repeatable
  infer_instance

/-- The ModifyOrder of a call. -/
private def modifyRequest (s : System) (call : Call C) (manager : OrderManager) : Request :=
  .modify ((manager.aim (.num call.quantity) (.num call.price)).modifyOrderRequest
    s.base.account s.base.routingId)

/-- A CreateOrder is dispatched exactly when its route is known and the send does not fail. -/
private theorem createOrder_cases {context : Context C} {request : CreateOrder} {d d' : Dispatcher}
    {stop : Option Stop} (result : d.createOrder context request = (d', stop)) :
    (stop = none ∧ context.refuses (.create request) = false ∧
        ∃ source, d'.log = d.log ++ [.sent (.create request) source]) ∨
      stop = some .sendFailed ∧ context.refuses (.create request) = true ∨
      ∃ reason, stop = some (.fatal reason) := by
  unfold Dispatcher.createOrder at result
  split at result
  · obtain ⟨rfl, rfl⟩ := Prod.mk.inj result
    cases refused : context.refuses (.create request) with
    | true => exact .inr (.inl ⟨by simp, rfl⟩)
    | false =>
        refine .inl ⟨by simp, rfl, (context.market request.key).source, ?_⟩
        show (d.accept (.create request)).log ++ _ = _
        rw [Dispatcher.accept_log]
  · exact .inr (.inr ⟨_, (Prod.mk.inj result).2.symm⟩)

/-- A ModifyOrder is dispatched exactly when its order is known and the send does not fail. -/
private theorem modifyOrder_cases (context : Context C) (request : ModifyOrder) (d : Dispatcher) :
    ((d.modifyOrder context request).2 = none ∧ context.refuses (.modify request) = false ∧
        ∃ source, (d.modifyOrder context request).1.log =
          d.log ++ [.sent (.modify request) source]) ∨
      (d.modifyOrder context request).2 = some .sendFailed ∧
        context.refuses (.modify request) = true ∨
      ∃ reason, (d.modifyOrder context request).2 = some (.fatal reason) := by
  unfold Dispatcher.modifyOrder Dispatcher.followUp
  split
  · rename_i source known
    cases refused : context.refuses (.modify request) with
    | true => exact .inr (.inl ⟨by simp [Dispatcher.send, refused], rfl⟩)
    | false =>
        refine .inl ⟨by simp [Dispatcher.send, refused], rfl, source, ?_⟩
        show (d.accept (.modify request)).log ++ _ = _
        rw [Dispatcher.accept_log]
  · exact .inr (.inr ⟨_, rfl⟩)

private theorem dispatched_append {before after : Dispatcher} {request : Request}
    {source : Option Nat} (log : after.log = before.log ++ [.sent request source]) :
    dispatched before after = [request] := by
  rw [dispatched, log, List.drop_left]
  rfl

private theorem dispatched_same {before after : Dispatcher} (log : after.log = before.log) :
    dispatched before after = [] := by
  rw [dispatched, log, List.drop_length]
  rfl

/-- What a call does with the order manager and the order, by the branches of `set_target`, and
whether it returns. -/
private inductive Called [Utils] (s : System) (call : Call C) (manager : OrderManager) :
    OrderManager → Option Order → Bool → Prop
  | unchanged (same : manager.changes (.num call.quantity) (.num call.price) = false) :
      Called s call manager manager s.order true
  | created (orderId : Nat)
      (changes : manager.changes (.num call.quantity) (.num call.price) = true)
      (sent : call.throws = false) :
      Called s call manager ((manager.aim (.num call.quantity) (.num call.price)).hold orderId)
        (some call.target) true
  | modified (notes : List Note)
      (changes : manager.changes (.num call.quantity) (.num call.price) = true)
      (ordered : manager.orderId ≠ 0) (sent : call.throws = false) :
      Called s call manager ((manager.aim (.num call.quantity) (.num call.price)).note notes)
        (replay s.order (modifyRequest s call manager)) true
  | thrown (notes : List Note)
      (changes : manager.changes (.num call.quantity) (.num call.price) = true)
      (refused : call.throws = true) :
      Called s call manager ((manager.aim (.num call.quantity) (.num call.price)).note notes)
        s.order false

private theorem found_put {base : Base} {manager after : OrderManager}
    (found : base.orderManagers[position]? = some manager) :
    (base.put position after).orderManagers[position]? = some after := by
  have inside := (List.getElem?_eq_some_iff.mp found).1
  exact List.getElem?_set_self inside

private theorem next_called [Utils] {s t : System} {call : Call C} {manager : OrderManager}
    (found : s.base.orderManagers[position]? = some manager)
    (taken : next position s call = some t) :
    ∃ after returned, t.base.orderManagers[position]? = some after ∧
      Called s call manager after t.order returned ∧
      ((setTarget position s call).2 = none ↔ returned = true) := by
  have targeted := Base.setTarget_targeted call.context position (.num call.quantity)
    (.num call.price) s.base s.dispatcher
  unfold next at taken
  unfold setTarget at taken ⊢
  generalize s.base.setTarget call.context position (.num call.quantity) (.num call.price)
    s.dispatcher = result at targeted taken ⊢
  cases targeted with
  | absent noted checked => cases taken
  | unchanged other there same =>
      cases taken
      cases found.symm.trans there
      refine ⟨manager, true, found, ?_, by simp⟩
      rw [dispatched_same (Dispatcher.check_log _ _ _)]
      exact .unchanged same
  | failed other instrument d' stop there changes unordered known stopped =>
      cases found.symm.trans there
      dsimp only at taken
      split at taken
      · rename_i exception
        cases taken
        rcases createOrder_cases stopped with ⟨none, _⟩ | ⟨_, refused⟩ | ⟨reason, fatal⟩
        · cases none
        · have thrown := Called.thrown (s := s) [] changes refused
          rw [OrderManager.note, List.append_nil] at thrown
          exact ⟨_, false, found_put position found, thrown, by simp⟩
        · cases fatal
          cases exception
      · cases taken
  | placed other instrument d' there changes unordered known returned =>
      cases found.symm.trans there
      cases taken
      rcases createOrder_cases returned with ⟨_, sent, source, log⟩ | ⟨stopped, _⟩ | ⟨_, stopped⟩
      · rw [Dispatcher.check_log] at log
        refine ⟨_, true, found_put position found, ?_, by simp⟩
        rw [dispatched_append ((Dispatcher.check_log _ _ d').trans log)]
        exact .created _ changes sent
      · cases stopped
      · cases stopped
  | amended other there changes ordered =>
      cases found.symm.trans there
      unfold Base.amendOrder at taken ⊢
      dsimp only at taken ⊢
      rcases modifyOrder_cases call.context ((manager.aim (.num call.quantity)
        (.num call.price)).modifyOrderRequest s.base.account s.base.routingId)
        (s.dispatcher.check s.base.ready .notReady) with
        ⟨returned, sent, source, log⟩ | ⟨stopped, refused⟩ | ⟨reason, stopped⟩
      · rw [returned] at taken ⊢
        cases taken
        rw [Dispatcher.check_log] at log
        refine ⟨_, true, found_put position found, ?_, by simp⟩
        rw [dispatched_append log]
        exact .modified _ changes ordered sent
      · rw [stopped] at taken ⊢
        cases taken
        exact ⟨_, false, found_put position found, .thrown _ changes refused, by simp⟩
      · rw [stopped] at taken
        cases taken

/-- The replay of a ModifyOrder, which has a price and no quantity. -/
private theorem replay_modify (s : System) (call : Call C) (manager : OrderManager) :
    replay s.order (modifyRequest s call manager) =
      s.order.map fun order => { order with price := .num call.price } := rfl

variable [Utils]

/-- What the calls of the caller say about the order manager and its order. -/
private structure Kept (tracked : Tracked) (manager : OrderManager) (order : Option Order) :
    Prop where
  target : ∀ quantity price : ℚ, manager.changes (.num quantity) (.num price) = true ↔
    tracked.target ≠ some { quantity := .num quantity, price := .num price }
  reached : tracked.dispatched = true → order = tracked.target
  quantity : manager.orderId ≠ 0 →
    ∃ quantity, tracked.quantity = some quantity ∧ order.map Order.quantity = some quantity

private theorem changes_aimed (manager : OrderManager) {call : Call C} (quantity price : ℚ) :
    (manager.aim (.num call.quantity) (.num call.price)).changes (.num quantity) (.num price) =
        true ↔
      some call.target ≠ some { quantity := .num quantity, price := .num price } := by
  simp only [OrderManager.changes, OrderManager.aim, OrderManager.note, Bool.or_eq_true,
    Utils.updated_iff,
    Call.target, ne_eq, Option.some.injEq, Order.mk.injEq, not_and_or]

/-- One call: what is known about the order manager is kept, and a call that returns leaves the
order at its target. -/
private theorem called_kept {s : System} {call : Call C} {manager after : OrderManager}
    {order : Option Order} {returned : Bool} {tracked tracked' : Tracked}
    (called : Called s call manager after order returned) (kept : Kept tracked manager s.order)
    (repeatable : Repeatable tracked call) (taken : tracked.next call = some tracked') :
    Kept tracked' after order ∧ (returned = true → order = some call.target) := by
  have changed (changes : manager.changes (.num call.quantity) (.num call.price) = true) :
      tracked.target ≠ some call.target := (kept.target call.quantity call.price).mp changes
  cases called with
  | unchanged same =>
      have again : tracked.target = some call.target := by
        by_contra other
        exact Bool.false_ne_true
          (same.symm.trans ((kept.target call.quantity call.price).mpr other))
      rw [Repeatable, if_pos again] at repeatable
      rw [Tracked.next, if_pos again] at taken
      cases taken
      exact ⟨kept, fun _ => (kept.reached repeatable).trans again⟩
  | created orderId changes sent =>
      rw [Repeatable, if_neg (changed changes)] at repeatable
      rw [Tracked.next, if_neg (changed changes)] at taken
      cases taken
      refine ⟨⟨changes_aimed manager, fun _ => rfl, fun _ => ?_⟩, fun _ => rfl⟩
      refine ⟨.num call.quantity, ?_, rfl⟩
      rcases repeatable with thrown | unknown | same
      · cases sent.symm.trans thrown
      · simp [sent, unknown]
      · simp [sent, same]
  | modified notes changes ordered sent =>
      rw [Repeatable, if_neg (changed changes)] at repeatable
      rw [Tracked.next, if_neg (changed changes)] at taken
      cases taken
      obtain ⟨quantity, known, held⟩ := kept.quantity ordered
      have same : quantity = .num call.quantity := by
        rcases repeatable with thrown | unknown | same
        · cases sent.symm.trans thrown
        · cases known.symm.trans unknown
        · exact Option.some.inj (known.symm.trans same)
      have repriced : replay s.order (modifyRequest s call manager) = some call.target := by
        obtain ⟨old, held, own⟩ := Option.map_eq_some_iff.mp held
        rw [replay_modify, held, Option.map_some, own, same, Call.target]
      refine ⟨⟨changes_aimed manager, fun _ => repriced, fun _ => ⟨quantity, ?_, ?_⟩⟩,
        fun _ => repriced⟩
      · simp [sent, known]
      · rw [repriced, same]
        rfl
  | thrown notes changes refused =>
      rw [Tracked.next, if_neg (changed changes)] at taken
      cases taken
      refine ⟨⟨changes_aimed manager, fun dispatched => ?_, fun ordered => ?_⟩, nofun⟩
      · simp [refused] at dispatched
      · simp only [refused, if_true]
        exact kept.quantity ordered

private theorem kept_realized {s : System} {manager : OrderManager} {tracked : Tracked}
    {calls : List (Call C)} (found : s.base.orderManagers[position]? = some manager)
    (kept : Kept tracked manager s.order)
    (repeatable : AllMet Tracked.next Repeatable tracked calls) :
    AllSteps (next position) (Realized position) s calls := by
  induction calls generalizing s manager tracked with
  | nil => trivial
  | cons call calls ih =>
      cases taken : next position s call with
      | none => exact allSteps_blocked taken calls
      | some t =>
          obtain ⟨tracked', seen⟩ : ∃ tracked', tracked.next call = some tracked' := by
            unfold Tracked.next
            split <;> exact ⟨_, rfl⟩
          rw [allMet_cons seen] at repeatable
          obtain ⟨after, returned, there, called, returns⟩ := next_called position found taken
          have step := called_kept called kept repeatable.1 seen
          have realized : Realized position s call :=
            fun returned => ⟨t, taken, step.2 (returns.mp returned)⟩
          exact (allSteps_cons taken calls).mpr ⟨realized, ih there step.1 repeatable.2⟩

/-- For every sequence of calls on one order manager, with any pattern of dispatches that throw:
when targets are repeated only after they went through, and changes keep the quantity, every call
that returns leaves the order at its target. -/
theorem targets_realized (base : Base) (dispatcher : Dispatcher) (calls : List (Call C))
    {index : Nat} {side : Side}
    (fresh : base.orderManagers[position]? = some { index := index, side := side })
    (repeatable : AllMet Tracked.next Repeatable {} calls) :
    AllSteps (next position) (Realized position) { base, dispatcher } calls := by
  refine kept_realized position fresh
    ⟨fun quantity price => ?_, fun dispatched => ?_, fun ordered => ?_⟩ repeatable
  · simp [OrderManager.changes]
  · exact absurd dispatched Bool.false_ne_true
  · exact absurd rfl ordered

end Calls

section Examples

open scoped RoqSamples.Client.Documented

private theorem perpetual_named : "deribit" ≠ "" ∧ "BTC-PERPETUAL" ≠ "" := by decide

private def managedBase : Base where
  instruments :=
    [{ exchange := "deribit", symbol := "BTC-PERPETUAL", weight := 1, named := perpetual_named }]
  routingId := "AQAAAA"
  account := "A1"
  orderManagers := [{ index := 0, side := .buy }]
  readyByInstrument := [true]
  ready := true

/-- A call whose dispatch would throw or not. -/
private def callAt (quantity price : ℚ) (throws : Bool) : Call plain where
  quantity := quantity
  price := price
  view :=
    { market := fun _ => { market := {}, source := some 0 }
      gateway := fun _ => [] }
  routed := [("deribit", "BTC-PERPETUAL")]
  throws := throws

/-- Another target after a failed dispatch, the same one again, then a change of the price. -/
theorem targets_realized_sample :
    AllSteps (next (C := plain) 0) (Realized 0) { base := managedBase, dispatcher := {} }
      [callAt 1 100 true, callAt 1 101 false, callAt 1 101 false, callAt 1 102 false] :=
  targets_realized 0 managedBase {} _ rfl (by decide +kernel)

/-- A target that is repeated after its dispatch has failed is lost, and so is a quantity that
changes while the order lives. -/
theorem target_lost :
    ¬ AllSteps (next 0) (Realized 0) { base := managedBase, dispatcher := {} }
        [callAt 1 100 true, callAt 1 100 false] ∧
      ¬ AllSteps (next 0) (Realized 0) { base := managedBase, dispatcher := {} }
        [callAt 1 100 false, callAt 2 100 false] := by
  have lost : ∀ first second, (∃ s, run (next 0) { base := managedBase, dispatcher := {} }
      [first] = some s ∧ (setTarget 0 s second).2 = none ∧
        (next 0 s second).any (fun t => t.order ≠ some second.target) = true) →
      ¬ AllSteps (next (C := plain) 0) (Realized 0) { base := managedBase, dispatcher := {} }
        ([first] ++ [second]) := by
    rintro first second ⟨s, reached, returned, missed⟩ steps
    obtain ⟨t, taken, other⟩ := (Option.any_eq_true _ _).mp missed
    obtain ⟨t', taken', order⟩ := (steps.after reached taken) returned
    cases taken.symm.trans taken'
    exact of_decide_eq_true other order
  exact ⟨lost _ _ (reaches_of_any (by decide +kernel)),
    lost _ _ (reaches_of_any (by decide +kernel))⟩

end Examples

end RoqSamples.Algo.TargetRefinement
