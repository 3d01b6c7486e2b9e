/- Example3/WorkingOrder
   digest: An order is created only when no earlier one is outstanding, as long as no other order
     ends while one works. -/
import RoqSamples.Execution.Runs
import RoqSamples.Example3.Strategy

set_option autoImplicit false
set_option relaxedAutoImplicit false

namespace RoqSamples.Example3.WorkingOrder

open RoqSamples.Arith (Double)
open RoqSamples.Client
open RoqSamples.Execution.Runs
open RoqSamples.Example3.Strategy (halfWeights sample recovery)

variable {Book Update : Type} (mbp : MarketByPrice Book Update)

/-- The strategy, and the orders it has created that have not received a terminal update. -/
structure Session (Book : Type) where
  strategy : Strategy Book
  outstanding : List Nat := []

def isCreateOrder : Effect → Bool
  | .createOrder _ => true
  | .cancelOrder _ => false

def send (outstanding : List Nat) : Effect → List Nat
  | .createOrder createOrder => outstanding ++ [createOrder.orderId]
  | .cancelOrder _ => outstanding

/-- The orders of the strategy are those of the first gateway. -/
def receive [Utils] (outstanding : List Nat) : Event Update → List Nat
  | .message source (.orderUpdate orderUpdate) =>
      if source = 0 ∧ Utils.isOrderComplete orderUpdate.orderStatus then
        outstanding.filter fun orderId => orderId ≠ orderUpdate.orderId
      else outstanding
  | _ => outstanding

namespace Session

def start (settings : Settings) : Session Book where
  strategy := Strategy.new mbp settings

def next [Utils] (s : Session Book) (e : Event Update) : Option (Session Book) :=
  match s.strategy.handle mbp e with
  | .error _ => none
  | .ok (strategy, effects) =>
      some { strategy := strategy, outstanding := effects.foldl send (receive s.outstanding e) }

/-- What the strategy sends for an event. -/
def sends [Utils] (s : Session Book) (e : Event Update) : List Effect :=
  match s.strategy.handle mbp e with
  | .error _ => []
  | .ok (_, effects) => effects

/-- A CreateOrder is sent only when every order created before has received a terminal update. -/
def CreatesAlone [Utils] (s : Session Book) (e : Event Update) : Prop :=
  (s.sends mbp e).any isCreateOrder = true → s.outstanding = []

instance [Utils] (s : Session Book) (e : Event Update) : Decidable (s.CreatesAlone mbp e) := by
  unfold CreatesAlone
  infer_instance

/-- A terminal update that arrives while an order works is about that order, and the order ids
last. -/
def EndsWorking [Utils] (s : Session Book) (e : Event Update) : Prop :=
  match e with
  | .message source (.orderUpdate orderUpdate) =>
      Utils.isOrderComplete orderUpdate.orderStatus = true → s.strategy.workingOrderId ≠ 0 →
        source = 0 ∧ orderUpdate.orderId = s.strategy.workingOrderId
  | .timer _ _ =>
      (s.sends mbp e).any isCreateOrder = true → s.strategy.maxOrderId + 1 < 2 ^ 64
  | _ => True

instance [Utils] (s : Session Book) : ∀ e : Event Update, Decidable (s.EndsWorking mbp e)
  | .message _ (.orderUpdate _) => inferInstanceAs (Decidable (_ = true → _ ≠ 0 → _ ∧ _))
  | .timer _ _ => inferInstanceAs (Decidable (_ = true → _ < _))
  | .ready | .orderAck _ | .message _ .connected | .message _ .disconnected
  | .message _ (.downloadBegin _) | .message _ (.downloadEnd _ _)
  | .message _ (.gatewayStatus _ _ _) | .message _ (.referenceData _ _ _ _ _)
  | .message _ (.marketStatus _ _ _) | .message _ (.marketByPriceUpdate _ _ _)
  | .message _ (.positionUpdate _ _ _) => isTrue trivial

/-- Only the working order is outstanding. -/
def Tracked (s : Session Book) : Prop :=
  s.outstanding = [] ∨
    s.outstanding = [s.strategy.workingOrderId] ∧ s.strategy.workingOrderId ≠ 0

variable {mbp}

private theorem Tracked.length_le {s : Session Book} (tracked : s.Tracked) :
    s.outstanding.length ≤ 1 := by
  rcases tracked with none | ⟨one, _⟩
  · rw [none]
    exact Nat.zero_le 1
  · rw [one]
    exact le_refl 1

private theorem Tracked.free {s : Session Book} (tracked : s.Tracked)
    (free : s.strategy.workingOrderId = 0) : s.outstanding = [] := by
  rcases tracked with none | ⟨_, working⟩
  · exact none
  · exact (working free).elim

/-- The handler has returned; what it sent makes the difference to the outstanding orders. -/
private theorem next_step [Utils] {s t : Session Book} {e : Event Update}
    (taken : s.next mbp e = some t) :
    ∃ effects, Strategy.Step mbp s.strategy e t.strategy effects ∧ s.sends mbp e = effects ∧
      t.outstanding = effects.foldl send (receive s.outstanding e) := by
  unfold next at taken
  split at taken
  · cases taken
  · rename_i strategy effects handled
    cases taken
    refine ⟨effects, Strategy.handle_step handled, ?_, rfl⟩
    simp only [sends, handled]

/-- A message sends nothing. The working order stays the same unless an order ends. -/
private theorem react_working [Utils] {s t : Strategy Book} {source : Nat}
    {message : Message Update} (dispatched : s.dispatch mbp source message = .ok t) :
    (t.react message).workingOrderId = s.workingOrderId ∨
      ∃ orderUpdate, message = .orderUpdate orderUpdate ∧
        Utils.isOrderComplete orderUpdate.orderStatus = true ∧
          (t.react message).workingOrderId = 0 := by
  have same : t.workingOrderId = s.workingOrderId := by
    rcases Strategy.dispatch_cases dispatched with ⟨_, rfl⟩ | ⟨_, _, _, rfl⟩ <;> rfl
  cases message with
  | orderUpdate orderUpdate =>
      by_cases complete : Utils.isOrderComplete orderUpdate.orderStatus = true
      · exact .inr ⟨orderUpdate, rfl, complete, by simp only [Strategy.react, complete, if_true]⟩
      · left
        simp only [Strategy.react, complete, Bool.false_eq_true, if_false]
        exact same
  | _ => exact .inl same

private theorem receive_sublist [Utils] (outstanding : List Nat) (e : Event Update) :
    List.Sublist (receive outstanding e) outstanding := by
  unfold receive
  split
  · split
    · exact List.filter_sublist
    · exact List.Sublist.refl _
  · exact List.Sublist.refl _

private theorem tracked_step [Utils] {s t : Session Book} {e : Event Update} (tracked : s.Tracked)
    (ends : s.EndsWorking mbp e) (taken : s.next mbp e = some t) : t.Tracked := by
  obtain ⟨effects, step, sent, outstanding⟩ := next_step taken
  obtain ⟨strategy, left⟩ := t
  cases step with
  | ready | orderAck =>
      obtain rfl : left = s.outstanding := outstanding
      exact tracked
  | timer trades =>
      cases trades with
      | none _ _ _ | cancel _ _ _ _ _ =>
          obtain rfl : left = s.outstanding := outstanding
          exact tracked
      | create model nextSample trading free allowed =>
          have id_eq : uint64 (s.strategy.maxOrderId + 1) = s.strategy.maxOrderId + 1 :=
            uint64_succ_of_lt (ends (by rw [sent]; rfl))
          refine .inr ⟨outstanding.trans ?_, ?_⟩
          · rw [tracked.free free]
            rfl
          · rw [id_eq]
            exact Nat.succ_ne_zero _
  | @message source message _ dispatched =>
      have kept : List.Sublist left s.outstanding := by
        rw [show left = receive s.outstanding (.message source message) from outstanding]
        exact receive_sublist _ _
      rcases tracked with none | ⟨one, working⟩
      · rw [none, List.sublist_nil] at kept
        exact .inl kept
      rw [one, List.sublist_singleton] at kept
      rcases kept with gone | kept
      · exact .inl gone
      rcases react_working dispatched with same | ⟨orderUpdate, rfl, complete, _⟩
      · exact .inr ⟨kept.trans (congrArg (fun orderId => [orderId]) same.symm),
          fun zero => working (same.symm.trans zero)⟩
      · left
        obtain ⟨first, own⟩ := ends complete working
        rw [outstanding, one]
        simp [receive, first, complete, own]

private theorem createsAlone_step [Utils] {s t : Session Book} {e : Event Update}
    (tracked : s.Tracked) (taken : s.next mbp e = some t) : s.CreatesAlone mbp e := by
  obtain ⟨effects, step, sent, _⟩ := next_step taken
  obtain ⟨strategy, left⟩ := t
  intro creates
  rw [sent] at creates
  cases step with
  | ready | orderAck | message _ => cases creates
  | timer trades =>
      cases trades with
      | none _ _ _ | cancel _ _ _ _ _ => cases creates
      | create _ _ _ free _ => exact tracked.free free

/-- For every run from the start, with any signals, timers, disconnects and order updates: while no
other order ends at the time an order works, an order is created only when none is outstanding, and
there is never more than one. -/
theorem creates_alone [Utils] (mbp : MarketByPrice Book Update) (settings : Settings)
    (es : List (Event Update))
    (ends : AllSteps (next mbp) (EndsWorking mbp) (start mbp settings) es) :
    AllSteps (next mbp) (CreatesAlone mbp) (start mbp settings) es ∧
      AllStates (next mbp) (fun s => s.outstanding.length ≤ 1) (start mbp settings) es := by
  have initial : (start mbp settings).Tracked := .inl rfl
  constructor
  · exact ends.guarantee (fun _ _ _ => tracked_step)
      (fun _ _ _ tracked _ taken => createsAlone_step tracked taken) initial
  · exact (ends.invariant (fun _ _ _ => tracked_step) initial).mono fun _ => Tracked.length_le

section Examples

open scoped RoqSamples.Client.Documented

/-- The instrument gets ready, and the market has its first samples. -/
def opening : List (Event Depth) :=
  [.message 0 .connected,
    .message 0 (.gatewayStatus "" [.referenceData, .marketStatus, .marketByPrice] []),
    .message 0 (.gatewayStatus "A1" [.createOrder, .cancelOrder, .order, .position] []),
    .message 0 (.referenceData "deribit" "BTC-PERPETUAL" (.num (1 / 2)) 1 1),
    .message 0 (.marketStatus "deribit" "BTC-PERPETUAL" .«open»)] ++
    sample 1 100 101 ++ sample 2 100 101

def canceled (orderId : Nat) : Event Depth :=
  .message 0 (.orderUpdate ⟨orderId, .buy, .incremental, .canceled, 1, 0, 100⟩)

/-- Order 1 is created and canceled, order 2 is created, and a cancel of order `orderId` is
reported before the next signal. -/
def thirdSignal (orderId : Nat) : List (Event Depth) :=
  opening ++ recovery 3 ++ [canceled 1] ++ recovery 5 ++ [canceled orderId] ++ recovery 7

/-- When order 2 is canceled, order 3 follows it. -/
theorem creates_alone_when_canceled :
    AllSteps (next snapshots) (CreatesAlone snapshots) (start snapshots halfWeights)
        (thirdSignal 2) ∧
      AllStates (next snapshots) (fun s => s.outstanding.length ≤ 1) (start snapshots halfWeights)
        (thirdSignal 2) :=
  creates_alone snapshots halfWeights (thirdSignal 2) (by decide +kernel)

/-- When the end of order 1 is reported once more, order 3 is created while order 2 works. -/
theorem repeated_terminal_update_doubles_order :
    (∃ t, run (next snapshots) (start snapshots halfWeights) (thirdSignal 1) = some t ∧
        t.outstanding = [2, 3]) ∧
      ¬ AllSteps (next snapshots) (CreatesAlone snapshots) (start snapshots halfWeights)
        (thirdSignal 1) :=
  ⟨reaches_of_any (by decide +kernel), by decide +kernel⟩

end Examples

end Session

end RoqSamples.Example3.WorkingOrder
