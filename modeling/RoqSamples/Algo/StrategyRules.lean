/- Algo/StrategyRules
   digest: What a call of a strategy can do, and the rules that carry properties through it. -/
import RoqSamples.Algo.Strategy

set_option autoImplicit false
set_option relaxedAutoImplicit false

namespace RoqSamples.Algo

open RoqSamples.Arith (Double)
open RoqSamples.Client (Utils)
open RoqSamples.Execution.Calls (emplace)

variable {C : Caches}

namespace Base

/-- The ways in which `set_target` can end, one for each of its branches. -/
inductive Targeted [Utils] (context : Context C) (position : Nat) (quantity price : Double)
    (b : Base) (d : Dispatcher) : (Base × Dispatcher) × Option Stop → Prop
  | absent (noted : Dispatcher) (checked : noted = d ∨ noted = d.check b.ready .notReady) :
      Targeted context position quantity price b d ((b, noted), some .outOfRange)
  | unchanged (manager : OrderManager) (found : b.orderManagers[position]? = some manager)
      (same : manager.changes quantity price = false) :
      Targeted context position quantity price b d ((b, d.check b.ready .notReady), none)
  | failed (manager : OrderManager) (instrument : Instrument) (d' : Dispatcher) (stop : Stop)
      (found : b.orderManagers[position]? = some manager)
      (changes : manager.changes quantity price = true) (unordered : manager.orderId = 0)
      (managed : b.instruments[manager.index]? = some instrument)
      (stopped : (d.check b.ready .notReady).createOrder context
        ((manager.aim quantity price).createOrderRequest b.account b.routingId instrument
          d.nextOrderId) = (d', some stop)) :
      Targeted context position quantity price b d
        ((b.put position (manager.aim quantity price), d'), some stop)
  | placed (manager : OrderManager) (instrument : Instrument) (d' : Dispatcher)
      (found : b.orderManagers[position]? = some manager)
      (changes : manager.changes quantity price = true) (unordered : manager.orderId = 0)
      (managed : b.instruments[manager.index]? = some instrument)
      (returned : (d.check b.ready .notReady).createOrder context
        ((manager.aim quantity price).createOrderRequest b.account b.routingId instrument
          d.nextOrderId) = (d', none)) :
      Targeted context position quantity price b d
        ((b.register position d.nextOrderId (manager.aim quantity price),
          d'.check (d.nextOrderId ∉ b.orderIdToOrderManagerIndex) (.orderIdTaken d.nextOrderId)),
          none)
  | amended (manager : OrderManager) (found : b.orderManagers[position]? = some manager)
      (changes : manager.changes quantity price = true) (ordered : manager.orderId ≠ 0) :
      Targeted context position quantity price b d
        (b.amendOrder context position (manager.aim quantity price) (d.check b.ready .notReady))

@[simp] theorem nextOrderId_check (holds : Bool) (assertion : Assertion) (d : Dispatcher) :
    (d.check holds assertion).nextOrderId = d.nextOrderId := by
  rw [Dispatcher.nextOrderId, Dispatcher.check_maxOrderId, Dispatcher.nextOrderId]

theorem setTarget_targeted [Utils] (context : Context C) (position : Nat) (quantity price : Double)
    (b : Base) (d : Dispatcher) :
    Targeted context position quantity price b d
      (b.setTarget context position quantity price d) := by
  unfold setTarget
  split
  · exact .absent d (.inl rfl)
  · rename_i manager found
    split
    · rename_i same
      exact .unchanged manager found same
    · rename_i changes
      have changes := eq_true_of_ne_false changes
      split
      · rename_i unordered
        unfold placeOrder
        split
        · exact .absent _ (.inr rfl)
        · rename_i instrument managed
          rw [nextOrderId_check]
          split
          · rename_i d' stop stopped
            exact .failed manager instrument d' stop found changes unordered managed stopped
          · rename_i d' returned
            exact .placed manager instrument d' found changes unordered managed returned
      · rename_i ordered
        exact .amended manager found changes ordered

/-- What only `update` writes, and what nothing writes. -/
structure Steady (b b' : Base) : Prop where
  instruments : b'.instruments = b.instruments
  routingId : b'.routingId = b.routingId
  account : b'.account = b.account
  readyByInstrument : b'.readyByInstrument = b.readyByInstrument
  ready : b'.ready = b.ready
  callbacks : b'.callbacks = b.callbacks

theorem Steady.refl (b : Base) : Steady b b := ⟨rfl, rfl, rfl, rfl, rfl, rfl⟩

theorem steady_put (position : Nat) (manager : OrderManager) (b : Base) :
    Steady b (b.put position manager) := ⟨rfl, rfl, rfl, rfl, rfl, rfl⟩

theorem Targeted.steady [Utils] {context : Context C} {position : Nat} {quantity price : Double}
    {b : Base} {d : Dispatcher} {result : (Base × Dispatcher) × Option Stop}
    (targeted : Targeted context position quantity price b d result) : Steady b result.1.1 := by
  cases targeted with
  | absent | unchanged => exact Steady.refl b
  | failed | amended => exact steady_put _ _ b
  | placed => exact ⟨rfl, rfl, rfl, rfl, rfl, rfl⟩

theorem steady_dispatch (orderId : Nat) (note : Note) (b : Base) :
    Steady b (b.dispatch orderId note).1 := by
  unfold dispatch
  split
  · exact Steady.refl b
  · split
    · exact Steady.refl b
    · exact steady_put _ _ b

theorem Targeted.grows [Utils] {context : Context C} {position : Nat} {quantity price : Double}
    {b : Base} {d : Dispatcher} {result : (Base × Dispatcher) × Option Stop}
    (targeted : Targeted context position quantity price b d result) : d.Grows result.1.2 := by
  have noted := Dispatcher.grows_check b.ready .notReady d
  cases targeted with
  | absent d' checked =>
      show d.Grows d'
      rcases checked with same | same
      · rw [same]
        exact Dispatcher.Grows.refl d
      · rwa [same]
  | unchanged => exact noted
  | failed manager instrument d' stop found changes unordered managed stopped =>
      exact noted.trans (Dispatcher.grows_of_createOrder stopped)
  | placed manager instrument d' found changes unordered managed returned =>
      exact (noted.trans (Dispatcher.grows_of_createOrder returned)).trans
        (Dispatcher.grows_check _ _ d')
  | amended => exact noted.trans (Dispatcher.grows_followUp _ _ _)

/-- What `update` leaves alone. -/
structure SameOrders (b b' : Base) : Prop where
  instruments : b'.instruments = b.instruments
  routingId : b'.routingId = b.routingId
  account : b'.account = b.account
  orderManagers : b'.orderManagers = b.orderManagers
  table : b'.orderIdToOrderManagerIndex = b.orderIdToOrderManagerIndex

theorem sameOrders_update [Utils] (view : View C) (source : Nat) (b : Base) :
    SameOrders b (b.update view source).1 := by
  unfold update
  dsimp only
  split
  · exact ⟨rfl, rfl, rfl, rfl, rfl⟩
  · exact ⟨rfl, rfl, rfl, rfl, rfl⟩

theorem mem_put {position : Nat} {manager other : OrderManager} {b : Base}
    (mem : other ∈ (b.put position manager).orderManagers) :
    other ∈ b.orderManagers ∨ other = manager := List.mem_or_eq_of_mem_set mem

/-- A message that finds an order manager is noted by it, and by no other. -/
theorem dispatch_cases (orderId : Nat) (note : Note) (b : Base) :
    (b.dispatch orderId note).1 = b ∨
      ∃ index manager, b.orderIdToOrderManagerIndex.lookup orderId = some index ∧
        b.orderManagers[index]? = some manager ∧
        (b.dispatch orderId note).1 = b.put index (manager.note [note]) := by
  unfold dispatch
  split
  · exact .inl rfl
  · rename_i index listed
    split
    · exact .inl rfl
    · rename_i manager found
      exact .inr ⟨index, manager, listed, found, rfl⟩

end Base

/-- The order managers of a new strategy: one for each instrument, in order, on the side that the
comparison of its weight with zero asks for, with nothing done. -/
theorem createOrderManagers_spec {compare : Double → Double → Ordering} {user : Client.Side}
    {index : Nat} {instruments : List Instrument} {managers : List OrderManager}
    (created : createOrderManagers compare user index instruments = .ok managers) :
    managers.length = instruments.length ∧
      ∀ (position : Nat) (manager : OrderManager), managers[position]? = some manager →
        ∃ instrument side, instruments[position]? = some instrument ∧
          (compare instrument.weight 0 = .gt ∧ side = user ∨
            compare instrument.weight 0 = .lt ∧ side = invert user) ∧
          manager = { index := index + position, side := side } := by
  induction instruments generalizing index managers with
  | nil =>
      cases created
      exact ⟨rfl, nofun⟩
  | cons instrument instruments ih =>
      have head (first : Client.Side)
          (own : compare instrument.weight 0 = .gt ∧ first = user ∨
            compare instrument.weight 0 = .lt ∧ first = invert user)
          (rest : (createOrderManagers compare user (index + 1) instruments).map
            (fun rest => { index := index, side := first } :: rest) = .ok managers) :
          managers.length = (instrument :: instruments).length ∧
            ∀ (position : Nat) (manager : OrderManager), managers[position]? = some manager →
              ∃ other side, (instrument :: instruments)[position]? = some other ∧
                (compare other.weight 0 = .gt ∧ side = user ∨
                  compare other.weight 0 = .lt ∧ side = invert user) ∧
                manager = { index := index + position, side := side } := by
        obtain ⟨others, later, rfl⟩ := Client.ok_of_map rest
        obtain ⟨length, each⟩ := ih later
        refine ⟨by rw [List.length_cons, length, List.length_cons], ?_⟩
        intro position manager found
        cases position with
        | zero =>
            cases found
            exact ⟨instrument, first, rfl, own, rfl⟩
        | succ position =>
            obtain ⟨other, side, here, sided, rfl⟩ := each position manager found
            exact ⟨other, side, here, sided, by rw [Nat.add_right_comm, Nat.add_assoc]⟩
      unfold createOrderManagers at created
      split at created
      · cases created
      · rename_i greater
        exact head user (.inl ⟨greater, rfl⟩) created
      · rename_i less
        exact head (invert user) (.inr ⟨less, rfl⟩) created

namespace Spread

variable [Utils]

/-- The ways in which `Spread::update` can end. -/
inductive Updated (context : Context C) (s : Spread C) (d : Dispatcher) :
    (Spread C × Dispatcher) × Option Stop → Prop
  | idle (noted : Dispatcher)
      (checked : noted = d ∨ noted = d.check (s.side ≠ .undefined) .undefinedSide) :
      Updated context s d ((s, noted), none)
  | outOfRange : Updated context s d ((s, d), some .outOfRange)
  | targets (price : Double) (ready : s.ready = true) :
      Updated context s d (s.setTarget context 0 s.quantity price d)

theorem update_updated (context : Context C) (s : Spread C) (d : Dispatcher) :
    Updated context s d (s.update context d) := by
  unfold update
  split
  · exact .idle d (.inl rfl)
  · rename_i ready
    split
    · split
      · split
        · exact .idle _ (.inr rfl)
        · exact .targets _ (eq_true_of_ne_false ready)
      · exact .idle d (.inl rfl)
    · exact .outOfRange

/-- A property that survives the readiness, `update` and the notes survives a handler. -/
theorem handle_keeps_of_update {I : Spread C → Dispatcher → Prop} {context : Context C}
    {source : Nat}
    (flags : ∀ s d, I s d → I (s.withBase (s.toBase.update context.toView source).1) d)
    (updates : ∀ s d, I s d → I (s.update context d).1.1 (s.update context d).1.2)
    (dispatches : ∀ s d orderId note, note.isReceived = true → I s d →
      I (s.withBase (s.toBase.dispatch orderId note).1) d)
    (message : Message C) {s : Spread C} {d : Dispatcher} (start : I s d) :
    I (s.handle context source message d).1.1 (s.handle context source message d).1.2 := by
  have notifies : I (s.notify context source d).1.1 (s.notify context source d).1.2 := by
    have flagged := flags s d start
    unfold notify
    split
    · rename_i b equal
      rw [equal] at flagged
      exact updates _ d flagged
    all_goals
      rename_i b equal
      rw [equal] at flagged
      exact flagged
  cases message with
  | timer => exact start
  | gateway message => exact notifies
  | orderAck | orderUpdate => exact dispatches s d _ _ rfl start
  | market key message =>
      cases message with
      | referenceData | marketStatus => exact notifies
      | topOfBook => exact start
      | marketByPriceUpdate => exact updates s d start

/-- A property that survives every piece of a handler survives the handler. -/
theorem handle_keeps {I : Spread C → Dispatcher → Prop} {context : Context C} {source : Nat}
    (flags : ∀ s d, I s d → I (s.withBase (s.toBase.update context.toView source).1) d)
    (undefinedSide : ∀ s d holds, I s d → I s (d.check holds .undefinedSide))
    (targets : ∀ s d price, I s d → s.ready = true →
      I (s.setTarget context 0 s.quantity price d).1.1
        (s.setTarget context 0 s.quantity price d).1.2)
    (dispatches : ∀ s d orderId note, note.isReceived = true → I s d →
      I (s.withBase (s.toBase.dispatch orderId note).1) d)
    (message : Message C) {s : Spread C} {d : Dispatcher} (start : I s d) :
    I (s.handle context source message d).1.1 (s.handle context source message d).1.2 := by
  refine handle_keeps_of_update flags ?_ dispatches message start
  intro s d start
  have updated := update_updated context s d
  generalize s.update context d = result at updated
  cases updated with
  | idle noted checked =>
      rcases checked with rfl | rfl
      · exact start
      · exact undefinedSide s d _ start
  | outOfRange => exact start
  | targets price ready => exact targets s d price start ready

/-- No handler writes the instruments, the routing id or the messages that a strategy was called
with. -/
theorem handle_card (context : Context C) (source : Nat) (message : Message C) (s : Spread C)
    (d : Dispatcher) :
    (s.handle context source message d).1.1.instruments = s.instruments ∧
      (s.handle context source message d).1.1.routingId = s.routingId ∧
      (s.handle context source message d).1.1.inbox = s.inbox := by
  refine handle_keeps (I := fun s' _ => s'.instruments = s.instruments ∧
    s'.routingId = s.routingId ∧ s'.inbox = s.inbox) ?_ (fun _ _ _ => id) ?_ ?_ message
    ⟨rfl, rfl, rfl⟩
  · rintro s' _ ⟨instruments, routingId, inbox⟩
    have same := Base.sameOrders_update context.toView source s'.toBase
    exact ⟨same.instruments.trans instruments, same.routingId.trans routingId, inbox⟩
  · rintro s' d price ⟨instruments, routingId, inbox⟩ _
    have steady := (Base.setTarget_targeted context 0 s'.quantity price s'.toBase d).steady
    exact ⟨steady.instruments.trans instruments, steady.routingId.trans routingId, inbox⟩
  · rintro s' _ orderId note _ ⟨instruments, routingId, inbox⟩
    have steady := Base.steady_dispatch orderId note s'.toBase
    exact ⟨steady.instruments.trans instruments, steady.routingId.trans routingId, inbox⟩

/-- A handler that stops has left a vector, or it has been stopped by the target that it sets. -/
theorem handle_stopped {I : Spread C → Prop} {context : Context C} {source : Nat}
    (flags : ∀ s, I s → I (s.withBase (s.toBase.update context.toView source).1))
    {message : Message C} {s : Spread C} {d : Dispatcher} {reason : Stop} (start : I s)
    (stopped : (s.handle context source message d).2 = some reason) :
    reason = .outOfRange ∨ ∃ s' price, I s' ∧ s'.ready = true ∧
      (s'.setTarget context 0 s'.quantity price d).2 = some reason := by
  have updates (s : Spread C) (start : I s) (stopped : (s.update context d).2 = some reason) :
      reason = .outOfRange ∨ ∃ s' price, I s' ∧ s'.ready = true ∧
        (s'.setTarget context 0 s'.quantity price d).2 = some reason := by
    have updated := update_updated context s d
    generalize s.update context d = result at updated stopped
    cases updated with
    | idle => cases stopped
    | outOfRange =>
        cases stopped
        exact .inl rfl
    | targets price ready => exact .inr ⟨s, price, start, ready, stopped⟩
  have notifies (stopped : (s.notify context source d).2 = some reason) :
      reason = .outOfRange ∨ ∃ s' price, I s' ∧ s'.ready = true ∧
        (s'.setTarget context 0 s'.quantity price d).2 = some reason := by
    have flagged := flags s start
    unfold notify at stopped
    split at stopped
    · rename_i b equal
      rw [equal] at flagged
      exact updates _ flagged stopped
    all_goals cases stopped
  have dispatches (orderId : Nat) (note : Note)
      (stopped : (s.toBase.dispatch orderId note).2 = some reason) : reason = .outOfRange := by
    unfold Base.dispatch at stopped
    split at stopped
    · cases stopped
    · split at stopped
      · cases stopped
        rfl
      · cases stopped
  cases message with
  | timer => cases stopped
  | gateway message => exact notifies stopped
  | orderAck | orderUpdate => exact .inl (dispatches _ _ stopped)
  | market key message =>
      cases message with
      | referenceData | marketStatus => exact notifies stopped
      | topOfBook => cases stopped
      | marketByPriceUpdate => exact updates s start stopped

end Spread

end RoqSamples.Algo
