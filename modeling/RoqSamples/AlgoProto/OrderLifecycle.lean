/- AlgoProto/OrderLifecycle
   digest: An order manager leaves an order alone once it has ended, exactly as long as it is given
     no other target then. -/
import RoqSamples.AlgoProto.Parties

set_option autoImplicit false
set_option relaxedAutoImplicit false

namespace RoqSamples.AlgoProto.OrderLifecycle

open RoqSamples.Algo
open RoqSamples.Arith (Double)
open RoqSamples.Client (Utils)
open RoqSamples.Execution.Calls
open RoqSamples.Execution.Runs

variable {C : Caches}

/-- The message ends the order: a terminal OrderUpdate, or a failed OrderAck of its CreateOrder. -/
def ends [Utils] (orderId : Nat) : Note → Bool
  | .acked orderAck =>
      orderAck.orderId = orderId && orderAck.requestType = .createOrder &&
        Utils.hasRequestFailed orderAck.requestStatus
  | .updated orderUpdate =>
      orderUpdate.orderId = orderId && Utils.isOrderComplete orderUpdate.orderStatus
  | .target _ _ | .created _ | .modified _ => false

def Ended [Utils] (orderId : Nat) (journal : List Note) :
    Prop := ∃ note ∈ journal, ends orderId note = true

/-- The order that was created last; 0 stands for no order, as in the source. -/
def current (journal : List Note) : Nat :=
  journal.foldl (fun orderId note =>
    match note with
    | .created orderId => orderId
    | _ => orderId) 0

/-- An order that has ended is not modified, and the next target creates an order. -/
structure Lifecycle [Utils] (journal : List Note) : Prop where
  modified : ∀ before orderId after, journal = before ++ .modified orderId :: after →
    ¬ Ended orderId before
  served : ∀ before quantity price after, journal = before ++ .target quantity price :: after →
    current before ≠ 0 → Ended (current before) before →
      ∃ orderId rest, after = .created orderId :: rest

/-- No target that differs from the one before comes once the order has ended. -/
def Undisturbed [Utils] (journal : List Note) : Prop :=
  ∀ before quantity price after, journal = before ++ .target quantity price :: after →
    current before ≠ 0 → ¬ Ended (current before) before

/-- What an order manager remembers of its journal: its order, and whether the last note is a
target. -/
structure Memory where
  orderId : Nat := 0
  aimed : Bool := false

namespace Memory

def next (memory : Memory) : Note → Option Memory
  | .target _ _ => some { memory with aimed := true }
  | .created orderId =>
      if memory.aimed = true ∧ memory.orderId = 0 then some { orderId := orderId } else none
  | .modified orderId =>
      if memory.aimed = true ∧ memory.orderId ≠ 0 ∧ memory.orderId = orderId then
        some { memory with aimed := false }
      else none
  | .acked _ | .updated _ => some { memory with aimed := false }

end Memory

theorem current_append (journal : List Note) (note : Note) :
    current (journal ++ [note]) =
      match note with
      | .created orderId => orderId
      | _ => current journal := by
  rw [current, List.foldl_append]
  rfl

/-- The memory is what it should be: the current order, and a journal that ends in a target. -/
private theorem remembers {journal : List Note} {memory : Memory}
    (reached : run Memory.next {} journal = some memory) :
    memory.orderId = current journal ∧
      (memory.aimed = true → ∃ before quantity price,
        journal = before ++ [.target quantity price] ∧ current before = memory.orderId) := by
  refine run_history (I := fun journal memory => memory.orderId = current journal ∧
    (memory.aimed = true → ∃ before quantity price,
      journal = before ++ [.target quantity price] ∧ current before = memory.orderId)) ?_ ?_ reached
  · exact ⟨rfl, nofun⟩
  · rintro journal note memory after _ ⟨kept, _⟩ taken
    rw [current_append]
    cases note with
    | target quantity price =>
        cases taken
        exact ⟨kept, fun _ => ⟨journal, quantity, price, rfl, kept.symm⟩⟩
    | acked | updated =>
        cases taken
        exact ⟨kept, nofun⟩
    | created orderId =>
        simp only [Memory.next] at taken
        split at taken
        · cases taken
          exact ⟨rfl, nofun⟩
        · cases taken
    | modified orderId =>
        simp only [Memory.next] at taken
        split at taken
        · cases taken
          exact ⟨kept, nofun⟩
        · cases taken

/-- The journal splits at a note: what the memory was before it, and after it. -/
private theorem split_at {before after : List Note} {note : Note} {memory : Memory}
    (reached : run Memory.next {} (before ++ note :: after) = some memory) :
    ∃ earlier later, run Memory.next {} before = some earlier ∧
      Memory.next earlier note = some later ∧ run Memory.next later after = some memory := by
  rw [run_append] at reached
  obtain ⟨earlier, first, rest⟩ := Option.bind_eq_some_iff.mp reached
  obtain ⟨later, taken, last⟩ := run_cons_eq_some.mp rest
  exact ⟨earlier, later, first, taken, last⟩

private theorem ended_append_target [Utils] {orderId : Nat} {journal : List Note}
    {quantity price : Double} :
    Ended orderId (journal ++ [.target quantity price]) ↔ Ended orderId journal := by
  simp [Ended, ends]

/-- For a journal that the memory accepts the two are the same. -/
private theorem lifecycle_iff_of_memory [Utils] {journal : List Note} {memory : Memory}
    (reached : run Memory.next {} journal = some memory) :
    Lifecycle journal ↔ Undisturbed journal := by
  constructor
  · rintro lifecycle before quantity price after rfl ordered ended
    obtain ⟨orderId, rest, rfl⟩ := lifecycle.served before quantity price after rfl ordered ended
    obtain ⟨earlier, later, first, taken, last⟩ := split_at reached
    obtain ⟨next, created, _⟩ := run_cons_eq_some.mp last
    cases taken
    have unordered : earlier.orderId = 0 := by
      simp only [Memory.next] at created
      split at created
      · rename_i guard
        exact guard.2
      · cases created
    rw [(remembers first).1] at unordered
    exact ordered unordered
  · intro undisturbed
    refine ⟨?_, ?_⟩
    · rintro before orderId after rfl
      obtain ⟨earlier, later, first, taken, _⟩ := split_at reached
      simp only [Memory.next] at taken
      split at taken
      · rename_i guard
        obtain ⟨aimed, ordered, same⟩ := guard
        obtain ⟨before, quantity, price, rfl, kept⟩ := (remembers first).2 aimed
        rw [ended_append_target, ← same, ← kept]
        refine undisturbed before quantity price (.modified orderId :: after) ?_ ?_
        · rw [List.append_assoc]
          rfl
        · rwa [kept]
      · cases taken
    · intro before quantity price after split ordered ended
      exact (undisturbed before quantity price after split ordered ended).elim

/-- The memory of an order manager accepts its journal and knows its order. -/
private def Remembered (manager : OrderManager) : Prop :=
  ∃ aimed, run Memory.next {} manager.journal = some ⟨manager.orderId, aimed⟩

private theorem run_note {manager : OrderManager} {memory later : Memory} {note : Note}
    (reached : run Memory.next {} manager.journal = some memory)
    (taken : memory.next note = some later) :
    run Memory.next {} (manager.note [note]).journal = some later := by
  have appended : (manager.note [note]).journal = manager.journal ++ [note] := rfl
  rw [appended, run_append, reached, Option.bind_some, run_cons taken]
  rfl

private theorem remembered_received {manager : OrderManager} {note : Note}
    (received : note.isReceived = true) (remembered : Remembered manager) :
    Remembered (manager.note [note]) := by
  obtain ⟨aimed, reached⟩ := remembered
  refine ⟨false, run_note reached ?_⟩
  cases note with
  | acked | updated => rfl
  | target | created | modified => cases received

private theorem run_aim {manager : OrderManager} (remembered : Remembered manager)
    (quantity price : Double) :
    run Memory.next {} (manager.aim quantity price).journal = some ⟨manager.orderId, true⟩ := by
  obtain ⟨aimed, reached⟩ := remembered
  have taken : Memory.next ⟨manager.orderId, aimed⟩ (.target quantity price) =
      some ⟨manager.orderId, true⟩ := rfl
  exact run_note reached taken

private theorem remembered_hold {manager : OrderManager} (remembered : Remembered manager)
    (unordered : manager.orderId = 0) (quantity price : Double) (orderId : Nat) :
    Remembered ((manager.aim quantity price).hold orderId) := by
  refine ⟨false, run_note (run_aim remembered quantity price) ?_⟩
  simp only [Memory.next, unordered, and_self, if_true]
  rfl

private theorem remembered_modified {manager : OrderManager} (remembered : Remembered manager)
    (ordered : manager.orderId ≠ 0) (quantity price : Double) :
    Remembered ((manager.aim quantity price).note [.modified manager.orderId]) := by
  refine ⟨false, run_note (run_aim remembered quantity price) ?_⟩
  simp only [Memory.next, ne_eq, ordered, not_false_eq_true, and_self, if_true]
  rfl

/-- Every order manager of a strategy. -/
private def AllRemembered (s : Spread C) : Prop := ∀ manager ∈ s.orderManagers, Remembered manager

private theorem allRemembered_put {b : Base} {position : Nat} {manager : OrderManager}
    (all : ∀ manager ∈ b.orderManagers, Remembered manager) (remembered : Remembered manager) :
    ∀ other ∈ (b.put position manager).orderManagers, Remembered other := by
  intro other mem
  rcases Base.mem_put mem with before | rfl
  · exact all other before
  · exact remembered

/-- One target: what `set_target` writes into the journal is what the memory expects. -/
private theorem allRemembered_targeted [Utils] {context : Context C} {position : Nat}
    {quantity price : Double} {b : Base} {d : Dispatcher}
    {result : (Base × Dispatcher) × Option Stop}
    (targeted : Base.Targeted context position quantity price b d result)
    (all : ∀ manager ∈ b.orderManagers, Remembered manager) :
    ∀ manager ∈ result.1.1.orderManagers, Remembered manager := by
  cases targeted with
  | absent | unchanged => exact all
  | failed manager instrument d' stop found changes unordered =>
      have remembered := all manager (List.mem_of_getElem? found)
      exact allRemembered_put all ⟨true, run_aim remembered quantity price⟩
  | placed manager instrument d' found changes unordered =>
      have remembered := all manager (List.mem_of_getElem? found)
      exact allRemembered_put all (remembered_hold remembered unordered quantity price _)
  | amended manager found changes ordered =>
      have remembered := all manager (List.mem_of_getElem? found)
      exact allRemembered_put all (remembered_modified remembered ordered quantity price)

private theorem allRemembered_setTarget [Utils] {s : Spread C} (all : AllRemembered s)
    (context : Context C) (position : Nat) (quantity price : Double) (d : Dispatcher) :
    AllRemembered (s.setTarget context position quantity price d).1.1 :=
  allRemembered_targeted (Base.setTarget_targeted context position quantity price s.toBase d) all

private theorem remembered_invariant [Utils] :
    PartyInvariant (fun _ s _ => AllRemembered (C := C) s) (fun _ _ => True) where
  stable := fun _ _ _ _ _ => id
  noted := fun _ _ _ _ => id
  reported := fun _ _ _ _ => id
  refreshed := fun _ _ _ => ⟨fun _ _ => id, fun _ => id⟩
  heard := fun _ _ _ _ _ => id
  handled := by
    intro context source message s d all _
    refine ⟨?_, trivial⟩
    refine Spread.handle_keeps (I := fun s _ => AllRemembered s) ?_ (fun _ _ _ => id) ?_ ?_
      message all
    · intro s d all
      have same := (Base.sameOrders_update context.toView source s.toBase).orderManagers
      show ∀ manager ∈ (s.toBase.update context.toView source).1.orderManagers, _
      rwa [same]
    · intro s d price all _
      exact allRemembered_setTarget all context 0 s.quantity price d
    · intro s d orderId note received all
      show ∀ manager ∈ (s.toBase.dispatch orderId note).1.orderManagers, _
      rcases Base.dispatch_cases orderId note s.toBase with same | ⟨index, manager, _, found, noted⟩
      · rwa [same]
      · rw [noted]
        exact allRemembered_put all
          (remembered_received received (all manager (List.mem_of_getElem? found)))
  created := by
    intro _ _ compare instruments routingId request spread created manager mem
    obtain ⟨managers, made, rfl⟩ := Client.ok_of_map created
    obtain ⟨position, found⟩ := List.mem_iff_getElem?.mp mem
    obtain ⟨_, side, _, _, rfl⟩ := (createOrderManagers_spec made).2 position manager found
    exact ⟨false, rfl⟩

/-- For every run and every order manager in it, with any calls of `set_target`, any events, and
sends that throw: no order is modified after it has ended, and the next target creates a new one,
exactly when no other target comes after the order has ended. -/
theorem order_lifecycle_iff [Utils] (encode : Nat → String) (compare : Double → Double → Ordering)
    (config : Config) (actions : List (Action C)) (t : Bridge C)
    (reached : run (Bridge.nextCaught encode compare) (Bridge.initial C config) actions = some t)
    (strategyId : Nat) (spread : Spread C) (found : t.strategies.lookup strategyId = some spread)
    (manager : OrderManager) (managed : manager ∈ spread.orderManagers) :
    Lifecycle manager.journal ↔ Undisturbed manager.journal := by
  have all := Bridge.all_reached remembered_invariant
    (fun context position quantity price s d all _ =>
      ⟨allRemembered_setTarget all context position quantity price d, trivial⟩) trivial reached
  obtain ⟨aimed, remembered⟩ := all.strategies strategyId spread found manager managed
  exact lifecycle_iff_of_memory remembered

section Examples

open scoped RoqSamples.Client.Documented

private def completed : OrderUpdate where
  orderId := 1
  side := .buy
  updateType := .incremental
  orderStatus := .completed
  quantity := 1
  tradedQuantity := 1
  price := 80
  routingId := base64OfId 1

/-- An order is created and filled. -/
private def filled : List (Action plain) :=
  sampleOpening ++ [bookEvent future 90 91, .event { event := .orderUpdate 0 completed }]

theorem order_lifecycle_iff_filled :
    ∃ t spread manager, run (Bridge.nextCaught base64OfId compareNumbers)
        (Bridge.initial plain sampleConfig) filled = some t ∧
      t.strategies.lookup 1 = some spread ∧ spread.orderManagers[0]? = some manager ∧
      manager.journal = [.target 1 80, .created 1, .updated completed] ∧
      (Lifecycle manager.journal ↔ Undisturbed manager.journal) := by
  obtain ⟨t, reached, evaluated⟩ : ∃ t, run (Bridge.nextCaught base64OfId compareNumbers)
      (Bridge.initial plain sampleConfig) filled = some t ∧
        (t.strategies.lookup 1).map (fun spread => spread.orderManagers[0]?.map
          OrderManager.journal) = some (some [.target 1 80, .created 1, .updated completed]) :=
    reaches_of_any (by decide +kernel)
  obtain ⟨spread, found, managers⟩ := Option.map_eq_some_iff.mp evaluated
  obtain ⟨manager, managed, journal⟩ := Option.map_eq_some_iff.mp managers
  exact ⟨t, spread, manager, reached, found, managed, journal,
    order_lifecycle_iff base64OfId compareNumbers sampleConfig filled t reached 1 spread found
      manager (List.mem_of_getElem? managed)⟩

/-- The bid of the second instrument moves after the order has been filled. -/
theorem filled_order_modified :
    ∃ t spread manager, run (Bridge.nextCaught base64OfId compareNumbers)
        (Bridge.initial plain sampleConfig) (filled ++ [bookEvent future 92 93]) = some t ∧
      t.strategies.lookup 1 = some spread ∧ spread.orderManagers[0]? = some manager ∧
      manager.journal = [.target 1 80, .created 1, .updated completed, .target 1 82, .modified 1] ∧
      ¬ Lifecycle manager.journal := by
  obtain ⟨t, reached, evaluated⟩ : ∃ t, run (Bridge.nextCaught base64OfId compareNumbers)
      (Bridge.initial plain sampleConfig) (filled ++ [bookEvent future 92 93]) = some t ∧
        (t.strategies.lookup 1).map (fun spread => spread.orderManagers[0]?.map
          OrderManager.journal) = some (some
            [.target 1 80, .created 1, .updated completed, .target 1 82, .modified 1]) :=
    reaches_of_any (by decide +kernel)
  obtain ⟨spread, found, managers⟩ := Option.map_eq_some_iff.mp evaluated
  obtain ⟨manager, managed, journal⟩ := Option.map_eq_some_iff.mp managers
  refine ⟨t, spread, manager, reached, found, managed, journal, fun lifecycle => ?_⟩
  refine lifecycle.modified [.target 1 80, .created 1, .updated completed, .target 1 82] 1 []
    journal ⟨.updated completed, ?_, rfl⟩
  simp

end Examples

end RoqSamples.AlgoProto.OrderLifecycle
