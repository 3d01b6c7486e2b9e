/- Algo/IndexBounds
   digest: The order managers belong to the instruments, and which calls of a strategy leave a
     vector. -/
import RoqSamples.Algo.StrategyRules

set_option autoImplicit false
set_option relaxedAutoImplicit false

namespace RoqSamples.Algo

open RoqSamples.Arith (Double)
open RoqSamples.Client (Side Utils)
open RoqSamples.Execution.Calls (emplace lookup_emplace_cases)

variable {C : Caches}

/-- What `utils::compare` promises: a positive number is not less than zero, a negative one not
greater. -/
structure ComparesSigns (compare : Double → Double → Ordering) : Prop where
  positive : ∀ x, Double.lt 0 x = true → compare x 0 ≠ .lt
  negative : ∀ x, Double.lt x 0 = true → compare x 0 ≠ .gt

/-- The side of an order manager follows the sign of the weight. -/
def SideOf (user : Side) (weight : Double) (side : Side) : Prop :=
  (Double.lt 0 weight = true → side = user) ∧ (Double.lt weight 0 = true → side = invert user)

/-- Each order manager manages the instrument at its own position, on the side of its weight. -/
structure Base.Manages (user : Side) (b : Base) : Prop where
  length : b.orderManagers.length = b.instruments.length
  each : ∀ (i : Nat) (instrument : Instrument) (manager : OrderManager),
    b.instruments[i]? = some instrument → b.orderManagers[i]? = some manager →
      manager.index = i ∧ SideOf user instrument.weight manager.side

/-- The table of order ids leads to order managers. -/
structure Base.Sound (user : Side) (b : Base) : Prop where
  manages : b.Manages user
  table : ∀ orderId index, b.orderIdToOrderManagerIndex.lookup orderId = some index →
    index < b.orderManagers.length

/-- What the comparison of the weight asks for is the side of its sign. -/
private theorem sideOf_compared {compare : Double → Double → Ordering}
    (signs : ComparesSigns compare) {user side : Side} {weight : Double}
    (compared : compare weight 0 = .gt ∧ side = user ∨
      compare weight 0 = .lt ∧ side = invert user) : SideOf user weight side := by
  rcases compared with ⟨greater, rfl⟩ | ⟨less, rfl⟩
  · exact ⟨fun _ => rfl, fun negative => (signs.negative _ negative greater).elim⟩
  · exact ⟨fun positive => (signs.positive _ positive less).elim, fun _ => rfl⟩

namespace Base

/-- Whatever an order manager does, it keeps its position and its side. -/
private theorem sound_put {user : Side} {b : Base} (sound : b.Sound user) {position : Nat}
    {manager after : OrderManager} (found : b.orderManagers[position]? = some manager)
    (index : after.index = manager.index) (side : after.side = manager.side) :
    (b.put position after).Sound user := by
  refine ⟨⟨?_, fun i instrument other here there => ?_⟩, fun orderId index listed => ?_⟩
  · show (b.orderManagers.set position after).length = _
    rw [List.length_set]
    exact sound.manages.length
  · have there : (b.orderManagers.set position after)[i]? = some other := there
    have inside : i < b.orderManagers.length := by
      have bound := (List.getElem?_eq_some_iff.mp there).1
      rwa [List.length_set] at bound
    by_cases same : position = i
    · subst same
      rw [List.getElem?_set_self inside] at there
      cases there
      rw [index, side]
      exact sound.manages.each position instrument manager here found
    · rw [List.getElem?_set_ne same] at there
      exact sound.manages.each i instrument other here there
  · show index < (b.orderManagers.set position after).length
    rw [List.length_set]
    exact sound.table orderId index listed

private theorem sound_register {user : Side} {b : Base} (sound : b.Sound user)
    {position orderId : Nat} {manager after : OrderManager}
    (found : b.orderManagers[position]? = some manager) (index : after.index = manager.index)
    (side : after.side = manager.side) : (b.register position orderId after).Sound user := by
  have put : (b.put position (after.hold orderId)).Sound user := sound_put sound found index side
  refine ⟨⟨put.manages.length, put.manages.each⟩, fun other i listed => ?_⟩
  rcases lookup_emplace_cases listed with earlier | ⟨_, rfl⟩
  · exact put.table other i earlier
  · have inside := (List.getElem?_eq_some_iff.mp found).1
    have instrument := List.getElem?_eq_getElem (sound.manages.length ▸ inside)
    have own := (sound.manages.each position _ manager instrument found).1
    show after.index < (b.orderManagers.set position (after.hold orderId)).length
    rw [List.length_set, index, own]
    exact inside

theorem Targeted.sound [Utils] {user : Side} {context : Context C} {position : Nat}
    {quantity price : Double} {b : Base} {d : Dispatcher}
    {result : (Base × Dispatcher) × Option Stop} (sound : b.Sound user)
    (targeted : Targeted context position quantity price b d result) :
    result.1.1.Sound user := by
  cases targeted with
  | absent | unchanged => exact sound
  | failed manager _ _ _ found => exact sound_put sound found rfl rfl
  | placed manager _ _ found => exact sound_register sound found rfl rfl
  | amended manager found => exact sound_put sound found rfl rfl

theorem sound_dispatch {user : Side} {b : Base} (sound : b.Sound user) (orderId : Nat)
    (note : Note) : (b.dispatch orderId note).1.Sound user := by
  rcases dispatch_cases orderId note b with same | ⟨index, manager, _, found, put⟩
  · rwa [same]
  · rw [put]
    exact sound_put sound found rfl rfl

theorem sound_update [Utils] {user : Side} {b : Base} (sound : b.Sound user) (view : View C)
    (source : Nat) : (b.update view source).1.Sound user := by
  have same := sameOrders_update view source b
  refine ⟨⟨?_, fun i instrument manager here found => ?_⟩, fun orderId index listed => ?_⟩
  · rw [same.orderManagers, same.instruments]
    exact sound.manages.length
  · rw [same.instruments] at here
    rw [same.orderManagers] at found
    exact sound.manages.each i instrument manager here found
  · rw [same.table] at listed
    rw [same.orderManagers]
    exact sound.table orderId index listed

/-- The order manager of an instrument stays inside the vectors. -/
theorem setTarget_inRange [Utils] {user : Side} {b : Base} (sound : b.Sound user)
    (context : Context C) {position : Nat} (inside : position < b.instruments.length)
    (quantity price : Double) (d : Dispatcher) :
    (b.setTarget context position quantity price d).2 ≠ some .outOfRange := by
  have bound : position < b.orderManagers.length := by
    rw [sound.manages.length]
    exact inside
  have instrument := List.getElem?_eq_getElem inside
  have found := List.getElem?_eq_getElem bound
  have own := (sound.manages.each position _ _ instrument found).1
  unfold setTarget
  simp only [found]
  split
  · exact nofun
  split
  · unfold placeOrder
    have managed : b.instruments[(OrderManager.aim quantity price
        b.orderManagers[position]).index]? = some b.instruments[position] := by
      show b.instruments[b.orderManagers[position].index]? = _
      rw [own]
      exact instrument
    simp only [managed]
    split
    · rename_i d' stop stopped
      unfold Dispatcher.createOrder at stopped
      split at stopped
      · unfold Dispatcher.send at stopped
        have refused := congrArg Prod.snd stopped
        dsimp only at refused
        split at refused
        · cases refused
          exact nofun
        · cases refused
      · cases stopped
        exact nofun
    · exact nofun
  · unfold amendOrder Dispatcher.modifyOrder Dispatcher.followUp
    dsimp only
    split
    · unfold Dispatcher.send
      dsimp only
      split
      · exact nofun
      · exact nofun
    · exact nofun

private theorem dispatch_inRange {user : Side} {b : Base} (sound : b.Sound user) (orderId : Nat)
    (note : Note) : (b.dispatch orderId note).2 ≠ some .outOfRange := by
  unfold dispatch
  split
  · exact nofun
  · rename_i index listed
    have found := List.getElem?_eq_getElem (sound.table orderId index listed)
    simp only [found]
    exact nofun

end Base

namespace Spread

/-- The order managers of a new strategy belong to its instruments. -/
theorem create_sound {compare : Double → Double → Ordering} (signs : ComparesSigns compare)
    {instruments : List Instrument} {routingId : String} {request : CreateOrder} {s : Spread C}
    (created : Spread.create compare instruments routingId request = .ok s) :
    s.instruments = instruments ∧ s.readyByInstrument.length = instruments.length ∧
      s.toBase.Sound request.side := by
  obtain ⟨managers, made, rfl⟩ := Client.ok_of_map created
  obtain ⟨length, each⟩ := createOrderManagers_spec made
  refine ⟨rfl, List.length_replicate, ⟨length, fun i instrument manager here found => ?_⟩,
    fun orderId index listed => ?_⟩
  · obtain ⟨other, side, there, compared, same⟩ := each i manager found
    cases here.symm.trans there
    rw [same]
    exact ⟨Nat.zero_add i, sideOf_compared signs compared⟩
  · exact absurd listed (by simp)

variable [Utils]

theorem handle_sound {user : Side} {s : Spread C} (sound : s.toBase.Sound user)
    (context : Context C) (source : Nat) (message : Message C) (d : Dispatcher) :
    (s.handle context source message d).1.1.toBase.Sound user := by
  refine handle_keeps (I := fun t _ => t.toBase.Sound user) ?_ (fun _ _ _ => id) ?_ ?_ message
    sound
  · exact fun t _ sound => Base.sound_update sound context.toView source
  · intro t d price sound _
    exact (Base.setTarget_targeted context 0 t.quantity price t.toBase d).sound sound
  · exact fun t _ orderId note _ sound => Base.sound_dispatch sound orderId note

/-- `Spread::update` leaves a vector exactly when it looks for a second market that is not there. -/
private theorem update_outOfRange {user : Side} {s : Spread C} (sound : s.toBase.Sound user)
    (context : Context C) (d : Dispatcher) :
    (s.update context d).2 = some .outOfRange ↔ s.ready = true ∧ s.instruments.length < 2 := by
  unfold update
  cases ready : s.ready with
  | false => simp
  | true =>
      by_cases two : 2 ≤ s.instruments.length
      · refine iff_of_false ?_ fun ⟨_, few⟩ => by omega
        have inside := Base.setTarget_inRange sound context
          (show 0 < s.instruments.length by omega)
        rw [List.getElem?_eq_getElem (show 0 < s.instruments.length by omega),
          List.getElem?_eq_getElem (show 1 < s.instruments.length by omega)]
        dsimp only
        split
        · exact nofun
        split
        · split
          · exact nofun
          · exact inside _ _ d
        · exact nofun
      · refine iff_of_true ?_ ⟨rfl, by omega⟩
        have absent : s.instruments[1]? = none := List.getElem?_eq_none (by omega)
        rw [absent]
        cases s.instruments[0]? <;> rfl

/-- Every instrument is ready once `State::ready` has been asked. -/
def allReady (view : View C) (source : Nat) (s : Spread C) : Bool :=
  (List.zipWith (fun instrument result => view.ready instrument source s.account result)
    s.instruments s.readyByInstrument).all id

/-- The message makes the strategy look at the markets: a ready one at an update of a book, one
that is not ready as soon as every instrument is. -/
def Looks (view : View C) (source : Nat) (s : Spread C) : Message C → Prop
  | .timer | .market _ (.topOfBook _) | .orderAck _ | .orderUpdate _ => False
  | .gateway _ | .market _ (.referenceData _) | .market _ (.marketStatus _) =>
      s.ready = false ∧ s.allReady view source = true
  | .market _ (.marketByPriceUpdate _) => s.ready = true

instance (view : View C) (source : Nat) (s : Spread C) :
    ∀ message, Decidable (s.Looks view source message)
  | .timer | .market _ (.topOfBook _) | .orderAck _ | .orderUpdate _ =>
      inferInstanceAs (Decidable False)
  | .gateway _ | .market _ (.referenceData _) | .market _ (.marketStatus _) =>
      inferInstanceAs (Decidable (s.ready = false ∧ s.allReady view source = true))
  | .market _ (.marketByPriceUpdate _) => inferInstanceAs (Decidable (s.ready = true))

private theorem notify_outOfRange {user : Side} {s : Spread C} (sound : s.toBase.Sound user)
    (context : Context C) (source : Nat) (d : Dispatcher) :
    (s.notify context source d).2 = some .outOfRange ↔
      (s.ready = false ∧ s.allReady context.toView source = true) ∧ s.instruments.length < 2 := by
  have kept := Base.sound_update sound context.toView source
  have same := (Base.sameOrders_update context.toView source s.toBase).instruments
  have callback : (s.toBase.update context.toView source).2 = some true ↔
      s.ready = false ∧ s.allReady context.toView source = true := by
    unfold Base.update
    show (if Utils.updated s.ready (s.allReady context.toView source) then
      (_, some (s.allReady context.toView source)) else (_, none) : Base × Option Bool).2 =
        some true ↔ _
    cases s.ready <;> cases s.allReady context.toView source <;> simp
  have flag : (s.toBase.update context.toView source).2 = some true →
      (s.toBase.update context.toView source).1.ready = true := by
    unfold Base.update
    dsimp only
    split
    · exact fun now => Option.some.inj now
    · intro now
      cases now
  rw [← callback]
  unfold notify
  generalize s.toBase.update context.toView source = result at kept same flag
  obtain ⟨b, callback⟩ := result
  have same : b.instruments = s.instruments := same
  cases callback with
  | none => simp
  | some ready =>
      cases ready with
      | false => simp
      | true =>
          have looked := update_outOfRange (s := s.withBase b) kept context d
          have ready : (s.withBase b).ready = true := flag rfl
          have instruments : (s.withBase b).instruments = s.instruments := same
          rw [ready, instruments] at looked
          simpa using looked

/-- A handler leaves a vector exactly when it looks at the markets of fewer than two instruments. -/
theorem handle_outOfRange {user : Side} {s : Spread C} (sound : s.toBase.Sound user)
    (context : Context C) (source : Nat) (message : Message C) (d : Dispatcher) :
    (s.handle context source message d).2 = some .outOfRange ↔
      s.Looks context.toView source message ∧ s.instruments.length < 2 := by
  cases message with
  | timer => exact iff_of_false nofun nofun
  | gateway message => exact notify_outOfRange sound context source d
  | orderAck ack => exact iff_of_false (Base.dispatch_inRange sound _ _) nofun
  | orderUpdate update => exact iff_of_false (Base.dispatch_inRange sound _ _) nofun
  | market key message =>
      cases message with
      | referenceData | marketStatus => exact notify_outOfRange sound context source d
      | topOfBook => exact iff_of_false nofun nofun
      | marketByPriceUpdate => exact update_outOfRange sound context d

end Spread

end RoqSamples.Algo
