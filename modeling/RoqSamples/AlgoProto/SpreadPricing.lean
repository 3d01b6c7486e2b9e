/- AlgoProto/SpreadPricing
   digest: The target of the first order manager trades at the limit of the user as long as the
     sign of the limit does not matter. -/
import RoqSamples.AlgoProto.IndexSafety
import Mathlib.Algebra.Order.Group.Unbundled.Abs
import Mathlib.Tactic.Linarith

set_option autoImplicit false
set_option relaxedAutoImplicit false

namespace RoqSamples.AlgoProto.SpreadPricing

open RoqSamples.Algo
open RoqSamples.AlgoProto.IndexSafety (Call Loaded Valid loaded_valid next next_performed
  next_valid perform)
open RoqSamples.Arith (Double)
open RoqSamples.Client (Side Utils)
open RoqSamples.Example3 (Layer)
open RoqSamples.Execution.Runs

/-- An order at the price trades at once with the best layer of the book. -/
def executable (side : Side) (best : Layer) (price : Double) : Bool :=
  match side with
  | .undefined => false
  | .buy => Double.le best.askPrice price
  | .sell => Double.le price best.bidPrice

/-- The user buys the spread at the limit or below it, and sells it at the limit or above it. -/
def satisfies (side : Side) (spread limit : Double) : Bool :=
  match side with
  | .undefined => false
  | .buy => Double.le spread limit
  | .sell => Double.le limit spread

/-- The spread does not lie between the limit and its negation. -/
def Clear (side : Side) (spread limit : ℚ) : Prop :=
  match side with
  | .undefined => False
  | .buy => spread ≤ -|limit| ∨ |limit| < spread
  | .sell => spread < -|limit| ∨ |limit| ≤ spread

/-- The spread that the user trades against two books. -/
def spreadOf (side : Side) (bid0 ask0 bid1 ask1 : ℚ) : ℚ :=
  match side with
  | .undefined => 0
  | .buy => ask0 - bid1
  | .sell => bid0 - ask1

/-- The price that `Spread::update` works out from the book of the second instrument. -/
private def limitOf (side : Side) (bid ask price : ℚ) : ℚ :=
  match side with
  | .undefined => 0
  | .buy => bid - price
  | .sell => ask - price

section Pricing

variable {C : Caches}

/-- The best layers of the two books have all their prices. -/
structure Shows (context : Context C) (s : Indexed C) (bid0 ask0 bid1 ask1 : ℚ) : Prop where
  first : ∃ best, s.extract context 0 = some (some best) ∧ best.bidPrice = .num bid0 ∧
    best.askPrice = .num ask0
  second : ∃ best, s.extract context 1 = some (some best) ∧ best.bidPrice = .num bid1 ∧
    best.askPrice = .num ask1

/-- The target that `Spread::update` leaves with the first order manager trades at once exactly
when the current spread satisfies the limit of the user. -/
def TradesAtLimit [Utils] (request : CreateOrder) (context : Context C) (s : Indexed C)
    (d : Dispatcher) : Prop :=
  ∃ manager best spread, (s.update context d).1.1.orderManagers[0]? = some manager ∧
    s.extract context 0 = some (some best) ∧ s.currentSpread context = some spread ∧
    (executable manager.side best manager.targetPrice = true ↔
      satisfies request.side spread request.price = true)

/-- What a strategy keeps of the order of the user. -/
private structure Keeps (request : CreateOrder) (instruments : List Instrument) (s : Indexed C) :
    Prop where
  valid : Valid request.side s
  side : s.side = request.side
  price : s.price = request.price
  instruments : s.instruments = instruments

/-- The sign of the limit does not matter to a spread outside of both. -/
private theorem le_neg_iff_le (x p : ℚ) : (x ≤ -p ↔ x ≤ p) ↔ x ≤ -|p| ∨ |p| < x := by
  rcases abs_cases p with ⟨same, sign⟩ | ⟨same, sign⟩
  · rw [same]
    constructor
    · intro agree
      by_cases low : x ≤ p
      · exact .inl (agree.mpr low)
      · exact .inr (not_le.mp low)
    · rintro (low | high)
      · exact iff_of_true low (by linarith)
      · exact iff_of_false (by linarith) (by linarith)
  · rw [same, neg_neg]
    constructor
    · intro agree
      by_cases low : x ≤ -p
      · exact .inl (agree.mp low)
      · exact .inr (not_le.mp low)
    · rintro (low | high)
      · exact iff_of_true (by linarith) low
      · exact iff_of_false (by linarith) (by linarith)

private theorem neg_le_iff_le (x p : ℚ) : (-p ≤ x ↔ p ≤ x) ↔ x < -|p| ∨ |p| ≤ x := by
  have mirrored := le_neg_iff_le (-x) p
  rw [neg_le_neg_iff, neg_le, neg_le_neg_iff, lt_neg] at mirrored
  rw [or_comm, ← mirrored]
  exact iff_comm

private theorem loaded_keeps {compare : Double → Double → Ordering}
    (signs : ComparesSigns compare) {root : Node} {name routingId : String}
    {request : CreateOrder} {s : Indexed C}
    (loaded : Loaded compare root name routingId request s) :
    Keeps request s.instruments s := by
  have valid := loaded_valid signs loaded
  obtain ⟨config, strategy, factory, _, _, _, created⟩ := loaded
  unfold Factory.create at created
  split at created
  · split at created
    · cases created
    · rename_i spread fresh
      obtain ⟨managers, _, rfl⟩ := Client.ok_of_map fresh
      cases created
      exact ⟨valid, rfl, rfl, rfl⟩
  · cases created

private theorem handle_keeps [Utils] {request : CreateOrder} {instruments : List Instrument}
    {s : Indexed C} (keeps : Keeps request instruments s) (call : Call C) :
    (perform s call).1.1.side = request.side ∧ (perform s call).1.1.price = request.price ∧
      (perform s call).1.1.instruments = instruments := by
  rw [perform, Indexed.handle_eq keeps.valid.parallel]
  refine Spread.handle_keeps (I := fun t _ => t.side = request.side ∧ t.price = request.price ∧
    t.instruments = instruments) ?_ (fun _ _ _ => id) ?_ ?_ call.message
    ⟨keeps.side, keeps.price, keeps.instruments⟩
  · rintro t _ ⟨side, price, same⟩
    have orders := Base.sameOrders_update call.context.toView call.source t.toBase
    exact ⟨side, price, orders.instruments.trans same⟩
  · rintro t d target ⟨side, price, same⟩ _
    have steady :=
      (Base.setTarget_targeted call.context 0 t.quantity target t.toBase d).steady
    exact ⟨side, price, steady.instruments.trans same⟩
  · rintro t _ orderId note _ ⟨side, price, same⟩
    have steady := Base.steady_dispatch orderId note t.toBase
    exact ⟨side, price, steady.instruments.trans same⟩

private theorem next_keeps [Utils] {request : CreateOrder} {instruments : List Instrument}
    {s t : Indexed C} {call : Call C} (keeps : Keeps request instruments s)
    (taken : next s call = some t) : Keeps request instruments t := by
  obtain ⟨side, price, same⟩ := handle_keeps keeps call
  have valid := next_valid keeps.valid taken
  rw [next_performed taken] at side price same
  exact ⟨valid, side, price, same⟩

/-- The first order manager has the target that was set, on the side it had before. -/
private theorem setTarget_target [Utils] {user : Side} {b : Base} (sound : b.Sound user)
    (inside : 0 < b.instruments.length) (context : Context C) (quantity price : Double)
    (d : Dispatcher) :
    ∃ before after, b.orderManagers[0]? = some before ∧
      (b.setTarget context 0 quantity price d).1.1.orderManagers[0]? = some after ∧
      after.side = before.side ∧ after.targetPrice = price := by
  have bound : 0 < b.orderManagers.length := by
    rw [sound.manages.length]
    exact inside
  have put (after : OrderManager) : (b.orderManagers.set 0 after)[0]? = some after :=
    List.getElem?_set_self bound
  have returns := Base.setTarget_inRange sound context inside quantity price d
  have targeted := Base.setTarget_targeted context 0 quantity price b d
  generalize b.setTarget context 0 quantity price d = result at returns targeted
  cases targeted with
  | absent => exact (returns rfl).elim
  | unchanged manager found same =>
      simp only [OrderManager.changes, Bool.or_eq_false_iff,
        Utils.updated_eq_false] at same
      exact ⟨manager, manager, found, found, rfl, same.2⟩
  | failed manager _ _ _ found => exact ⟨manager, _, found, put _, rfl, rfl⟩
  | placed manager _ _ found => exact ⟨manager, _, found, put _, rfl, rfl⟩
  | amended manager found => exact ⟨manager, _, found, put _, rfl, rfl⟩

private theorem limit_eq {s : Indexed C} (sided : s.side ≠ .undefined) {best : Layer}
    {bid ask price : ℚ} (bidPrice : best.bidPrice = .num bid) (askPrice : best.askPrice = .num ask)
    (limited : s.price = .num price) : s.limit best = .num (limitOf s.side bid ask price) := by
  unfold Spread.limit
  cases side : s.side with
  | undefined => exact (sided side).elim
  | buy =>
      rw [bidPrice, limited]
      rfl
  | sell =>
      rw [askPrice, limited]
      rfl

private theorem currentSpread_eq {s : Indexed C} (sided : s.side ≠ .undefined)
    {context : Context C} {best other : Layer}
    (depth0 : s.extract context 0 = some (some best))
    (depth1 : s.extract context 1 = some (some other)) {bid0 ask0 bid1 ask1 : ℚ}
    (bidPrice0 : best.bidPrice = .num bid0) (askPrice0 : best.askPrice = .num ask0)
    (bidPrice1 : other.bidPrice = .num bid1) (askPrice1 : other.askPrice = .num ask1) :
    s.currentSpread context = some (.num (spreadOf s.side bid0 ask0 bid1 ask1)) := by
  unfold Indexed.currentSpread
  rw [depth0, depth1]
  dsimp only
  cases side : s.side with
  | undefined => exact (sided side).elim
  | buy =>
      rw [askPrice0, bidPrice1]
      rfl
  | sell =>
      rw [bidPrice0, askPrice1]
      rfl

/-- A ready strategy that sees both books sets the target of its first order manager. -/
private theorem update_target [Utils] {request : CreateOrder} {instruments : List Instrument}
    {s : Indexed C} (keeps : Keeps request instruments s) (ready : s.ready = true)
    {instrument : Instrument} (first : instruments[0]? = some instrument)
    (long : Double.lt 0 instrument.weight = true) {context : Context C} {best other : Layer}
    (depth0 : s.extract context 0 = some (some best))
    (depth1 : s.extract context 1 = some (some other)) {target : ℚ}
    (priced : s.limit other = .num target) (d : Dispatcher) :
    ∃ manager, (s.update context d).1.1.orderManagers[0]? = some manager ∧
      manager.side = request.side ∧ manager.targetPrice = .num target := by
  have first : s.instruments[0]? = some instrument := keeps.instruments ▸ first
  have inside := (List.getElem?_eq_some_iff.mp first).1
  obtain ⟨before, after, found, left, same, aimed⟩ :=
    setTarget_target keeps.valid.sound inside context s.quantity (.num target) d
  have sided := (keeps.valid.sound.manages.each 0 _ _ first found).2.1 long
  refine ⟨after, ?_, same.trans sided, aimed⟩
  unfold Indexed.update
  rw [if_neg (by rw [ready]; exact nofun), depth0, depth1]
  dsimp only
  rw [priced, if_neg (by exact nofun)]
  exact left

/-- The two rules that price the first instrument agree as long as the sign of the limit does not
matter. -/
private theorem agree_iff {side : Side} (sided : side ≠ .undefined) {best : Layer}
    {bid0 ask0 : ℚ} (bidPrice : best.bidPrice = .num bid0) (askPrice : best.askPrice = .num ask0)
    (bid1 ask1 price : ℚ) :
    (executable side best (.num (limitOf side bid1 ask1 price)) = true ↔
      satisfies side (.num (spreadOf side bid0 ask0 bid1 ask1)) (.num price) = true) ↔
    Clear side (spreadOf side bid0 ask0 bid1 ask1) price := by
  cases side with
  | undefined => exact (sided rfl).elim
  | buy =>
      have moved : ask0 ≤ bid1 - price ↔ ask0 - bid1 ≤ -price := by
        constructor <;> intro low <;> linarith
      simp only [executable, satisfies, limitOf, spreadOf, askPrice, Double.le_num, moved]
      exact le_neg_iff_le (ask0 - bid1) price
  | sell =>
      have moved : ask1 - price ≤ bid0 ↔ -price ≤ bid0 - ask1 := by
        constructor <;> intro high <;> linarith
      simp only [executable, satisfies, limitOf, spreadOf, bidPrice, Double.le_num, moved]
      exact neg_le_iff_le (bid0 - ask1) price

/-- The strategy trades at the limit of the user exactly when the current spread does not lie
between the limit and its negation. -/
theorem tradesAtLimit_iff [Utils] {compare : Double → Double → Ordering}
    (signs : ComparesSigns compare)
    {root : Node} {name routingId : String} {request : CreateOrder} {s t : Indexed C}
    (loaded : Loaded compare root name routingId request s) (sided : request.side ≠ .undefined)
    {price : ℚ} (limited : request.price = .num price) {instrument : Instrument}
    (first : s.instruments[0]? = some instrument)
    (long : Double.lt 0 instrument.weight = true) {calls : List (Call C)}
    (reached : run next s calls = some t) (ready : t.ready = true) {context : Context C}
    {bid0 ask0 bid1 ask1 : ℚ} (shows : Shows context t bid0 ask0 bid1 ask1) (d : Dispatcher) :
    TradesAtLimit request context t d ↔
      Clear request.side (spreadOf request.side bid0 ask0 bid1 ask1) price := by
  have keeps : Keeps request s.instruments t :=
    run_invariant (fun _ _ _ keeps taken => next_keeps keeps taken) (loaded_keeps signs loaded)
      reached
  obtain ⟨best, depth0, bidPrice0, askPrice0⟩ := shows.first
  obtain ⟨other, depth1, bidPrice1, askPrice1⟩ := shows.second
  have defined : t.side ≠ .undefined := keeps.side ▸ sided
  have priced := limit_eq defined bidPrice1 askPrice1 (keeps.price.trans limited)
  have spread := currentSpread_eq defined depth0 depth1 bidPrice0 askPrice0 bidPrice1 askPrice1
  obtain ⟨manager, found, same, aimed⟩ :=
    update_target keeps ready first long depth0 depth1 priced d
  rw [keeps.side] at spread aimed
  rw [← agree_iff sided bidPrice0 askPrice0 bid1 ask1 price]
  constructor
  · rintro ⟨manager', best', spread', found', depth', same', trades⟩
    cases found.symm.trans found'
    cases depth0.symm.trans depth'
    cases spread.symm.trans same'
    rwa [same, aimed, limited] at trades
  · intro trades
    refine ⟨manager, best, _, found, depth0, spread, ?_⟩
    rwa [same, aimed, limited]

end Pricing

section Examples

open scoped RoqSamples.Client.Documented

open RoqSamples.AlgoProto.IndexSafety (compareNumbers_signs configToml opening spread
  spread_loaded trading)

/-- The strategy of config.toml after its markets have opened. -/
private def opened : Indexed plain :=
  { spread with readyByInstrument := [true, true], ready := true, callbacks := [true] }

private def layer (bid ask : ℚ) : Layer where
  bidPrice := .num bid
  bidQuantity := 1
  askPrice := .num ask
  askQuantity := 1

/-- The books of the perpetual and of the future. -/
private def books (bid0 ask0 bid1 ask1 : ℚ) : Context plain :=
  { (trading .timer).context with
    market := fun key =>
      { market :=
          { tickSize := 1
            tradingStatus := .«open»
            best := some (if key = perpetual then layer bid0 ask0 else layer bid1 ask1) }
        source := some 0 } }

private theorem books_shows (bid0 ask0 bid1 ask1 : ℚ) :
    Shows (books bid0 ask0 bid1 ask1) opened bid0 ask0 bid1 ask1 :=
  ⟨⟨layer bid0 ask0, rfl, rfl, rfl⟩, ⟨layer bid1 ask1, rfl, rfl, rfl⟩⟩

private theorem opened_reached : run next spread opening = some opened := rfl

/-- The perpetual is twenty below the future, and the user buys the spread up to ten. -/
theorem tradesAtLimit_sample :
    TradesAtLimit userOrder (books 79 80 100 101) opened {} :=
  (tradesAtLimit_iff compareNumbers_signs spread_loaded (by exact nofun) rfl rfl
    (by decide) opened_reached rfl (books_shows 79 80 100 101) {}).mpr
    (.inl (by decide +kernel))

/-- The perpetual is one above the future, and the user buys the spread up to ten, but the target
is ten below the future. -/
theorem limit_not_traded :
    Loaded compareNumbers configToml "spread_btc" "AQAAAA" userOrder spread ∧
      run next spread opening = some opened ∧ opened.ready = true ∧
      Shows (books 100 101 100 101) opened 100 101 100 101 ∧
      ¬ TradesAtLimit userOrder (books 100 101 100 101) opened {} := by
  refine ⟨spread_loaded, opened_reached, rfl, books_shows _ _ _ _, ?_⟩
  rintro ⟨manager, best, current, found, depth, same, trades⟩
  cases depth
  cases same
  have aimed : ((opened.update (books 100 101 100 101) {}).1.1.orderManagers[0]?).map
      (fun manager => (manager.side, manager.targetPrice)) = some (Side.buy, Double.num 90) := by
    decide +kernel
  rw [found, Option.map_some, Option.some.injEq, Prod.mk.injEq] at aimed
  rw [aimed.1, aimed.2] at trades
  exact absurd (trades.mpr (by decide +kernel)) (by decide +kernel)

end Examples

end RoqSamples.AlgoProto.SpreadPricing
