/- Example2/AverageBounds
   digest: The mid and average prices of example-2 are numbers between the prices seen, as long as
     the second level exists whenever they are computed and rounding leaves the sums alone. -/
import RoqSamples.Arith.Span
import RoqSamples.Example2.Instrument
import RoqSamples.Example3.AverageBounds

set_option autoImplicit false
set_option relaxedAutoImplicit false

namespace RoqSamples.Example2.AverageBounds

open RoqSamples.Arith (Double Rounding binary64)
open RoqSamples.Arith.Span
open RoqSamples.Client (Utils)
open RoqSamples.Example2.Instrument (sums weightedMid)
open RoqSamples.Example3 (Layer)
open RoqSamples.Example3.AverageBounds (numberOf numberOf_eq_some)
open RoqSamples.Execution.Runs

section Assumptions

variable (rounding : Rounding)

/-- A level of one side: its price is a double, and one that does not exist has no price and no
quantity. -/
def Level (price quantity : Double) : Prop :=
  price = .nan ∧ quantity = 0 ∨
    ∃ p q, price = .num p ∧ quantity = .num q ∧ 0 ≤ q ∧ rounding.round p = .num p

/-- Levels on each side, from the best one on. -/
structure WellFormed (depth : Depth) : Prop where
  bid : ∀ layer ∈ depth.layers, Level rounding layer.bidPrice layer.bidQuantity
  ask : ∀ layer ∈ depth.layers, Level rounding layer.askPrice layer.askQuantity
  bid_falls : ∀ x y, depth.first.bidPrice = .num x → depth.second.bidPrice = .num y → y ≤ x
  ask_rises : ∀ x y, depth.first.askPrice = .num x → depth.second.askPrice = .num y → x ≤ y

/-- What `cache::MarketByPrice::extract` promises. -/
def Extracts {Book Update : Type} (mbp : MarketByPrice Book Update) : Prop :=
  ∀ book, WellFormed rounding (mbp.extract book).1

/-- The double next to the exact average of the prices of both sides, weighted with their
quantities. -/
def nearestMid (depth : Depth) : Double := rounding (weightedMid .exact depth)

/-- The products and sums of the prices and quantities of a level. -/
def terms (layer : Layer) : List Double :=
  [layer.bidPrice * layer.bidQuantity, layer.askPrice * layer.askQuantity,
    layer.bidPrice * layer.bidQuantity + layer.askPrice * layer.askQuantity,
    layer.bidQuantity + layer.askQuantity]

/-- What is added up for a depth, in exact arithmetic. -/
def parts (depth : Depth) : List Double :=
  terms depth.first ++ terms depth.second ++ [(sums .exact depth).1, (sums .exact depth).2]

/-- What the prices and quantities of a depth need for bounds: both sides have a second level, the
best spread is in range, the products and sums are doubles, and an average of the double next to the
exact mid price with itself gives it back. -/
structure Precise (alpha : Double) (depth : Depth) : Prop where
  bid : depth.second.bidPrice ≠ .nan
  ask : depth.second.askPrice ≠ .nan
  spread : rounding (depth.first.askPrice - depth.first.bidPrice) ≠ .nan
  doubles : ∀ x ∈ parts depth, rounding x = x
  average : rounding.blend alpha (nearestMid rounding depth) (nearestMid rounding depth) =
    nearestMid rounding depth

instance (alpha : Double) (depth : Depth) : Decidable (Precise rounding alpha depth) :=
  decidable_of_iff
    (depth.second.bidPrice ≠ .nan ∧ depth.second.askPrice ≠ .nan ∧
      rounding (depth.first.askPrice - depth.first.bidPrice) ≠ .nan ∧
      (∀ x ∈ parts depth, rounding x = x) ∧
      rounding.blend alpha (nearestMid rounding depth) (nearestMid rounding depth) =
        nearestMid rounding depth)
    ⟨fun ⟨bid, ask, spread, doubles, average⟩ => ⟨bid, ask, spread, doubles, average⟩,
      fun ⟨bid, ask, spread, doubles, average⟩ => ⟨bid, ask, spread, doubles, average⟩⟩

end Assumptions

/-- The prices of the levels that exist. -/
def bids (depth : Depth) : List ℚ := depth.layers.filterMap fun layer => numberOf layer.bidPrice

def asks (depth : Depth) : List ℚ := depth.layers.filterMap fun layer => numberOf layer.askPrice

variable {Book Update : Type} (rounding : Rounding) (mbp : MarketByPrice Book Update)

/-- The depth and the size that an update of the book leads to. -/
def extracted (i : Instrument Book) (update : Update) : Depth × Nat :=
  mbp.extract (mbp.apply i.marketByPrice update)

/-- `update_model` runs, with both best quantities non-zero and a best spread that is positive, or
out of range. -/
def Computes [Utils] (i : Instrument Book) : Message Update → Prop
  | .marketByPriceUpdate _ _ update =>
      (0 < (extracted mbp i update).2 ∧ i.ready = true) ∧
        (Utils.isZero (extracted mbp i update).1.first.bidQuantity = false ∧
          Utils.isZero (extracted mbp i update).1.first.askQuantity = false) ∧
        Utils.isLessOrEqual (rounding ((extracted mbp i update).1.first.askPrice -
          (extracted mbp i update).1.first.bidPrice)) 0 = false
  | _ => False

instance [Utils] (i : Instrument Book) : ∀ message, Decidable (Computes rounding mbp i message)
  | .marketByPriceUpdate _ _ _ => inferInstanceAs (Decidable (_ ∧ _))
  | .connected | .disconnected | .downloadBegin _ | .downloadEnd _ _ | .gatewayStatus _ _ _
  | .referenceData _ _ _ _ _ | .marketStatus _ _ _ => inferInstanceAs (Decidable False)

/-- The instrument, and the mid prices that it has computed since the last reset. -/
structure Session (Book : Type) where
  instrument : Instrument Book
  mids : List Double := []

/-- A message is followed by a reset. -/
def Resets (i : Instrument Book) (message : Message Update) : Bool :=
  match message with
  | .disconnected => i.connected
  | _ => false

namespace Session

def start (exchange symbol : String) (alpha : Double) : Session Book where
  instrument := Instrument.new mbp exchange symbol alpha

variable [Utils]

def next (s : Session Book) (message : Message Update) : Option (Session Book) :=
  match s.instrument.handle rounding mbp message with
  | .error _ => none
  | .ok after =>
      some {
        instrument := after
        mids :=
          if Resets s.instrument message then []
          else if Computes rounding mbp s.instrument message then s.mids ++ [after.midPrice]
          else s.mids }

/-- The mid price is between the prices of the book and the average between the mid prices since the
reset, which initialized it once. -/
structure Averaged (s t : Session Book) : Prop where
  mid : ∃ low high mid, (bids t.instrument.depth).min? = some low ∧
    (asks t.instrument.depth).max? = some high ∧ t.instrument.midPrice = .num mid ∧
    low ≤ mid ∧ mid ≤ high
  avg : ∃ low high avg, (t.mids.filterMap numberOf).min? = some low ∧
    (t.mids.filterMap numberOf).max? = some high ∧ t.instrument.avgPrice = .num avg ∧
    low ≤ avg ∧ avg ≤ high
  once : s.instrument.avgPrice = .nan ↔ s.mids = []

def Averages (s : Session Book) (message : Message Update) : Prop :=
  Computes rounding mbp s.instrument message →
    ∃ t, next rounding mbp s message = some t ∧ Averaged s t

/-- Both sides have a second level if prices are computed. -/
def SecondLevel (s : Session Book) : Message Update → Prop
  | .marketByPriceUpdate exchange symbol update =>
      Computes rounding mbp s.instrument (.marketByPriceUpdate exchange symbol update) →
        (extracted mbp s.instrument update).1.second.bidPrice ≠ .nan ∧
          (extracted mbp s.instrument update).1.second.askPrice ≠ .nan
  | _ => True

/-- The depth is precise if prices are computed. -/
def PreciseDepth (s : Session Book) : Message Update → Prop
  | .marketByPriceUpdate exchange symbol update =>
      Computes rounding mbp s.instrument (.marketByPriceUpdate exchange symbol update) →
        Precise rounding s.instrument.alpha (extracted mbp s.instrument update).1
  | _ => True

instance (s : Session Book) : ∀ message, Decidable (PreciseDepth rounding mbp s message)
  | .marketByPriceUpdate _ _ _ => inferInstanceAs (Decidable (_ → _))
  | .connected | .disconnected | .downloadBegin _ | .downloadEnd _ _ | .gatewayStatus _ _ _
  | .referenceData _ _ _ _ _ | .marketStatus _ _ _ => inferInstanceAs (Decidable True)

end Session

section Mid

variable {rounding : Rounding}

private theorem Level.priced {price quantity : Double} (level : Level rounding price quantity)
    (exists_price : price ≠ .nan) :
    ∃ p q, price = .num p ∧ quantity = .num q ∧ 0 ≤ q ∧ rounding.round p = .num p := by
  rcases level with ⟨missing, _⟩ | number
  · exact (exists_price missing).elim
  · exact number

/-- A level with a quantity exists. -/
private theorem Level.weighs [Utils] {price quantity : Double}
    (level : Level rounding price quantity) (weight : Utils.isZero quantity = false) :
    ∃ p q, price = .num p ∧ quantity = .num q ∧ 0 < q := by
  have exists_weight : quantity ≠ 0 := fun zero =>
    Bool.false_ne_true (weight.symm.trans ((Utils.isZero_iff _).mpr zero))
  rcases level with ⟨_, rfl⟩ | ⟨p, q, at_price, rfl, nonneg, _⟩
  · exact (exists_weight rfl).elim
  · refine ⟨p, q, at_price, rfl, nonneg.lt_of_ne ?_⟩
    rintro rfl
    exact exists_weight rfl

/-- A missing price is lost in the sums. -/
private theorem weightedMid_missing {depth : Depth}
    (missing : depth.second.bidPrice = .nan ∨ depth.second.askPrice = .nan) :
    weightedMid rounding depth = .nan := by
  have level : rounding (rounding (depth.second.bidPrice * depth.second.bidQuantity) +
      rounding (depth.second.askPrice * depth.second.askQuantity)) = Double.nan := by
    rcases missing with bid | ask
    · rw [bid, Double.nan_mul, Rounding.apply_nan, Double.nan_add, Rounding.apply_nan]
    · rw [ask, Double.nan_mul, Rounding.apply_nan, Double.add_nan, Rounding.apply_nan]
  have sum : (sums rounding depth).1 = .nan := by
    simp only [sums, Depth.layers, List.foldl_cons, List.foldl_nil]
    rw [level, Double.add_nan, Rounding.apply_nan]
  rw [weightedMid, sum]
  rfl

/-- The sums of two levels on each side, in exact arithmetic. -/
private theorem sums_exact {depth : Depth} {b₀ u₀ a₀ v₀ b₁ u₁ a₁ v₁ : ℚ}
    (first : depth.first = ⟨.num b₀, .num u₀, .num a₀, .num v₀⟩)
    (second : depth.second = ⟨.num b₁, .num u₁, .num a₁, .num v₁⟩) :
    sums .exact depth =
      (.num (u₀ * b₀ + v₀ * a₀ + u₁ * b₁ + v₁ * a₁), .num (u₀ + v₀ + u₁ + v₁)) := by
  simp only [sums, Depth.layers, first, second, List.foldl_cons, List.foldl_nil,
    Rounding.exact_apply, Double.zero_eq, Double.num_mul_num, Double.num_add_num]
  congr 2 <;> ring

private theorem zero_add_eq (x : Double) : 0 + x = x := by
  cases x with
  | nan => rfl
  | num x => rw [Double.zero_eq, Double.num_add_num, zero_add]

/-- What is added up is not rounded when it consists of doubles. -/
private theorem Precise.sums_eq {alpha : Double} {depth : Depth}
    (precise : Precise rounding alpha depth) : sums rounding depth = sums .exact depth := by
  have first : ∀ x ∈ terms depth.first, rounding x = x := fun x mem =>
    precise.doubles x (List.mem_append_left _ (List.mem_append_left _ mem))
  have second : ∀ x ∈ terms depth.second, rounding x = x := fun x mem =>
    precise.doubles x (List.mem_append_left _ (List.mem_append_right _ mem))
  have total : ∀ x ∈ [(sums .exact depth).1, (sums .exact depth).2], rounding x = x := fun x mem =>
    precise.doubles x (List.mem_append_right _ mem)
  simp only [terms, sums, Depth.layers, List.foldl_cons, List.foldl_nil, Rounding.exact_apply,
    zero_add_eq, List.forall_mem_cons] at first second total ⊢
  simp only [first, second, total]

/-- Exact sums leave the quotient as the only operation that rounds. -/
private theorem weightedMid_of_sums {depth : Depth}
    (exact_sums : sums rounding depth = sums .exact depth) :
    weightedMid rounding depth = nearestMid rounding depth := by
  simp only [weightedMid, nearestMid, exact_sums, Rounding.exact_apply]

/-- Two levels on each side, in their order, with weights whose sums come out exact. -/
private theorem weightedMid_between {depth : Depth} {b₀ u₀ a₀ v₀ b₁ u₁ a₁ v₁ : ℚ}
    (first : depth.first = ⟨.num b₀, .num u₀, .num a₀, .num v₀⟩)
    (second : depth.second = ⟨.num b₁, .num u₁, .num a₁, .num v₁⟩)
    (exact_sums : sums rounding depth = sums .exact depth) (best : b₀ < a₀)
    (falls : b₁ ≤ b₀) (rises : a₀ ≤ a₁) (pos : 0 < u₀) (nonneg₀ : 0 ≤ v₀) (nonneg₁ : 0 ≤ u₁)
    (nonneg₂ : 0 ≤ v₁) (low : rounding.round b₁ = .num b₁) (high : rounding.round a₁ = .num a₁) :
    ∃ low high mid, (bids depth).min? = some low ∧ (asks depth).max? = some high ∧
      weightedMid rounding depth = .num mid ∧ low ≤ mid ∧ mid ≤ high := by
  have convex : Convex ℚ (Set.Icc (min b₀ b₁) (max a₀ a₁)) := convex_Icc _ _
  have lowest : min b₀ b₁ = b₁ := min_eq_right falls
  have highest : max a₀ a₁ = a₁ := max_eq_right rises
  rw [lowest, highest] at convex
  have point (x : ℚ) (above : b₁ ≤ x) (below : x ≤ a₁) : x ∈ Set.Icc b₁ a₁ := ⟨above, below⟩
  have start : u₀ * b₀ / u₀ ∈ Set.Icc b₁ a₁ := by
    rw [mul_div_cancel_left₀ b₀ pos.ne']
    exact point b₀ falls (by linarith)
  have more := weighted_step convex pos start nonneg₀ (point a₀ (by linarith) rises)
  have third := weighted_step convex (by linarith) more nonneg₁ (point b₁ le_rfl (by linarith))
  have all := weighted_step convex (by linarith) third nonneg₂ (point a₁ (by linarith) le_rfl)
  obtain ⟨mid, rounded, above, below⟩ := Rounding.mem_of_representable low high all.1 all.2
  refine ⟨b₁, a₁, mid, ?_, ?_, ?_, above, below⟩
  · rw [← lowest]
    simp only [bids, Depth.layers, first, second]
    rfl
  · rw [← highest]
    simp only [asks, Depth.layers, first, second]
    rfl
  · have total : u₀ + v₀ + u₁ + v₁ ≠ 0 := by linarith
    have quotient : Double.num (u₀ * b₀ + v₀ * a₀ + u₁ * b₁ + v₁ * a₁) /
        Double.num (u₀ + v₀ + u₁ + v₁) =
        .num ((u₀ * b₀ + v₀ * a₀ + u₁ * b₁ + v₁ * a₁) / (u₀ + v₀ + u₁ + v₁)) := if_neg total
    rw [weightedMid, exact_sums, sums_exact first second, quotient, Rounding.apply_num, rounded]

end Mid

section Steps

variable {rounding : Rounding} {mbp}

/-- Both sides of the best level exist, in their order, whenever prices are computed. -/
private theorem best_level [Utils] (extracts : Extracts rounding mbp) {i : Instrument Book}
    {update : Update} (weights : Utils.isZero (extracted mbp i update).1.first.bidQuantity = false ∧
      Utils.isZero (extracted mbp i update).1.first.askQuantity = false) :
    ∃ b u a v, (extracted mbp i update).1.first = ⟨.num b, .num u, .num a, .num v⟩ ∧
      0 < u ∧ 0 < v := by
  have mem : (extracted mbp i update).1.first ∈ (extracted mbp i update).1.layers :=
    List.mem_cons_self
  obtain ⟨b, u, bid, bid_weight, pos_bid⟩ := ((extracts _).bid _ mem).weighs weights.1
  obtain ⟨a, v, ask, ask_weight, pos_ask⟩ := ((extracts _).ask _ mem).weighs weights.2
  refine ⟨b, u, a, v, ?_, pos_bid, pos_ask⟩
  rw [← bid, ← bid_weight, ← ask, ← ask_weight]

/-- The average that an update leaves. -/
private def blended (rounding : Rounding) (i : Instrument Book) (midPrice : Double) : Double :=
  if i.avgPrice.isNaN then midPrice else rounding.blend i.alpha midPrice i.avgPrice

private theorem handle_computes [Utils] {i : Instrument Book} {exchange symbol : String}
    {update : Update}
    (computes : Computes rounding mbp i (.marketByPriceUpdate exchange symbol update)) :
    i.handle rounding mbp (.marketByPriceUpdate exchange symbol update) = .ok
      { i with
        marketByPrice := mbp.apply i.marketByPrice update
        depth := (extracted mbp i update).1
        midPrice := weightedMid rounding (extracted mbp i update).1
        avgPrice := blended rounding i (weightedMid rounding (extracted mbp i update).1) } := by
  obtain ⟨runs, ⟨bid, ask⟩, apart⟩ := computes
  unfold extracted at runs bid ask apart
  unfold Instrument.handle Instrument.onMarketByPriceUpdate Instrument.updateModel
  dsimp only
  rw [if_pos runs, bid, ask, apart]
  rfl

/-- An update that computes no prices leaves the average alone. -/
private theorem updateModel_idle [Utils] {i after : Instrument Book}
    {exchange symbol : String} {update : Update}
    (idle : ¬ Computes rounding mbp i (.marketByPriceUpdate exchange symbol update))
    (handled : i.handle rounding mbp (.marketByPriceUpdate exchange symbol update) = .ok after) :
    after.alpha = i.alpha ∧ after.avgPrice = i.avgPrice := by
  unfold Instrument.handle Instrument.onMarketByPriceUpdate Instrument.updateModel at handled
  dsimp only at handled
  split at handled
  · rename_i runs
    split at handled
    · cases handled
      exact ⟨rfl, rfl⟩
    rename_i weights
    split at handled
    · cases handled
    rename_i apart
    simp only [Bool.or_eq_true, not_or, Bool.not_eq_true] at weights
    exact (idle ⟨runs, weights, eq_false_of_ne_true apart⟩).elim
  · cases handled
    exact ⟨rfl, rfl⟩

/-- Only an update that computes prices and a reset write the average. -/
private theorem handle_idle [Utils] {i after : Instrument Book} {message : Message Update}
    (idle : ¬ Computes rounding mbp i message)
    (handled : i.handle rounding mbp message = .ok after) :
    after.alpha = i.alpha ∧
      after.avgPrice = if Resets i message then .nan else i.avgPrice := by
  cases message with
  | connected =>
      cases handled
      unfold Instrument.onConnected
      split <;> exact ⟨rfl, rfl⟩
  | disconnected =>
      cases handled
      unfold Resets Instrument.onDisconnected
      cases i.connected with
      | false => exact ⟨rfl, rfl⟩
      | true => exact ⟨rfl, rfl⟩
  | downloadBegin account =>
      cases handled
      unfold Instrument.onDownloadBegin
      split <;> exact ⟨rfl, rfl⟩
  | downloadEnd account _ =>
      cases handled
      unfold Instrument.onDownloadEnd
      split <;> exact ⟨rfl, rfl⟩
  | gatewayStatus account _ _ =>
      cases handled
      unfold Instrument.onGatewayStatus
      split <;> exact ⟨rfl, rfl⟩
  | referenceData | marketStatus =>
      cases handled
      exact ⟨rfl, rfl⟩
  | marketByPriceUpdate exchange symbol update => exact updateModel_idle idle handled

/-- A price that is the average of itself. -/
private def Steady (rounding : Rounding) (α x : ℚ) : Prop :=
  rounding.blend (.num α) (.num x) (.num x) = .num x

/-- What an instrument with a fixed weight of the average keeps. -/
private structure Averaging (rounding : Rounding) (α : ℚ) (s : Session Book) : Prop where
  alpha : s.instrument.alpha = .num α
  average : ∃ mids : List ℚ, s.mids = mids.map .num ∧ (∀ mid ∈ mids, Steady rounding α mid) ∧
    (mids = [] ∧ s.instrument.avgPrice = .nan ∨
      ∃ avg ∈ span mids, s.instrument.avgPrice = .num avg)

/-- The average of a new mid price and a price between the earlier ones is between all of them. -/
private theorem blend_mem_span {α : ℚ} (nonneg : 0 ≤ α) (le_one : α ≤ 1) {mids : List ℚ}
    {mid avg : ℚ} (steady : ∀ x ∈ mids ++ [mid], Steady rounding α x) (inside : avg ∈ span mids) :
    ∃ z ∈ span (mids ++ [mid]), rounding.blend (.num α) (.num mid) (.num avg) = .num z := by
  have last : mid ∈ mids ++ [mid] := List.mem_append_right _ (List.mem_singleton_self mid)
  obtain ⟨⟨p, low, above⟩, ⟨q, high, below⟩⟩ := inside
  have least : min p mid ∈ mids ++ [mid] := by
    rcases min_choice p mid with same | same <;> rw [same]
    · exact List.mem_append_left _ low
    · exact last
  have most : max q mid ∈ mids ++ [mid] := by
    rcases max_choice q mid with same | same <;> rw [same]
    · exact List.mem_append_left _ high
    · exact last
  obtain ⟨z, average, over_least, under_most⟩ := Rounding.blend_between nonneg le_one
    (steady _ least) (steady _ most) ⟨min_le_right p mid, le_max_right q mid⟩
    ⟨(min_le_left p mid).trans above, below.trans (le_max_left q mid)⟩
  exact ⟨z, ⟨⟨_, least, over_least⟩, ⟨_, most, under_most⟩⟩, average⟩

private theorem blended_mem {α : ℚ} (nonneg : 0 ≤ α) (le_one : α ≤ 1) {s : Session Book}
    (averaging : Averaging rounding α s) {mid : ℚ} (steady : Steady rounding α mid) :
    ∃ mids : List ℚ, s.mids = mids.map .num ∧ (∀ x ∈ mids ++ [mid], Steady rounding α x) ∧
      ∃ avg ∈ span (mids ++ [mid]), blended rounding s.instrument (.num mid) = .num avg := by
  obtain ⟨mids, same, all, average⟩ := averaging.average
  have more : ∀ x ∈ mids ++ [mid], Steady rounding α x := by
    intro x mem
    rcases List.mem_append.mp mem with earlier | last
    · exact all x earlier
    · rw [List.mem_singleton.mp last]
      exact steady
  rcases average with ⟨rfl, unset⟩ | ⟨avg, inside, at_avg⟩
  · refine ⟨[], same, more, mid, mem_span_self (by simp), ?_⟩
    unfold blended
    rw [unset]
    rfl
  · obtain ⟨z, member, average⟩ := blend_mem_span nonneg le_one more inside
    refine ⟨mids, same, more, z, member, ?_⟩
    unfold blended
    rw [at_avg, averaging.alpha]
    exact average

private theorem filterMap_num (mids : List ℚ) :
    (mids.map Double.num).filterMap numberOf = mids := by
  rw [List.filterMap_map]
  exact List.filterMap_some

/-- The mid price of a precise depth. -/
private theorem mid_between [Utils] (extracts : Extracts rounding mbp) {i : Instrument Book}
    {exchange symbol : String} {update : Update}
    (computes : Computes rounding mbp i (.marketByPriceUpdate exchange symbol update))
    (precise : Precise rounding i.alpha (extracted mbp i update).1) :
    ∃ low high mid, (bids (extracted mbp i update).1).min? = some low ∧
      (asks (extracted mbp i update).1).max? = some high ∧
      weightedMid rounding (extracted mbp i update).1 = .num mid ∧ low ≤ mid ∧ mid ≤ high := by
  obtain ⟨_, weights, apart⟩ := computes
  obtain ⟨b₀, u₀, a₀, v₀, first, pos_bid, pos_ask⟩ := best_level extracts weights
  have mem : (extracted mbp i update).1.second ∈ (extracted mbp i update).1.layers :=
    List.mem_cons_of_mem _ List.mem_cons_self
  obtain ⟨b₁, u₁, bid_price, bid_weight, bid_nonneg, low⟩ :=
    ((extracts _).bid _ mem).priced precise.bid
  obtain ⟨a₁, v₁, ask_price, ask_weight, ask_nonneg, high⟩ :=
    ((extracts _).ask _ mem).priced precise.ask
  have second : (extracted mbp i update).1.second = ⟨.num b₁, .num u₁, .num a₁, .num v₁⟩ := by
    rw [← bid_price, ← bid_weight, ← ask_price, ← ask_weight]
  have best : b₀ < a₀ := by
    obtain ⟨spread, rounded⟩ := Double.exists_num precise.spread
    rw [rounded] at apart
    rw [first, Double.num_sub_num, Rounding.apply_num] at rounded
    have positive : ¬ spread ≤ 0 := fun low =>
      Bool.false_ne_true (apart.symm.trans ((Utils.isLessOrEqual_num _ _).mpr low))
    by_contra crossed
    exact positive (Rounding.mono (sub_nonpos.mpr (not_lt.mp crossed)) rounded rounding.zero)
  have falls : b₁ ≤ b₀ := (extracts _).bid_falls _ _ (congrArg Layer.bidPrice first) bid_price
  have rises : a₀ ≤ a₁ := (extracts _).ask_rises _ _ (congrArg Layer.askPrice first) ask_price
  exact weightedMid_between first second precise.sums_eq best falls rises pos_bid pos_ask.le
    bid_nonneg ask_nonneg low high

namespace Session

/-- The session after an update that computes prices. -/
private theorem next_computes [Utils] {s : Session Book} {exchange symbol : String}
    {update : Update} (computes :
      Computes rounding mbp s.instrument (.marketByPriceUpdate exchange symbol update)) :
    ∃ t, next rounding mbp s (.marketByPriceUpdate exchange symbol update) = some t ∧
      t.instrument.alpha = s.instrument.alpha ∧
      t.instrument.depth = (extracted mbp s.instrument update).1 ∧
      t.instrument.midPrice = weightedMid rounding (extracted mbp s.instrument update).1 ∧
      t.instrument.avgPrice = blended rounding s.instrument
        (weightedMid rounding (extracted mbp s.instrument update).1) ∧
      t.mids = s.mids ++ [weightedMid rounding (extracted mbp s.instrument update).1] := by
  have taken : next rounding mbp s (.marketByPriceUpdate exchange symbol update) = some
      { instrument :=
          { s.instrument with
            marketByPrice := mbp.apply s.instrument.marketByPrice update
            depth := (extracted mbp s.instrument update).1
            midPrice := weightedMid rounding (extracted mbp s.instrument update).1
            avgPrice := blended rounding s.instrument
              (weightedMid rounding (extracted mbp s.instrument update).1) }
        mids := s.mids ++ [weightedMid rounding (extracted mbp s.instrument update).1] } := by
    unfold next
    rw [handle_computes computes]
    simp only [Resets, Bool.false_eq_true, if_false, if_pos computes]
  exact ⟨_, taken, rfl, rfl, rfl, rfl, rfl⟩

private theorem averaged_step [Utils] {α : ℚ} (extracts : Extracts rounding mbp) (nonneg : 0 ≤ α)
    (le_one : α ≤ 1) {s : Session Book} (averaging : Averaging rounding α s)
    {exchange symbol : String} {update : Update}
    (computes : Computes rounding mbp s.instrument (.marketByPriceUpdate exchange symbol update))
    (precise : Precise rounding s.instrument.alpha (extracted mbp s.instrument update).1) :
    ∃ t, next rounding mbp s (.marketByPriceUpdate exchange symbol update) = some t ∧
      Averaged s t ∧ Averaging rounding α t := by
  obtain ⟨low, high, mid, smallest, largest, at_mid, above, below⟩ :=
    mid_between extracts computes precise
  obtain ⟨t, taken, alpha, depth, midPrice, avgPrice, mids⟩ := next_computes computes
  have steady : Steady rounding α mid := by
    have average := precise.average
    rwa [← weightedMid_of_sums precise.sums_eq, at_mid, averaging.alpha] at average
  obtain ⟨earlier, same, each, avg, inside, at_avg⟩ := blended_mem nonneg le_one averaging steady
  rw [at_mid] at midPrice avgPrice mids
  rw [at_avg] at avgPrice
  have all : t.mids = (earlier ++ [mid]).map .num := by
    rw [mids, same, List.map_append]
    rfl
  obtain ⟨least, most, at_least, at_most, over_least, under_most⟩ := exists_bounds inside
  refine ⟨t, taken, ⟨?_, ?_, ?_⟩, ⟨alpha.trans averaging.alpha, earlier ++ [mid], all, each,
    .inr ⟨avg, inside, avgPrice⟩⟩⟩
  · rw [depth]
    exact ⟨low, high, mid, smallest, largest, midPrice, above, below⟩
  · rw [all, filterMap_num]
    exact ⟨least, most, avg, at_least, at_most, avgPrice, over_least, under_most⟩
  · obtain ⟨before, listed, _, ⟨rfl, unset⟩ | ⟨old, member, set⟩⟩ := averaging.average
    · exact iff_of_true unset listed
    · obtain ⟨p, seen, _⟩ := member.1
      refine iff_of_false (by simp [set]) fun none => ?_
      rw [listed, List.map_eq_nil_iff] at none
      simp [none] at seen

private theorem averaging_step [Utils] {α : ℚ} (extracts : Extracts rounding mbp) (nonneg : 0 ≤ α)
    (le_one : α ≤ 1) {s t : Session Book} {message : Message Update}
    (averaging : Averaging rounding α s) (precise : PreciseDepth rounding mbp s message)
    (taken : next rounding mbp s message = some t) : Averaging rounding α t := by
  by_cases computes : Computes rounding mbp s.instrument message
  · cases message with
    | marketByPriceUpdate exchange symbol update =>
        obtain ⟨t', reached, _, after⟩ :=
          averaged_step extracts nonneg le_one averaging computes (precise computes)
        cases taken.symm.trans reached
        exact after
    | _ => exact computes.elim
  · unfold next at taken
    split at taken
    · cases taken
    · rename_i after handled
      obtain ⟨alpha, average⟩ := handle_idle computes handled
      cases taken
      refine ⟨alpha.trans averaging.alpha, ?_⟩
      dsimp only
      rw [if_neg computes, average]
      cases Resets s.instrument message with
      | true => exact ⟨[], rfl, (fun _ mem => nomatch mem), .inl ⟨rfl, rfl⟩⟩
      | false => exact averaging.average

private theorem averages_of_precise [Utils] {α : ℚ} (extracts : Extracts rounding mbp)
    (nonneg : 0 ≤ α) (le_one : α ≤ 1) {s : Session Book} (averaging : Averaging rounding α s)
    {message : Message Update} (precise : PreciseDepth rounding mbp s message) :
    Averages rounding mbp s message := by
  intro computes
  cases message with
  | marketByPriceUpdate exchange symbol update =>
      obtain ⟨t, taken, averaged, _⟩ :=
        averaged_step extracts nonneg le_one averaging computes (precise computes)
      exact ⟨t, taken, averaged⟩
  | _ => exact computes.elim

/-- A mid price that is a number needs the second level. -/
private theorem secondLevel_of_averages [Utils] {s : Session Book} {message : Message Update}
    (averages : Averages rounding mbp s message) : SecondLevel rounding mbp s message := by
  cases message with
  | marketByPriceUpdate exchange symbol update =>
      intro computes
      obtain ⟨t, taken, averaged⟩ := averages computes
      obtain ⟨t', reached, _, _, midPrice, _, _⟩ := next_computes computes
      cases taken.symm.trans reached
      obtain ⟨_, _, mid, _, _, at_mid, _, _⟩ := averaged.mid
      by_contra broken
      have missing : weightedMid rounding (extracted mbp s.instrument update).1 = .nan :=
        weightedMid_missing ((Classical.not_and_iff_not_or_not.mp broken).imp
          not_not.mp not_not.mp)
      rw [missing, at_mid] at midPrice
      cases midPrice
  | _ => trivial

private theorem start_averaging (exchange symbol : String) (α : ℚ) :
    Averaging rounding α (start mbp exchange symbol (.num α)) :=
  ⟨rfl, [], rfl, (fun _ mem => nomatch mem), .inl ⟨rfl, rfl⟩⟩

/-- In every run that computes its prices from precise depths they are numbers within their bounds,
and in every run where they are, the second level has existed whenever they were computed. -/
theorem averages_of_precise_depths [Utils] (extracts : Extracts rounding mbp) {α : ℚ}
    (nonneg : 0 ≤ α) (le_one : α ≤ 1) (exchange symbol : String)
    (messages : List (Message Update)) :
    (AllSteps (next rounding mbp) (PreciseDepth rounding mbp)
        (start mbp exchange symbol (.num α)) messages →
      AllSteps (next rounding mbp) (Averages rounding mbp)
        (start mbp exchange symbol (.num α)) messages) ∧
    (AllSteps (next rounding mbp) (Averages rounding mbp)
        (start mbp exchange symbol (.num α)) messages →
      AllSteps (next rounding mbp) (SecondLevel rounding mbp)
        (start mbp exchange symbol (.num α)) messages) := by
  refine ⟨fun precise => ?_, fun averages => averages.mono fun _ _ => secondLevel_of_averages⟩
  exact precise.guarantee
    (fun _ _ _ averaging depth taken =>
      averaging_step extracts nonneg le_one averaging depth taken)
    (fun _ _ _ averaging depth _ => averages_of_precise extracts nonneg le_one averaging depth)
    (start_averaging exchange symbol α)

end Session

end Steps

section Examples

open scoped RoqSamples.Client.Documented

open Session

/-- A depth that an extraction can lead to. -/
private abbrev Snapshot := {depth : Depth // WellFormed binary64 depth}

/-- A level of both sides around a price. -/
private def level (price distance : ℚ) : Layer where
  bidPrice := .num (price - distance)
  bidQuantity := 2
  askPrice := .num (price + distance)
  askQuantity := 1

/-- The prices of two levels around a price are doubles. -/
private abbrev Doubles (price : ℚ) : Prop :=
  ∀ distance ∈ [(1 : ℚ), 2], binary64.round (price - distance) = .num (price - distance) ∧
    binary64.round (price + distance) = .num (price + distance)

private theorem level_priced {price distance : ℚ} (doubles : Doubles price)
    (mem : distance ∈ [(1 : ℚ), 2]) :
    Level binary64 (level price distance).bidPrice (level price distance).bidQuantity ∧
      Level binary64 (level price distance).askPrice (level price distance).askQuantity :=
  ⟨.inr ⟨_, 2, rfl, rfl, by decide +kernel, (doubles _ mem).1⟩,
    .inr ⟨_, 1, rfl, rfl, by decide +kernel, (doubles _ mem).2⟩⟩

private theorem forall_layers {P : Layer → Prop} {depth : Depth} (first : P depth.first)
    (second : P depth.second) : ∀ layer ∈ depth.layers, P layer := by
  intro layer mem
  rcases List.mem_cons.mp mem with rfl | last
  · exact first
  · cases List.mem_singleton.mp last
    exact second

/-- One level on each side. -/
private def thin (price : ℚ) (doubles : Doubles price) : Snapshot where
  val := { first := level price 1 }
  property :=
    { bid := forall_layers (level_priced doubles (by simp)).1 (.inl ⟨rfl, rfl⟩)
      ask := forall_layers (level_priced doubles (by simp)).2 (.inl ⟨rfl, rfl⟩)
      bid_falls := fun _ _ _ missing => nomatch missing
      ask_rises := fun _ _ _ missing => nomatch missing }

/-- Two levels on each side. -/
private def deep (price : ℚ) (doubles : Doubles price) : Snapshot where
  val := { first := level price 1, second := level price 2 }
  property :=
    { bid := forall_layers (level_priced doubles (by simp)).1 (level_priced doubles (by simp)).1
      ask := forall_layers (level_priced doubles (by simp)).2 (level_priced doubles (by simp)).2
      bid_falls := by
        intro x y first second
        cases first
        cases second
        linarith
      ask_rises := by
        intro x y first second
        cases first
        cases second
        linarith }

/-- A book that gets a snapshot with every update. -/
private def snapshots : MarketByPrice (Option Snapshot) Snapshot where
  empty := none
  apply := fun _ update => some update
  extract := fun book =>
    match book with
    | none => ({}, 0)
    | some snapshot => (snapshot.val, 2)
  clear := fun _ => none

private theorem snapshots_extracts : Extracts binary64 snapshots := by
  intro book
  cases book with
  | some snapshot => exact snapshot.property
  | none =>
      refine ⟨?_, ?_, ?_, ?_⟩
      · exact forall_layers (.inl ⟨rfl, rfl⟩) (.inl ⟨rfl, rfl⟩)
      · exact forall_layers (.inl ⟨rfl, rfl⟩) (.inl ⟨rfl, rfl⟩)
      · intro x y missing
        cases missing
      · intro x y missing
        cases missing

/-- The instrument gets ready. -/
private def opening : List (Message Snapshot) :=
  [.connected, .gatewayStatus "" [.referenceData, .marketStatus, .marketByPrice] [],
    .referenceData "deribit" "BTC-PERPETUAL" (.num (1 / 2)) 1 1,
    .marketStatus "deribit" "BTC-PERPETUAL" .«open»]

private def book (snapshot : Snapshot) : Message Snapshot :=
  .marketByPriceUpdate "deribit" "BTC-PERPETUAL" snapshot

private def fresh (alpha : Double) : Session (Option Snapshot) :=
  start snapshots "deribit" "BTC-PERPETUAL" alpha

theorem averages_sample :
    AllSteps (next binary64 snapshots) (Averages binary64 snapshots) (fresh (.num (1 / 4)))
      (opening ++ [book (deep 100 (by decide +kernel)), book (deep 104 (by decide +kernel))]) :=
  (averages_of_precise_depths snapshots_extracts (by norm_num) (by norm_num) _ _ _).1
    (by decide +kernel)

private def deep100 : Message Snapshot := book (deep 100 (by decide +kernel))

private def thin100 : Message Snapshot := book (thin 100 (by decide +kernel))

private def deep104 : Message Snapshot := book (deep 104 (by decide +kernel))

private def deep85 : Message Snapshot := book (deep 85 (by decide +kernel))

/-- A book with one level on each side leaves no number, and the average starts anew after it. And
where the book does not change, an average with the double nearest to 0.2 as its weight leaves the
mid price by an ulp. -/
theorem averages_leave_bounds :
    ((∃ t, run (next binary64 snapshots) (fresh (.num (1 / 4)))
        (opening ++ [deep100, thin100, deep104]) = some t ∧
        t.mids = [.num (199 / 2), .nan, .num (207 / 2)] ∧
        t.instrument.avgPrice = .num (207 / 2)) ∧
      ¬ AllSteps (next binary64 snapshots) (Averages binary64 snapshots) (fresh (.num (1 / 4)))
        (opening ++ [deep100] ++ [thin100])) ∧
    ¬ AllSteps (next binary64 snapshots) (Averages binary64 snapshots)
      (fresh (binary64 (.num (1 / 5)))) (opening ++ [deep85] ++ [deep85]) := by
  refine ⟨⟨reaches_of_any (by decide +kernel), fun steps => ?_⟩, fun steps => ?_⟩
  · have found : ∃ s, run (next binary64 snapshots) (fresh (.num (1 / 4)))
        (opening ++ [deep100]) = some s ∧ Computes binary64 snapshots s.instrument thin100 :=
      reaches_of_any (by decide +kernel)
    obtain ⟨s, reached, computes⟩ := found
    obtain ⟨t, taken, _, _, midPrice, _⟩ := next_computes computes
    obtain ⟨t', again, averaged⟩ := steps.after reached taken computes
    cases taken.symm.trans again
    obtain ⟨_, _, mid, _, _, number, _⟩ := averaged.mid
    rw [number] at midPrice
    exact Double.noConfusion (midPrice.trans (weightedMid_missing (.inl rfl)))
  · have found : ∃ s, run (next binary64 snapshots) (fresh (binary64 (.num (1 / 5))))
        (opening ++ [deep85]) = some s ∧ Computes binary64 snapshots s.instrument deep85 ∧
          (next binary64 snapshots s deep85).any (fun t =>
            t.mids = [.num (169 / 2), .num (169 / 2)] ∧
              t.instrument.avgPrice ≠ .num (169 / 2)) = true :=
      reaches_of_any (by decide +kernel)
    obtain ⟨s, reached, computes, left⟩ := found
    obtain ⟨t, taken, apart⟩ := (Option.any_eq_true _ _).mp left
    obtain ⟨mids, moved⟩ := of_decide_eq_true apart
    obtain ⟨t', again, averaged⟩ := steps.after reached taken computes
    cases taken.symm.trans again
    obtain ⟨low, high, avg, least, most, number, above, below⟩ := averaged.avg
    rw [mids] at least most
    have low_at : low = 169 / 2 := by
      cases least
      decide +kernel
    have high_at : high = 169 / 2 := by
      cases most
      decide +kernel
    rw [low_at] at above
    rw [high_at] at below
    rw [number, le_antisymm below above] at moved
    exact moved rfl

end Examples

end RoqSamples.Example2.AverageBounds
