/- Example3/AverageBounds
   digest: The averages of example-3 stay between the prices seen, and no flag is set as long as
     every bid is below every ask. -/
import RoqSamples.Arith.Span
import RoqSamples.Example3.Signals

set_option autoImplicit false
set_option relaxedAutoImplicit false

namespace RoqSamples.Example3.AverageBounds

open RoqSamples.Arith (Double)
open RoqSamples.Arith.Span
open RoqSamples.Client
open RoqSamples.Execution.Runs
open RoqSamples.Example3.Signals

def numberOf : Double → Option ℚ
  | .nan => none
  | .num x => some x

/-- The prices of one side over all layers of the depths. -/
def prices (price : Layer → Double) (depths : List Depth) : List ℚ :=
  depths.flatMap fun depth => depth.layers.filterMap fun layer => numberOf (price layer)

/-- The two sums of one side that the average price is the quotient of. -/
def sums (quantity price : Layer → Double) (depth : Depth) : Double × Double :=
  depth.layers.foldl (fun (sum1, sum2) layer =>
    (sum1 + quantity layer * price layer, sum2 + quantity layer)) (0, 0)

/-- No price of the side is missing. -/
def Priced (price : Layer → Double) (depths : List Depth) : Prop :=
  ∀ depth ∈ depths, ∀ layer ∈ depth.layers, price layer ≠ .nan

/-- A value that is a number lies between the smallest and the largest price of the depths, and it
is a number once a depth has been seen and no price is missing. -/
structure Between (price : Layer → Double) (depths : List Depth) (value : Double) : Prop where
  bounded : ∀ x, value = .num x → ∃ low high, (prices price depths).min? = some low ∧
    (prices price depths).max? = some high ∧ low ≤ x ∧ x ≤ high
  number : depths ≠ [] → Priced price depths → ∃ x, value = .num x

/-- Every bid price of the depths is below every ask price of the depths. -/
def Apart (depths : List Depth) : Prop :=
  ∀ bid ∈ prices Layer.bidPrice depths, ∀ ask ∈ prices Layer.askPrice depths, bid < ask

theorem numberOf_eq_some {x : Double} {y : ℚ} : numberOf x = some y ↔ x = .num y := by
  cases x <;> simp [numberOf]

theorem mem_prices {price : Layer → Double} {depths : List Depth} {p : ℚ} :
    p ∈ prices price depths ↔
      ∃ depth ∈ depths, ∃ layer ∈ depth.layers, price layer = .num p := by
  simp only [prices, List.mem_flatMap, List.mem_filterMap, numberOf_eq_some]

theorem prices_subset (price : Layer → Double) {depths more : List Depth} (sub : depths ⊆ more) :
    prices price depths ⊆ prices price more := by
  intro p mem
  obtain ⟨depth, seen, layer⟩ := mem_prices.mp mem
  exact mem_prices.mpr ⟨depth, sub seen, layer⟩

/-- The state of the loop behind an average: the weight so far is positive, and the average so far
is in the set. -/
private def Partial (S : Set ℚ) (numbers : Prop) (sum1 sum2 : Double) : Prop :=
  ∃ total, sum2 = .num total ∧ 0 < total ∧ (∀ y, sum1 = .num y → y / total ∈ S) ∧
    (numbers → sum1 ≠ .nan)

private theorem partial_first {S : Set ℚ} {numbers : Prop} {w : ℚ} {p : Double} (pos : 0 < w)
    (inside : ∀ x, p = .num x → x ∈ S) (number : numbers → p ≠ .nan) :
    Partial S numbers (0 + .num w * p) (0 + .num w) := by
  refine ⟨w, by simp, pos, fun y eq => ?_, fun all => ?_⟩
  · cases p with
    | nan => simp at eq
    | num x =>
        have same : y = w * x := by simpa using eq.symm
        rw [same, mul_div_cancel_left₀ x pos.ne']
        exact inside x rfl
  · obtain ⟨x, rfl⟩ := Double.exists_num (number all)
    simp

private theorem partial_step {S : Set ℚ} {numbers : Prop} {sum1 sum2 p : Double} {w : ℚ}
    (convex : Convex ℚ S) (before : Partial S numbers sum1 sum2) (pos : 0 < w)
    (inside : ∀ x, p = .num x → x ∈ S) (number : numbers → p ≠ .nan) :
    Partial S numbers (sum1 + .num w * p) (sum2 + .num w) := by
  obtain ⟨total, rfl, weighed, average, known⟩ := before
  refine ⟨total + w, rfl, add_pos weighed pos, fun y eq => ?_, fun all => ?_⟩
  · cases p with
    | nan => simp at eq
    | num x =>
        cases sum1 with
        | nan => simp at eq
        | num s =>
            have same : y = s + w * x := by simpa using eq.symm
            rw [same]
            exact weighted_step convex weighed (average s rfl) pos.le (inside x rfl)
  · obtain ⟨x, rfl⟩ := Double.exists_num (number all)
    obtain ⟨s, rfl⟩ := Double.exists_num (known all)
    simp

private theorem isGreater_pos [Utils] {x : Double} (greater : Utils.isGreater x 0 = true) :
    ∃ w, x = .num w ∧ 0 < w := by
  have pos := Utils.isGreater_zero.mp greater
  cases x with
  | nan => cases pos
  | num w => exact ⟨w, rfl, (Double.lt_num 0 w).mp pos⟩

/-- Full depth: every quantity of the layers is a positive number. -/
theorem validate_positive [Utils] {depth : Depth} (valid : Model.validate depth = true)
    {layer : Layer} (mem : layer ∈ depth.layers) :
    (∃ w, layer.bidQuantity = .num w ∧ 0 < w) ∧ ∃ w, layer.askQuantity = .num w ∧ 0 < w := by
  simp only [Model.validate, Depth.layers, List.foldl_cons, List.foldl_nil, Bool.and_eq_true,
    Bool.true_and] at valid
  obtain ⟨⟨⟨⟨⟨bid1, ask1⟩, bid2⟩, ask2⟩, bid3⟩, ask3⟩ := valid
  simp only [Depth.layers, List.mem_cons, List.not_mem_nil, or_false] at mem
  rcases mem with rfl | rfl | rfl
  · exact ⟨isGreater_pos bid1, isGreater_pos ask1⟩
  · exact ⟨isGreater_pos bid2, isGreater_pos ask2⟩
  · exact ⟨isGreater_pos bid3, isGreater_pos ask3⟩

/-- A positive number of weight, for the side that the functions read. -/
private def Weighs (quantity : Layer → Double) (depth : Depth) : Prop :=
  ∀ layer ∈ depth.layers, ∃ w, quantity layer = .num w ∧ 0 < w

/-- The loop over the three layers. -/
private theorem sums_partial {quantity price : Layer → Double} {depth : Depth}
    (weighs : Weighs quantity depth) :
    Partial (span (prices price [depth])) (Priced price [depth])
      (sums quantity price depth).1 (sums quantity price depth).2 := by
  have inside : ∀ layer ∈ depth.layers, ∀ x, price layer = .num x →
      x ∈ span (prices price [depth]) := fun layer mem x eq =>
    mem_span_self (mem_prices.mpr ⟨depth, List.mem_singleton_self _, layer, mem, eq⟩)
  have number : ∀ layer ∈ depth.layers, Priced price [depth] → price layer ≠ .nan :=
    fun layer mem all => all depth (List.mem_singleton_self _) layer mem
  have convex := span_convex (prices price [depth])
  obtain ⟨layer1, layer2, layer3⟩ := depth
  simp only [Weighs, Depth.layers, List.forall_mem_cons, List.not_mem_nil, false_implies,
    implies_true, and_true] at weighs inside number
  obtain ⟨⟨w1, eq1, pos1⟩, ⟨w2, eq2, pos2⟩, ⟨w3, eq3, pos3⟩⟩ := weighs
  have first := partial_first pos1 inside.1 number.1
  have second := partial_step convex first pos2 inside.2.1 number.2.1
  have third := partial_step convex second pos3 inside.2.2 number.2.2
  simpa only [sums, Depth.layers, List.foldl_cons, List.foldl_nil, eq1, eq2, eq3] using third

/-- A value that is in the span of the prices of a depth, and a number if they are. -/
def Inside (price : Layer → Double) (depth : Depth) (fast : Double) : Prop :=
  (∀ x, fast = .num x → x ∈ span (prices price [depth])) ∧ (Priced price [depth] → fast ≠ .nan)

private theorem quotient_inside {price : Layer → Double} {depth : Depth} {sum1 sum2 : Double}
    (sums : Partial (span (prices price [depth])) (Priced price [depth]) sum1 sum2) :
    Inside price depth (sum1 / sum2) := by
  obtain ⟨total, rfl, pos, average, known⟩ := sums
  have quotient : ∀ y, Double.num y / .num total = .num (y / total) := fun y =>
    if_neg pos.ne'
  refine ⟨fun x eq => ?_, fun all => ?_⟩
  · cases sum1 with
    | nan => cases eq
    | num y =>
        rw [quotient] at eq
        cases eq
        exact average y rfl
  · obtain ⟨y, rfl⟩ := Double.exists_num (known all)
    rw [quotient]
    exact Double.noConfusion

/-- The slow average of one side follows the prices of the depths. -/
private def Follows (α : ℚ) (price : Layer → Double) (depths : List Depth) (ema : EMA) : Prop :=
  ema.alpha = .num α ∧ (∀ x, ema.value = .num x → x ∈ span (prices price depths)) ∧
    (depths ≠ [] → Priced price depths → ema.value ≠ .nan)

/-- The first value initializes the average, the later ones are blended into it. -/
theorem update_value {ema : EMA} {α : ℚ} (alpha : ema.alpha = .num α) (fast : Double) :
    (ema.update fast).value =
      match ema.value, fast with
      | .nan, x => x
      | .num _, .nan => .nan
      | .num y, .num x => .num (α * x + (1 - α) * y) := by
  simp only [EMA.update, alpha]
  cases ema.value with
  | nan => rfl
  | num y =>
      cases fast with
      | nan => rfl
      | num x =>
          have one : (1 : Double) - .num α = .num (1 - α) := by
            rw [Double.ofNat_eq, Double.num_sub_num, Nat.cast_one]
          rw [one]
          rfl

private theorem Follows.update {α : ℚ} {price : Layer → Double} {depths : List Depth} {ema : EMA}
    {depth : Depth} {fast : Double} (follows : Follows α price depths ema) (pos : 0 < α)
    (le_one : α ≤ 1) (inside : Inside price depth fast) :
    Follows α price (depths ++ [depth]) (ema.update fast) := by
  obtain ⟨alpha, within, known⟩ := follows
  obtain ⟨inside, number⟩ := inside
  have older := span_mono (prices_subset price (List.subset_append_left depths [depth]))
  have newer := span_mono (prices_subset price (List.subset_append_right depths [depth]))
  have fresh : Priced price (depths ++ [depth]) → fast ≠ .nan := fun all =>
    number fun d mem => all d (List.mem_append_right depths mem)
  refine ⟨alpha, ?_, ?_⟩
  · intro x eq
    rw [update_value alpha] at eq
    cases slow : ema.value with
    | nan =>
        rw [slow] at eq
        exact newer (inside x eq)
    | num y =>
        cases fast with
        | nan => simp [slow] at eq
        | num z =>
            have same : α * z + (1 - α) * y = x := by
              simpa [slow] using eq
            rw [← same]
            exact blend_mem (span_convex _) pos.le le_one (newer (inside z rfl))
              (older (within y slow))
  · intro _ all
    obtain ⟨z, rfl⟩ := Double.exists_num (fresh all)
    rw [update_value alpha]
    cases ema.value with
    | nan => exact Double.noConfusion
    | num y => exact Double.noConfusion

/-- Both slow averages follow the prices of their sides. -/
private def BothFollow (α : ℚ) (depths : List Depth) (model : Model) : Prop :=
  Follows α Layer.bidPrice depths model.bidEma ∧ Follows α Layer.askPrice depths model.askEma

private theorem follows_start {α : ℚ} {price : Layer → Double} {ema : EMA}
    (alpha : ema.alpha = .num α) (unset : ema.value = .nan) : Follows α price [] ema := by
  refine ⟨alpha, fun x eq => ?_, fun seen => (seen rfl).elim⟩
  rw [unset] at eq
  cases eq

private theorem bid_sums [Utils] {depth : Depth} (valid : Model.validate depth = true) :
    Partial (span (prices Layer.bidPrice [depth])) (Priced Layer.bidPrice [depth])
      (sums Layer.bidQuantity Layer.bidPrice depth).1
      (sums Layer.bidQuantity Layer.bidPrice depth).2 :=
  sums_partial fun _ mem => (validate_positive valid mem).1

private theorem ask_sums [Utils] {depth : Depth} (valid : Model.validate depth = true) :
    Partial (span (prices Layer.askPrice [depth])) (Priced Layer.askPrice [depth])
      (sums Layer.askQuantity Layer.askPrice depth).1
      (sums Layer.askQuantity Layer.askPrice depth).2 :=
  sums_partial fun _ mem => (validate_positive valid mem).2

theorem bid_inside [Utils] {depth : Depth} (valid : Model.validate depth = true) :
    Inside Layer.bidPrice depth (Model.weightedBid depth) :=
  quotient_inside (bid_sums valid)

theorem ask_inside [Utils] {depth : Depth} (valid : Model.validate depth = true) :
    Inside Layer.askPrice depth (Model.weightedAsk depth) :=
  quotient_inside (ask_sums valid)

private theorem bothFollow_update [Utils] {α : ℚ} {depths : List Depth} {model : Model}
    {depth : Depth} (both : BothFollow α depths model) (pos : 0 < α) (le_one : α ≤ 1)
    (valid : Model.validate depth = true) :
    BothFollow α (depths ++ [depth]) (model.update depth).1 := by
  have bid := bid_inside valid
  have ask := ask_inside valid
  unfold BothFollow
  rw [(update_emas valid).1, (update_emas valid).2]
  exact ⟨both.1.update pos le_one bid, both.2.update pos le_one ask⟩

private theorem run_follows [Utils] {settings : Settings} {α : ℚ}
    (alpha : settings.emaAlpha = .num α)
    (pos : 0 < α) (le_one : α ≤ 1) {past : List Call} {model : Model}
    (reached : run next (Model.new settings) past = some model) :
    BothFollow α (processed past) model := by
  refine run_history (I := fun past model => BothFollow α (processed past) model) ?_ ?_ reached
  · unfold BothFollow Model.new
    rw [alpha]
    exact ⟨follows_start rfl rfl, follows_start rfl rfl⟩
  · intro past c before after _ both taken
    cases taken
    rw [processed_append]
    cases c with
    | reset => exact ⟨follows_start both.1.1 rfl, follows_start both.2.1 rfl⟩
    | update depth =>
        show BothFollow α _ (before.update depth).1
        cases valid : Model.validate depth with
        | false =>
            rw [update_invalid valid]
            simpa [valid] using both
        | true =>
            simpa only [valid, if_true] using bothFollow_update both pos le_one valid

/-- An ask value is not below a bid value as long as the prices are apart. -/
private theorem lt_eq_false {depths : List Depth} (apart : Apart depths) {bid ask : Double}
    (low : ∀ x, bid = .num x → x ∈ span (prices Layer.bidPrice depths))
    (high : ∀ y, ask = .num y → y ∈ span (prices Layer.askPrice depths)) :
    ask.lt bid = false := by
  cases ask with
  | nan => rfl
  | num y =>
      cases bid with
      | nan => rfl
      | num x =>
          have ordered : x < y := span_lt apart (low x rfl) (high y rfl)
          exact decide_eq_false ordered.not_gt

/-- Neither direction is detected as long as the prices are apart. -/
private theorem apart_still [Utils] {α : ℚ} {depths : List Depth} {model : Model} {depth : Depth}
    (both : BothFollow α depths model) (pos : 0 < α) (le_one : α ≤ 1)
    (valid : Model.validate depth = true) (apart : Apart (depths ++ [depth])) :
    (averages model depth).falls = false ∧ (averages model depth).rises = false := by
  have bid := bid_inside valid
  have ask := ask_inside valid
  have bidSlow := (both.1.update pos le_one bid).2.1
  have askSlow := (both.2.update pos le_one ask).2.1
  have newer : ∀ price, span (prices price [depth]) ⊆ span (prices price (depths ++ [depth])) :=
    fun price => span_mono (prices_subset price (List.subset_append_right depths [depth]))
  have askAbove := lt_eq_false apart bidSlow fun y eq => newer _ (ask.1 y eq)
  have bidBelow := lt_eq_false apart (fun x eq => newer _ (bid.1 x eq)) askSlow
  exact ⟨by rw [Averages.falls, averages, askAbove, Bool.false_and],
    by rw [Averages.rises, averages, bidBelow, Bool.false_and]⟩

private theorem outcome_still {a : Averages} {selling buying : Bool} {result : Side}
    (outcome : Signals.Outcome a false false selling buying result) (falls : a.falls = false)
    (rises : a.rises = false) : selling = false ∧ buying = false ∧ result = .undefined := by
  cases outcome with
  | keeps => exact ⟨rfl, rfl, rfl⟩
  | falls idle fallen => cases falls.symm.trans fallen
  | rises fresh risen => cases rises.symm.trans risen
  | buys set => cases set
  | sells set => cases set

theorem Apart.front {depths more : List Depth} (apart : Apart (depths ++ more)) : Apart depths := by
  intro bid low ask high
  have sub := List.subset_append_left depths more
  exact apart bid (prices_subset _ sub low) ask (prices_subset _ sub high)

theorem apart_before [Utils] {past : List Call} {depth : Depth}
    (apart : Apart (processed (past ++ [.update depth]))) : Apart (processed past) := by
  rw [processed_append] at apart
  dsimp only at apart
  split_ifs at apart
  · exact apart.front
  · exact apart

/-- A call on a model whose flags are not set, as long as the prices are apart. -/
private theorem update_still [Utils] {α : ℚ} {past : List Call} {model : Model} {depth : Depth}
    (both : BothFollow α (processed past) model) (pos : 0 < α) (le_one : α ≤ 1)
    (never : NeverBoth model) (apart : Apart (processed (past ++ [.update depth])))
    (unset : model.selling = false ∧ model.buying = false) :
    (model.update depth).1.selling = false ∧ (model.update depth).1.buying = false ∧
      (model.update depth).2 = .undefined := by
  cases valid : Model.validate depth with
  | false =>
      rw [update_invalid valid]
      exact ⟨unset.1, unset.2, rfl⟩
  | true =>
      rw [processed_append] at apart
      simp only [valid, if_true] at apart
      obtain ⟨falls, rises⟩ := apart_still both pos le_one valid apart
      have outcome := update_outcome never valid
      rw [unset.1, unset.2] at outcome
      exact outcome_still outcome falls rises

private theorem run_still [Utils] {settings : Settings} {α : ℚ} (alpha : settings.emaAlpha = .num α)
    (pos : 0 < α) (le_one : α ≤ 1) {past : List Call} {model : Model}
    (reached : run next (Model.new settings) past = some model) (apart : Apart (processed past)) :
    model.selling = false ∧ model.buying = false := by
  revert apart
  refine run_history (I := fun past model => Apart (processed past) →
    model.selling = false ∧ model.buying = false) ?_ ?_ reached
  · exact fun _ => ⟨rfl, rfl⟩
  · intro past c before after there still taken apart
    cases taken
    cases c with
    | reset => exact ⟨rfl, rfl⟩
    | update depth =>
        have earlier := apart_before apart
        have both := run_follows alpha pos le_one there
        have after := update_still both pos le_one (run_never_both there) apart
          (still earlier)
        exact ⟨after.1, after.2.1⟩

private theorem Follows.between {α : ℚ} {price : Layer → Double} {depths : List Depth} {ema : EMA}
    (follows : Follows α price depths ema) : Between price depths ema.value where
  bounded x eq := exists_bounds (follows.2.1 x eq)
  number seen all := Double.exists_num (follows.2.2 seen all)

/-- Both divisors are positive at a valid depth. -/
def Divides (depth : Depth) : Prop :=
  (∃ total, (sums Layer.bidQuantity Layer.bidPrice depth).2 = .num total ∧ 0 < total) ∧
    ∃ total, (sums Layer.askQuantity Layer.askPrice depth).2 = .num total ∧ 0 < total

private theorem divides_of_valid [Utils] {depth : Depth} (valid : Model.validate depth = true) :
    Divides depth := by
  obtain ⟨bidTotal, bidEq, bidPos, _⟩ := bid_sums valid
  obtain ⟨askTotal, askEq, askPos, _⟩ := ask_sums valid
  exact ⟨⟨bidTotal, bidEq, bidPos⟩, ⟨askTotal, askEq, askPos⟩⟩

/-- After any calls the slow averages lie between the prices since the last reset, no valid depth
divides by zero, and the model is silent as long as every bid has been below every ask. -/
theorem silent_while_apart [Utils] {settings : Settings} {α : ℚ}
    (alpha : settings.emaAlpha = .num α)
    (pos : 0 < α) (le_one : α ≤ 1) {past : List Call} {model : Model}
    (reached : run next (Model.new settings) past = some model) :
    Between Layer.bidPrice (processed past) model.bidEma.value ∧
      Between Layer.askPrice (processed past) model.askEma.value ∧
      (∀ depth, Model.validate depth = true → Divides depth) ∧
      (Apart (processed past) → model.selling = false ∧ model.buying = false) ∧
      ∀ depth, Apart (processed (past ++ [.update depth])) →
        (model.update depth).2 = .undefined := by
  have both := run_follows alpha pos le_one reached
  refine ⟨both.1.between, both.2.between, fun _ valid => divides_of_valid valid,
    run_still alpha pos le_one reached, fun depth apart => ?_⟩
  have still := run_still alpha pos le_one reached (apart_before apart)
  exact (update_still both pos le_one (run_never_both reached) apart still).2.2

section Examples

open scoped RoqSamples.Client.Documented

private def narrow (bid : ℚ) : Depth :=
  let layer : Layer := ⟨.num bid, 2, .num (bid + 1), 3⟩
  ⟨layer, layer, layer⟩

theorem silent_while_apart_sample :
    ∃ model, run next (Model.new {}) [.update (narrow 99), .reset, .update (narrow 100)] =
        some model ∧
      Between Layer.bidPrice [narrow 100] model.bidEma.value ∧
      (model.update (narrow (201 / 2))).2 = .undefined := by
  have reached : run next (Model.new {}) [.update (narrow 99), .reset, .update (narrow 100)] =
      some _ := rfl
  obtain ⟨bid, _, _, _, silent⟩ :=
    silent_while_apart rfl (by norm_num : (0 : ℚ) < 33 / 100) (by norm_num) reached
  refine ⟨_, reached, bid, silent _ ?_⟩
  unfold Apart
  decide +kernel

end Examples

end RoqSamples.Example3.AverageBounds
