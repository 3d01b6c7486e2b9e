/- Example3/AverageMemory
   digest: The slow averages of example-3 forget what they were, and come to where the prices are,
     by a constant factor with every full depth. -/
import RoqSamples.Arith.Smoothing
import RoqSamples.Example3.AverageBounds

set_option autoImplicit false
set_option relaxedAutoImplicit false

namespace RoqSamples.Example3.AverageMemory

open RoqSamples.Arith (Double)
open RoqSamples.Arith.Smoothing
open RoqSamples.Client (Utils)
open RoqSamples.Execution.Runs
open RoqSamples.Example3.AverageBounds
open RoqSamples.Example3.Signals

/-- Two averages that see the same depths: of their difference a power is left, and each has left
the range of these prices by no more than the same power of what it was. -/
def Forgets (α : ℚ) (price : Layer → Double) (depths : List Depth)
    (start start' value value' : Double) : Prop :=
  ∀ x x', start = .num x → start' = .num x' → ∃ y y', value = .num y ∧ value' = .num y' ∧
    y - y' = (1 - α) ^ depths.length * (x - x') ∧
    ∀ low high, (∀ p ∈ prices price depths, low ≤ p ∧ p ≤ high) →
      (1 - α) ^ depths.length * x + (1 - (1 - α) ^ depths.length) * low ≤ y ∧
        y ≤ (1 - α) ^ depths.length * x + (1 - (1 - α) ^ depths.length) * high

/-- One side of a model: its slow average, what a depth is to it, and its prices. -/
private structure Averaged [Utils] (ema : Model → EMA) (fast : Depth → Double)
    (price : Layer → Double) : Prop where
  starts : ∀ settings, (ema (Model.new settings)).alpha = settings.emaAlpha
  resets : ∀ model, (ema model.reset).alpha = (ema model).alpha
  update : ∀ model depth, Model.validate depth = true →
    ema (model.update depth).1 = (ema model).update (fast depth)
  inside : ∀ depth, Model.validate depth = true → Inside price depth (fast depth)

private theorem bid_averaged [Utils] : Averaged Model.bidEma Model.weightedBid Layer.bidPrice where
  starts := fun _ => rfl
  resets := fun _ => rfl
  update := fun _ _ valid => (update_emas valid).1
  inside := fun _ => bid_inside

private theorem ask_averaged [Utils] : Averaged Model.askEma Model.weightedAsk Layer.askPrice where
  starts := fun _ => rfl
  resets := fun _ => rfl
  update := fun _ _ valid => (update_emas valid).2
  inside := fun _ => ask_inside

/-- What the depths are to the average of a side. -/
private def fasts (fast : Depth → Double) (depths : List Depth) : List ℚ :=
  depths.filterMap fun depth => numberOf (fast depth)

section Side

variable {ema : Model → EMA} {fast : Depth → Double} {price : Layer → Double}
  {depths : List Depth} {α : ℚ}

private theorem priced_append {depth : Depth} (priced : Priced price (depths ++ [depth])) :
    Priced price depths ∧ Priced price [depth] := by
  constructor
  · intro d mem
    exact priced d (List.mem_append_left _ mem)
  · intro d mem
    exact priced d (List.mem_append_right _ mem)

private theorem fasts_append {depth : Depth} {x : ℚ} (number : fast depth = .num x) :
    fasts fast (depths ++ [depth]) = fasts fast depths ++ [x] := by
  have last : [depth].filterMap (fun depth => numberOf (fast depth)) = [x] := by
    rw [List.filterMap_cons, number]
    rfl
  rw [fasts, List.filterMap_append, last, fasts]

private theorem updated_value {average : EMA} {x y : ℚ} (alpha : average.alpha = .num α)
    (slow : average.value = .num y) :
    (average.update (.num x)).value = .num (α * x + (1 - α) * y) := by
  rw [update_value alpha, slow]

variable [Utils]

private theorem alpha_kept (averaged : Averaged ema fast price) (model : Model) (c : Call) :
    (ema (call model c).1).alpha = (ema model).alpha := by
  cases c with
  | reset => exact averaged.resets model
  | update depth =>
      show (ema (model.update depth).1).alpha = _
      cases valid : Model.validate depth with
      | true =>
          rw [averaged.update model depth valid]
          rfl
      | false => rw [update_invalid valid]

private theorem alpha_reached (averaged : Averaged ema fast price) {settings : Settings}
    {past : List Call} {model : Model}
    (reached : run next (Model.new settings) past = some model) :
    (ema model).alpha = settings.emaAlpha := by
  refine run_invariant (I := fun model => (ema model).alpha = settings.emaAlpha) ?_
    (averaged.starts settings) reached
  intro model c after alpha taken
  cases taken
  exact (alpha_kept averaged model c).trans alpha

/-- What the calls make of an average that is a number. -/
private structure Smoothed (ema : Model → EMA) (fast : Depth → Double) (α x : ℚ)
    (depths : List Depth) (after : Model) : Prop where
  alpha : (ema after).alpha = .num α
  value : (ema after).value = .num (smooth α x (fasts fast depths))
  length : (fasts fast depths).length = depths.length
  valid : ∀ depth ∈ depths, Model.validate depth = true

private theorem smoothed_update (averaged : Averaged ema fast price) {x : ℚ} {before : Model}
    (smoothed : Smoothed ema fast α x depths before) {depth : Depth}
    (valid : Model.validate depth = true) (priced : Priced price [depth]) :
    Smoothed ema fast α x (depths ++ [depth]) (before.update depth).1 := by
  obtain ⟨alpha, value, length, earlier⟩ := smoothed
  obtain ⟨_, number⟩ := averaged.inside depth valid
  obtain ⟨z, fresh⟩ := Double.exists_num (number priced)
  refine ⟨?_, ?_, ?_, ?_⟩
  · rw [averaged.update before depth valid]
    exact alpha
  · rw [averaged.update before depth valid, fresh, updated_value alpha value,
      fasts_append fresh, smooth_append]
  · rw [fasts_append fresh, List.length_append, List.length_append, length,
      List.length_singleton, List.length_singleton]
  · intro d mem
    rcases List.mem_append.mp mem with old | last
    · exact earlier d old
    · rw [List.mem_singleton.mp last]
      exact valid

private theorem smoothed_run (averaged : Averaged ema fast price) {x : ℚ} {model after : Model}
    {more : List Call} (alpha : (ema model).alpha = .num α) (start : (ema model).value = .num x)
    (steady : .reset ∉ more) (priced : Priced price (processed more))
    (continued : run next model more = some after) :
    Smoothed ema fast α x (processed more) after := by
  refine run_history (I := fun more after => .reset ∉ more → Priced price (processed more) →
    Smoothed ema fast α x (processed more) after) ?_ ?_ continued steady priced
  · intro _ _
    exact ⟨alpha, start, rfl, fun _ mem => (List.not_mem_nil mem).elim⟩
  · intro more c before after _ ih taken steady priced
    cases taken
    have calm : .reset ∉ more := fun mem => steady (List.mem_append_left _ mem)
    rw [processed_append] at priced ⊢
    cases c with
    | reset => exact (steady (List.mem_append_right _ (List.mem_singleton_self _))).elim
    | update depth =>
        show Smoothed ema fast α x _ (before.update depth).1
        cases valid : Model.validate depth with
        | false =>
            rw [update_invalid valid]
            simp only [valid, Bool.false_eq_true, if_false] at priced ⊢
            exact ih calm priced
        | true =>
            simp only [valid, if_true] at priced ⊢
            obtain ⟨earlier, last⟩ := priced_append priced
            exact smoothed_update averaged (ih calm earlier) valid last

/-- Every value is within the range of the prices. -/
private theorem fasts_within (averaged : Averaged ema fast price)
    (valid : ∀ depth ∈ depths, Model.validate depth = true) {low high : ℚ}
    (range : ∀ p ∈ prices price depths, low ≤ p ∧ p ≤ high) :
    ∀ x ∈ fasts fast depths, low ≤ x ∧ x ≤ high := by
  intro x mem
  obtain ⟨depth, seen, number⟩ := List.mem_filterMap.mp mem
  obtain ⟨within, _⟩ := averaged.inside depth (valid depth seen)
  obtain ⟨⟨p, inside, above⟩, q, inside', below⟩ := within x (numberOf_eq_some.mp number)
  have sub : prices price [depth] ⊆ prices price depths := by
    refine prices_subset price fun d single => ?_
    rw [List.mem_singleton.mp single]
    exact seen
  exact ⟨(range p (sub inside)).1.trans above, below.trans (range q (sub inside')).2⟩

private theorem forgets (averaged : Averaged ema fast price) (pos : 0 < α) (le_one : α ≤ 1)
    {model model' after after' : Model} {more : List Call}
    (alpha : (ema model).alpha = .num α) (alpha' : (ema model').alpha = .num α)
    (steady : .reset ∉ more) (priced : Priced price (processed more))
    (continued : run next model more = some after)
    (continued' : run next model' more = some after') :
    Forgets α price (processed more) (ema model).value (ema model').value (ema after).value
      (ema after').value := by
  intro x x' start start'
  have first := smoothed_run averaged alpha start steady priced continued
  have second := smoothed_run averaged alpha' start' steady priced continued'
  have power : share α (fasts fast (processed more)) = (1 - α) ^ (processed more).length := by
    rw [share, first.length]
  refine ⟨_, _, first.value, second.value, ?_, ?_⟩
  · rw [smooth_sub, power]
  · intro low high range
    have within := fasts_within averaged first.valid range
    rw [← power]
    constructor
    · exact le_smooth pos.le le_one x fun y mem => (within y mem).1
    · exact smooth_le pos.le le_one x fun y mem => (within y mem).2

end Side

/-- Whatever two models of the same weight have been through: after the same calls without a
reset, in which no price is missing, their slow averages differ by no more than a power of what they
differed by, one factor for each full depth, and have come as close to the range of the prices of
these depths. -/
theorem averages_forget [Utils] {settings settings' : Settings} {α : ℚ}
    (alpha : settings.emaAlpha = .num α) (alpha' : settings'.emaAlpha = .num α)
    (pos : 0 < α) (le_one : α ≤ 1) {past past' more : List Call} {model model' after after' : Model}
    (reached : run next (Model.new settings) past = some model)
    (reached' : run next (Model.new settings') past' = some model')
    (steady : .reset ∉ more) (continued : run next model more = some after)
    (continued' : run next model' more = some after') :
    (Priced Layer.bidPrice (processed more) →
      Forgets α Layer.bidPrice (processed more) model.bidEma.value model'.bidEma.value
        after.bidEma.value after'.bidEma.value) ∧
    (Priced Layer.askPrice (processed more) →
      Forgets α Layer.askPrice (processed more) model.askEma.value model'.askEma.value
        after.askEma.value after'.askEma.value) := by
  constructor
  · intro priced
    have first := (alpha_reached bid_averaged reached).trans alpha
    have second := (alpha_reached bid_averaged reached').trans alpha'
    exact forgets bid_averaged pos le_one first second steady priced continued continued'
  · intro priced
    have first := (alpha_reached ask_averaged reached).trans alpha
    have second := (alpha_reached ask_averaged reached').trans alpha'
    exact forgets ask_averaged pos le_one first second steady priced continued continued'

section Examples

open scoped RoqSamples.Client.Documented

private def market (bid : ℚ) : Call :=
  let layer : Layer := ⟨.num bid, 2, .num (bid + 1), 3⟩
  .update ⟨layer, layer, layer⟩

/-- Two markets that were far apart, and two depths that are the same. -/
theorem averages_forget_apart :
    ∃ model model' after after', run next (Model.new {}) [market 99] = some model ∧
      run next (Model.new { warmup := 5 }) [.reset, market 199] = some model' ∧
      run next model [market 100, market 100] = some after ∧
      run next model' [market 100, market 100] = some after' ∧
      ∃ y y', after.bidEma.value = .num y ∧ after'.bidEma.value = .num y' ∧
        y - y' = (1 - 33 / 100) ^ 2 * (99 - 199) := by
  have reached : run next (Model.new {}) [market 99] = some _ := rfl
  have reached' : run next (Model.new { warmup := 5 }) [.reset, market 199] = some _ := rfl
  refine ⟨_, _, _, _, reached, reached', rfl, rfl, ?_⟩
  have steady : .reset ∉ [market 100, market 100] := by decide
  obtain ⟨bid, _⟩ := averages_forget rfl rfl (by norm_num : (0 : ℚ) < 33 / 100) (by norm_num)
    reached reached' steady rfl rfl
  have priced : Priced Layer.bidPrice (processed [market 100, market 100]) := by
    unfold Priced
    decide +kernel
  obtain ⟨y, y', value, value', left, _⟩ :=
    bid priced 99 199 (by decide +kernel) (by decide +kernel)
  exact ⟨y, y', value, value', left⟩

end Examples

end RoqSamples.Example3.AverageMemory
