/- Arith/Span
   digest: The interval that a list of numbers spans, and the averages that do not leave it. -/
import Mathlib.Analysis.Convex.Basic
import Mathlib.Algebra.Order.Field.Basic
import Mathlib.Tactic.FieldSimp
import Mathlib.Tactic.Linarith

set_option autoImplicit false
set_option relaxedAutoImplicit false

namespace RoqSamples.Arith.Span

universe u

section Order

variable {K : Type u} [LinearOrder K]

/-- The values that some entry of the list is at most, and some entry at least. -/
def span (ps : List K) : Set K :=
  {x | (∃ p ∈ ps, p ≤ x) ∧ ∃ p ∈ ps, x ≤ p}

theorem mem_span_self {ps : List K} {p : K} (mem : p ∈ ps) : p ∈ span ps :=
  ⟨⟨p, mem, le_rfl⟩, ⟨p, mem, le_rfl⟩⟩

theorem span_mono {ps qs : List K} (sub : ps ⊆ qs) : span ps ⊆ span qs := by
  rintro x ⟨⟨p, low, above⟩, ⟨q, high, below⟩⟩
  exact ⟨⟨p, sub low, above⟩, ⟨q, sub high, below⟩⟩

theorem span_ordConnected (ps : List K) : (span ps).OrdConnected := by
  refine ⟨fun x low y high z between => ?_⟩
  obtain ⟨p, mem, above⟩ := low.1
  obtain ⟨q, mem', below⟩ := high.2
  exact ⟨⟨p, mem, above.trans between.1⟩, ⟨q, mem', between.2.trans below⟩⟩

/-- The span lies between the smallest and the largest entry. -/
theorem exists_bounds {ps : List K} {x : K} (mem : x ∈ span ps) :
    ∃ low high, ps.min? = some low ∧ ps.max? = some high ∧ low ≤ x ∧ x ≤ high := by
  obtain ⟨⟨p, inside, above⟩, ⟨q, inside', below⟩⟩ := mem
  cases smallest : ps.min? with
  | none => simp [List.min?_eq_none_iff.mp smallest] at inside
  | some low =>
      cases largest : ps.max? with
      | none => simp [List.max?_eq_none_iff.mp largest] at inside
      | some high =>
          have least := (List.le_min?_iff smallest).mp le_rfl p inside
          have most := (List.max?_le_iff largest).mp le_rfl q inside'
          exact ⟨low, high, rfl, rfl, least.trans above, below.trans most⟩

/-- Lists whose entries are apart have spans that are apart. -/
theorem span_lt {ps qs : List K} (apart : ∀ p ∈ ps, ∀ q ∈ qs, p < q) {x y : K}
    (left : x ∈ span ps) (right : y ∈ span qs) : x < y := by
  obtain ⟨p, mem, below⟩ := left.2
  obtain ⟨q, mem', above⟩ := right.1
  exact below.trans_lt ((apart p mem q mem').trans_le above)

end Order

section Averages

variable {K : Type u} [Field K] [LinearOrder K] [IsStrictOrderedRing K]

theorem span_convex (ps : List K) : Convex K (span ps) :=
  (span_ordConnected ps).convex

/-- An exponential average of two values of a convex set stays in it. -/
theorem blend_mem {S : Set K} (convex : Convex K S) {a x y : K} (pos : 0 ≤ a) (le_one : a ≤ 1)
    (fresh : x ∈ S) (old : y ∈ S) : a * x + (1 - a) * y ∈ S := by
  have mixed := convex fresh old pos (sub_nonneg.mpr le_one) (by ring)
  simpa only [smul_eq_mul] using mixed

/-- One more point of a convex set, with its weight, keeps the weighted average in it. -/
theorem weighted_step {S : Set K} (convex : Convex K S) {sum total w p : K}
    (weighed : 0 < total) (average : sum / total ∈ S) (nonneg : 0 ≤ w) (point : p ∈ S) :
    (sum + w * p) / (total + w) ∈ S := by
  have all : 0 < total + w := add_pos_of_pos_of_nonneg weighed nonneg
  have mixed := convex average point (div_pos weighed all).le (div_nonneg nonneg all.le)
    (by rw [← add_div, div_self all.ne'])
  have same : (sum + w * p) / (total + w) =
      (total / (total + w)) • (sum / total) + (w / (total + w)) • p := by
    simp only [smul_eq_mul]
    field_simp
  rw [same]
  exact mixed

end Averages

end RoqSamples.Arith.Span
