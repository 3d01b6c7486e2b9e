/- Arith/Rounding
   digest: What becomes of exact results that have to be doubles: rounding keeps their order, and an
     average of numbers with themselves bounds the averages of the numbers between them. -/
import RoqSamples.Arith.Double
import Mathlib.Data.Int.Log
import Mathlib.Data.Rat.Floor
import Mathlib.Tactic.Linarith

set_option autoImplicit false
set_option relaxedAutoImplicit false

namespace RoqSamples.Arith

/-- How an exact result becomes a double. One that is out of range is no number, and between two
results that are numbers every result is one, in order. -/
structure Rounding where
  round : ℚ → Double
  zero : round 0 = .num 0
  between : ∀ {x y z a b : ℚ}, x ≤ y → y ≤ z → round x = .num a → round z = .num b →
    ∃ c, round y = .num c ∧ a ≤ c ∧ c ≤ b

namespace Rounding

/-- Round the result of an operation; NaN stays NaN. -/
def apply (rounding : Rounding) : Double → Double
  | .nan => .nan
  | .num x => rounding.round x

instance : CoeFun Rounding fun _ => Double → Double := ⟨apply⟩

variable (rounding : Rounding)

@[simp] theorem apply_nan : rounding .nan = .nan := rfl

@[simp] theorem apply_num (x : ℚ) : rounding (.num x) = rounding.round x := rfl

theorem exists_of_apply {x : Double} {y : ℚ} (number : rounding x = .num y) :
    ∃ exact, x = .num exact ∧ rounding.round exact = .num y := by
  cases x with
  | nan => cases number
  | num exact => exact ⟨exact, rfl, number⟩

/-- Arithmetic without rounding. -/
def exact : Rounding where
  round := .num
  zero := rfl
  between := by
    intro x y z a b left right low high
    cases low
    cases high
    exact ⟨y, rfl, left, right⟩

@[simp] theorem exact_apply (x : Double) : exact x = x := by cases x <;> rfl

variable {rounding}

theorem mono {x y a b : ℚ} (ordered : x ≤ y) (low : rounding.round x = .num a)
    (high : rounding.round y = .num b) : a ≤ b := by
  obtain ⟨c, same, above, _⟩ := rounding.between ordered le_rfl low high
  cases high.symm.trans same
  exact above

theorem nonneg {x a : ℚ} (positive : 0 ≤ x) (number : rounding.round x = .num a) : 0 ≤ a :=
  mono positive rounding.zero number

/-- A value between two doubles is rounded to one between them. -/
theorem mem_of_representable {x low high : ℚ} (left : rounding.round low = .num low)
    (right : rounding.round high = .num high) (above : low ≤ x) (below : x ≤ high) :
    ∃ y, rounding.round x = .num y ∧ low ≤ y ∧ y ≤ high :=
  rounding.between above below left right

variable (rounding)

/-- An exponential average in the order in which it is computed. -/
def blend (a x y : Double) : Double := rounding (rounding (a * x) + rounding (rounding (1 - a) * y))

variable {rounding}

private theorem exists_of_add {x y : Double} {z : ℚ} (sum : x + y = .num z) :
    ∃ p q, x = .num p ∧ y = .num q ∧ p + q = z := by
  cases x with
  | nan => cases sum
  | num p =>
      cases y with
      | nan => cases sum
      | num q =>
          cases sum
          exact ⟨p, q, rfl, rfl, rfl⟩

/-- The numbers that the computation of an average passes through. -/
private theorem blend_parts {a x y z : ℚ}
    (average : rounding.blend (.num a) (.num x) (.num y) = .num z) :
    ∃ fresh weight old, rounding.round (a * x) = .num fresh ∧
      rounding.round (1 - a) = .num weight ∧ rounding.round (weight * y) = .num old ∧
      rounding.round (fresh + old) = .num z := by
  obtain ⟨sum, parts, last⟩ := rounding.exists_of_apply average
  obtain ⟨fresh, old, first, second, rfl⟩ := exists_of_add parts
  obtain ⟨product, weighed, old_at⟩ := rounding.exists_of_apply second
  have one : (1 : Double) - .num a = .num (1 - a) := by
    rw [Double.ofNat_eq, Double.num_sub_num, Nat.cast_one]
  rw [one, apply_num] at weighed
  cases weight_at : rounding.round (1 - a) with
  | nan =>
      rw [weight_at] at weighed
      cases weighed
  | num weight =>
      rw [weight_at, Double.num_mul_num] at weighed
      cases weighed
      exact ⟨fresh, weight, old, first, rfl, old_at, last⟩

private theorem blend_of_parts {a x y fresh weight old z : ℚ}
    (first : rounding.round (a * x) = .num fresh) (weight_at : rounding.round (1 - a) = .num weight)
    (second : rounding.round (weight * y) = .num old)
    (last : rounding.round (fresh + old) = .num z) :
    rounding.blend (.num a) (.num x) (.num y) = .num z := by
  have one : (1 : Double) - .num a = .num (1 - a) := by
    rw [Double.ofNat_eq, Double.num_sub_num, Nat.cast_one]
  rw [blend, one, Double.num_mul_num, apply_num, apply_num, first, weight_at, Double.num_mul_num,
    apply_num, second, Double.num_add_num, apply_num, last]

/-- Numbers that are the averages of themselves bound the average of all numbers between them. -/
theorem blend_between {a low high x y : ℚ} (positive : 0 ≤ a) (le_one : a ≤ 1)
    (least : rounding.blend (.num a) (.num low) (.num low) = .num low)
    (most : rounding.blend (.num a) (.num high) (.num high) = .num high)
    (fresh : low ≤ x ∧ x ≤ high) (old : low ≤ y ∧ y ≤ high) :
    ∃ z, rounding.blend (.num a) (.num x) (.num y) = .num z ∧ low ≤ z ∧ z ≤ high := by
  obtain ⟨p₀, w, q₀, first₀, weight, second₀, sum₀⟩ := blend_parts least
  obtain ⟨p₁, w₁, q₁, first₁, weight₁, second₁, sum₁⟩ := blend_parts most
  cases weight.symm.trans weight₁
  have weighs : 0 ≤ w := nonneg (sub_nonneg.mpr le_one) weight
  obtain ⟨p, first, above_p, below_p⟩ := rounding.between
    (mul_le_mul_of_nonneg_left fresh.1 positive) (mul_le_mul_of_nonneg_left fresh.2 positive)
    first₀ first₁
  obtain ⟨q, second, above_q, below_q⟩ := rounding.between
    (mul_le_mul_of_nonneg_left old.1 weighs) (mul_le_mul_of_nonneg_left old.2 weighs)
    second₀ second₁
  obtain ⟨z, sum, above, below⟩ := rounding.between (add_le_add above_p above_q)
    (add_le_add below_p below_q) sum₀ sum₁
  exact ⟨z, blend_of_parts first weight second sum, above, below⟩

end Rounding

section Binary64

/-- The nearest integer, and the even one of two that are equally near. -/
def nearestEven (x : ℚ) : ℤ :=
  if x - ⌊x⌋ < 1 / 2 then ⌊x⌋ else if 1 / 2 < x - ⌊x⌋ then ⌊x⌋ + 1 else ⌊x⌋ + ⌊x⌋ % 2

private theorem nearestEven_bounds (x : ℚ) : ⌊x⌋ ≤ nearestEven x ∧ nearestEven x ≤ ⌊x⌋ + 1 := by
  unfold nearestEven
  split_ifs <;> omega

theorem nearestEven_mono {x y : ℚ} (ordered : x ≤ y) : nearestEven x ≤ nearestEven y := by
  rcases (Int.floor_mono ordered).lt_or_eq with apart | same
  · have above := (nearestEven_bounds x).2
    have below := (nearestEven_bounds y).1
    omega
  · unfold nearestEven
    rw [← same]
    split_ifs
    all_goals first | omega | (exfalso; linarith)

@[simp] theorem nearestEven_intCast (n : ℤ) : nearestEven n = n := by
  unfold nearestEven
  rw [Int.floor_intCast, sub_self, if_pos (by norm_num)]

/-- The exponent of a positive number, which is bounded below. -/
def exponent (x : ℚ) : ℤ := max (Int.log 2 x) (-1022)

/-- The distance of the doubles around a positive number. -/
def ulp (x : ℚ) : ℚ := 2 ^ (exponent x - 52)

/-- The double nearest to a positive number, with no bound on the exponent from above. -/
def magnitude (x : ℚ) : ℚ := nearestEven (x / ulp x) * ulp x

private theorem ulp_pos (x : ℚ) : 0 < ulp x := zpow_pos two_pos _

private theorem pow_exponent (x : ℚ) (n : ℕ) : (2 : ℚ) ^ (exponent x - 52 + n) = 2 ^ n * ulp x := by
  rw [ulp, zpow_add₀ two_ne_zero, zpow_natCast, mul_comm]

private theorem magnitude_le {x : ℚ} {n : ℕ} (below : x ≤ 2 ^ n * ulp x) :
    magnitude x ≤ 2 ^ n * ulp x := by
  have scaled : x / ulp x ≤ ((2 ^ n : ℤ) : ℚ) := by
    rw [div_le_iff₀ (ulp_pos x)]
    push_cast
    exact below
  have nearest := nearestEven_mono scaled
  rw [nearestEven_intCast] at nearest
  have cast : (nearestEven (x / ulp x) : ℚ) ≤ 2 ^ n := by exact_mod_cast nearest
  exact mul_le_mul_of_nonneg_right cast (ulp_pos x).le

private theorem le_magnitude {x : ℚ} {n : ℕ} (above : 2 ^ n * ulp x ≤ x) :
    2 ^ n * ulp x ≤ magnitude x := by
  have scaled : ((2 ^ n : ℤ) : ℚ) ≤ x / ulp x := by
    rw [le_div_iff₀ (ulp_pos x)]
    push_cast
    exact above
  have nearest := nearestEven_mono scaled
  rw [nearestEven_intCast] at nearest
  have cast : (2 : ℚ) ^ n ≤ nearestEven (x / ulp x) := by exact_mod_cast nearest
  exact mul_le_mul_of_nonneg_right cast (ulp_pos x).le

theorem magnitude_nonneg {x : ℚ} (nonneg : 0 ≤ x) : 0 ≤ magnitude x := by
  have scaled : ((0 : ℤ) : ℚ) ≤ x / ulp x := by
    rw [Int.cast_zero]
    exact div_nonneg nonneg (ulp_pos x).le
  have nearest := nearestEven_mono scaled
  rw [nearestEven_intCast] at nearest
  exact mul_nonneg (by exact_mod_cast nearest) (ulp_pos x).le

/-- Numbers of one binade are rounded on one grid; the power of two between two binades is on the
grids of both. -/
theorem magnitude_mono {x y : ℚ} (nonneg : 0 ≤ x) (ordered : x ≤ y) :
    magnitude x ≤ magnitude y := by
  rcases nonneg.eq_or_lt with rfl | positive
  · have zero : magnitude 0 = 0 := by
      have none : nearestEven 0 = 0 := nearestEven_intCast 0
      rw [magnitude, zero_div, none, Int.cast_zero, zero_mul]
    rw [zero]
    exact magnitude_nonneg ordered
  have logs : Int.log 2 x ≤ Int.log 2 y := Int.log_mono_right positive ordered
  rcases (max_le_max_right (-1022) logs).lt_or_eq with apart | same
  · have normal : Int.log 2 y = exponent y := by
      unfold exponent
      omega
    have next : exponent x - 52 + 53 ≤ exponent y - 52 + 52 := by
      unfold exponent at *
      omega
    have upper : x ≤ 2 ^ 53 * ulp x := by
      rw [← pow_exponent]
      have below : x < 2 ^ (Int.log 2 x + 1) := Int.lt_zpow_succ_log_self one_lt_two x
      refine below.le.trans (zpow_le_zpow_right₀ one_le_two ?_)
      push_cast
      have : Int.log 2 x ≤ exponent x := le_max_left _ _
      omega
    have lower : 2 ^ 52 * ulp y ≤ y := by
      rw [← pow_exponent, Nat.cast_ofNat, sub_add_cancel, ← normal]
      exact Int.zpow_log_le_self one_lt_two (positive.trans_le ordered)
    calc
      magnitude x ≤ 2 ^ 53 * ulp x := magnitude_le upper
      _ = 2 ^ (exponent x - 52 + 53) := (pow_exponent x 53).symm
      _ ≤ 2 ^ (exponent y - 52 + 52) := zpow_le_zpow_right₀ one_le_two next
      _ = 2 ^ 52 * ulp y := pow_exponent y 52
      _ ≤ magnitude y := le_magnitude lower
  · have grid : ulp x = ulp y := by
      unfold ulp exponent
      rw [same]
    unfold magnitude
    rw [grid]
    have nearest := nearestEven_mono (div_le_div_of_nonneg_right ordered (ulp_pos y).le)
    exact mul_le_mul_of_nonneg_right (by exact_mod_cast nearest) (ulp_pos y).le

def nearest (x : ℚ) : ℚ := if 0 ≤ x then magnitude x else -magnitude (-x)

theorem nearest_mono : Monotone nearest := by
  intro x y ordered
  unfold nearest
  split_ifs with left right right
  · exact magnitude_mono left ordered
  · exact absurd (left.trans ordered) right
  · have above := magnitude_nonneg right
    have below := magnitude_nonneg (x := -x) (by linarith)
    linarith
  · exact neg_le_neg (magnitude_mono (by linarith) (by linarith))

/-- The format of IEEE 754 with 64 bits: to nearest, ties to even, and out of range from `2 ^ 1024`
on. -/
def binary64 : Rounding where
  round x := if |nearest x| < 2 ^ 1024 then .num (nearest x) else .nan
  zero := by decide +kernel
  between := by
    intro x y z a b left right low high
    have number {u c : ℚ}
        (rounded : (if |nearest u| < 2 ^ 1024 then Double.num (nearest u) else .nan) = .num c) :
        |nearest u| < 2 ^ 1024 ∧ nearest u = c := by
      split at rounded
      · rename_i finite
        exact ⟨finite, Double.num.inj rounded⟩
      · cases rounded
    obtain ⟨finite_low, rfl⟩ := number low
    obtain ⟨finite_high, rfl⟩ := number high
    have above := nearest_mono left
    have below := nearest_mono right
    have finite : |nearest y| < 2 ^ 1024 :=
      abs_lt.mpr ⟨(abs_lt.mp finite_low).1.trans_le above, below.trans_lt (abs_lt.mp finite_high).2⟩
    exact ⟨nearest y, if_pos finite, above, below⟩

end Binary64

end RoqSamples.Arith
