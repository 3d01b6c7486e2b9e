/- Arith/TickGrid
   digest: Rounding down and up to the multiples of a positive tick. -/
import Mathlib.Algebra.Order.Floor.Ring
import Mathlib.Algebra.Order.Field.Basic
import Mathlib.Order.Bounds.Basic
import Mathlib.Tactic.Linarith

set_option autoImplicit false
set_option relaxedAutoImplicit false

namespace RoqSamples.Arith.TickGrid

universe u

variable {K : Type u} [Field K] [LinearOrder K] [IsStrictOrderedRing K] [FloorRing K]

def multiples (tick : K) : Set K := {z | ∃ n : ℤ, z = n * tick}

def floorTo (tick x : K) : K := ⌊x / tick⌋ * tick

def ceilTo (tick x : K) : K := ⌈x / tick⌉ * tick

theorem isGreatest_floorTo {tick : K} (pos : 0 < tick) (x : K) :
    IsGreatest {z | z ∈ multiples tick ∧ z ≤ x} (floorTo tick x) := by
  refine ⟨⟨⟨_, rfl⟩, (le_div_iff₀ pos).mp (Int.floor_le _)⟩, ?_⟩
  rintro z ⟨⟨n, rfl⟩, le⟩
  have n_le : n ≤ ⌊x / tick⌋ := Int.le_floor.mpr ((le_div_iff₀ pos).mpr le)
  exact mul_le_mul_of_nonneg_right (Int.cast_le.mpr n_le) pos.le

theorem isLeast_ceilTo {tick : K} (pos : 0 < tick) (x : K) :
    IsLeast {z | z ∈ multiples tick ∧ x ≤ z} (ceilTo tick x) := by
  refine ⟨⟨⟨_, rfl⟩, (div_le_iff₀ pos).mp (Int.le_ceil _)⟩, ?_⟩
  rintro z ⟨⟨n, rfl⟩, le⟩
  have le_n : ⌈x / tick⌉ ≤ n := Int.ceil_le.mpr ((div_le_iff₀ pos).mpr le)
  exact mul_le_mul_of_nonneg_right (Int.cast_le.mpr le_n) pos.le

/-- Rounding moves along with whole ticks. -/
theorem floorTo_add_mul {tick : K} (pos : 0 < tick) (x : K) (n : ℤ) :
    floorTo tick (x + n * tick) = floorTo tick x + n * tick := by
  unfold floorTo
  rw [add_div, mul_div_cancel_right₀ _ pos.ne', Int.floor_add_intCast, Int.cast_add, add_mul]

theorem ceilTo_add_mul {tick : K} (pos : 0 < tick) (x : K) (n : ℤ) :
    ceilTo tick (x + n * tick) = ceilTo tick x + n * tick := by
  unfold ceilTo
  rw [add_div, mul_div_cancel_right₀ _ pos.ne', Int.ceil_add_intCast, Int.cast_add, add_mul]

/-- Rounding away from a price by a margin of more than half a tick, and of one tick at most, leaves
two ticks or three between the results. -/
theorem ceilTo_sub_floorTo {tick margin : K} (low : tick < 2 * margin) (high : margin ≤ tick)
    (x : K) :
    ceilTo tick (x + margin) - floorTo tick (x - margin) = 2 * tick ∨
      ceilTo tick (x + margin) - floorTo tick (x - margin) = 3 * tick := by
  have pos : 0 < tick := by linarith
  have below := (isGreatest_floorTo pos (x - margin)).1.2
  have above := (isLeast_ceilTo pos (x + margin)).1.2
  have floor_near : (x - margin) / tick < ⌊(x - margin) / tick⌋ + 1 := Int.lt_floor_add_one _
  have ceil_near : ⌈(x + margin) / tick⌉ < (x + margin) / tick + 1 := Int.ceil_lt_add_one _
  rw [div_lt_iff₀ pos] at floor_near
  rw [← sub_lt_iff_lt_add, lt_div_iff₀ pos] at ceil_near
  unfold ceilTo floorTo at *
  generalize ⌈(x + margin) / tick⌉ = n at *
  generalize ⌊(x - margin) / tick⌋ = m at *
  have apart : (1 : K) * tick < ((n - m : ℤ) : K) * tick := by
    push_cast
    linarith
  have close : ((n - m : ℤ) : K) * tick < (4 : K) * tick := by
    push_cast
    linarith
  have more : (1 : ℤ) < n - m := by exact_mod_cast lt_of_mul_lt_mul_right apart pos.le
  have less : n - m < (4 : ℤ) := by exact_mod_cast lt_of_mul_lt_mul_right close pos.le
  have ticks (k : ℤ) (same : n - m = k) : (n : K) * tick - m * tick = k * tick := by
    rw [← sub_mul, ← same, Int.cast_sub]
  rcases (show n - m = 2 ∨ n - m = 3 by omega) with two | three
  · exact .inl (by exact_mod_cast ticks 2 two)
  · exact .inr (by exact_mod_cast ticks 3 three)

end RoqSamples.Arith.TickGrid
