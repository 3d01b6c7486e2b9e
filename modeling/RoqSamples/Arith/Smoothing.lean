/- Arith/Smoothing
   digest: Exponential smoothing: how fast it forgets where it started and comes to where the values
     are. -/
import Mathlib.Algebra.Order.Ring.Defs
import Mathlib.Data.List.Induction
import Mathlib.Tactic.Linarith
import Mathlib.Tactic.Ring

set_option autoImplicit false
set_option relaxedAutoImplicit false

namespace RoqSamples.Arith.Smoothing

universe u

section Memory

variable {R : Type u} [CommRing R]

/-- The average after some values, each blended into it with the weight `a`. -/
def smooth (a start : R) (xs : List R) : R :=
  xs.foldl (fun y x => a * x + (1 - a) * y) start

@[simp] theorem smooth_nil (a start : R) : smooth a start [] = start := rfl

theorem smooth_append (a start : R) (xs : List R) (x : R) :
    smooth a start (xs ++ [x]) = a * x + (1 - a) * smooth a start xs := by
  unfold smooth
  rw [List.foldl_append]
  rfl

/-- The share that the start has in the average. -/
def share (a : R) (xs : List R) : R := (1 - a) ^ xs.length

theorem share_append (a : R) (xs : List R) (x : R) :
    share a (xs ++ [x]) = (1 - a) * share a xs := by
  unfold share
  rw [List.length_append, List.length_singleton, pow_succ']

/-- Of two starts nothing but the share of their difference is left. -/
theorem smooth_sub (a y z : R) (xs : List R) :
    smooth a y xs - smooth a z xs = share a xs * (y - z) := by
  induction xs using List.reverseRecOn with
  | nil => simp [share]
  | append_singleton xs x ih =>
      have blended : smooth a y (xs ++ [x]) - smooth a z (xs ++ [x]) =
          (1 - a) * (smooth a y xs - smooth a z xs) := by
        rw [smooth_append, smooth_append]
        ring
      rw [blended, ih, share_append]
      ring

end Memory

section Bounds

variable {R : Type u} [CommRing R] [LinearOrder R] [IsStrictOrderedRing R] {a low high : R}

/-- The average of the start and of a value above all others, with the share of the start. -/
theorem smooth_le (nonneg : 0 ≤ a) (le_one : a ≤ 1) (start : R) {xs : List R}
    (below : ∀ x ∈ xs, x ≤ high) :
    smooth a start xs ≤ share a xs * start + (1 - share a xs) * high := by
  induction xs using List.reverseRecOn with
  | nil => simp [share]
  | append_singleton xs x ih =>
      have earlier := ih fun y mem => below y (List.mem_append_left _ mem)
      have last := below x (List.mem_append_right _ (List.mem_singleton_self x))
      have old := mul_le_mul_of_nonneg_left earlier (sub_nonneg.mpr le_one)
      have new := mul_le_mul_of_nonneg_left last nonneg
      rw [smooth_append, share_append]
      calc a * x + (1 - a) * smooth a start xs
          ≤ a * high + (1 - a) * (share a xs * start + (1 - share a xs) * high) :=
            add_le_add new old
        _ = (1 - a) * share a xs * start + (1 - (1 - a) * share a xs) * high := by ring

theorem le_smooth (nonneg : 0 ≤ a) (le_one : a ≤ 1) (start : R) {xs : List R}
    (above : ∀ x ∈ xs, low ≤ x) :
    share a xs * start + (1 - share a xs) * low ≤ smooth a start xs := by
  induction xs using List.reverseRecOn with
  | nil => simp [share]
  | append_singleton xs x ih =>
      have earlier := ih fun y mem => above y (List.mem_append_left _ mem)
      have last := above x (List.mem_append_right _ (List.mem_singleton_self x))
      have old := mul_le_mul_of_nonneg_left earlier (sub_nonneg.mpr le_one)
      have new := mul_le_mul_of_nonneg_left last nonneg
      rw [smooth_append, share_append]
      calc (1 - a) * share a xs * start + (1 - (1 - a) * share a xs) * low
          = a * low + (1 - a) * (share a xs * start + (1 - share a xs) * low) := by ring
        _ ≤ a * x + (1 - a) * smooth a start xs := add_le_add new old

end Bounds

end RoqSamples.Arith.Smoothing
