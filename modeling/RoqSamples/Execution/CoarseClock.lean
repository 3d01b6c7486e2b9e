/- Execution/CoarseClock
   digest: Times that are scheduled a period after what a coarse clock told, and how many of them
     lie close together. -/
import Mathlib.Algebra.Order.Ring.Defs
import Mathlib.Data.Nat.Cast.Defs
import Mathlib.Tactic.Linarith
import Mathlib.Tactic.Ring

set_option autoImplicit false
set_option relaxedAutoImplicit false

namespace RoqSamples.Execution.CoarseClock

universe u

variable {T : Type u} [CommRing T] [LinearOrder T] [IsStrictOrderedRing T]

/-- A clock that is less than a period late, and that tells a period after what it told before as
soon as that time has come. -/
structure Coarse (read : T → T) (period : T) : Prop where
  late : ∀ a, a < read a + period
  tells : ∀ a b, read a + period ≤ b → read a + period ≤ read b

/-- Every time lies a period after what the clock told at the ones before. -/
def Paced (read : T → T) (period : T) (times : List T) : Prop :=
  times.Pairwise fun a b => read a + period ≤ b

omit [IsStrictOrderedRing T] in
theorem paced_cons {read : T → T} {period a : T} {times : List T} :
    Paced read period (a :: times) ↔
      (∀ b ∈ times, read a + period ≤ b) ∧ Paced read period times := List.pairwise_cons

variable {read : T → T} {period : T}

/-- The periods add up along the times. -/
private theorem Paced.reaches (coarse : Coarse read period) {a b : T} {times : List T}
    (paced : Paced read period (a :: b :: times)) :
    ∃ last ∈ b :: times, read a + (times.length + 1) * period ≤ last := by
  induction times generalizing a b with
  | nil =>
      have first := (paced_cons.mp paced).1 b List.mem_cons_self
      refine ⟨b, List.mem_cons_self, ?_⟩
      rw [List.length_nil, Nat.cast_zero, zero_add, one_mul]
      exact first
  | cons c times ih =>
      obtain ⟨after, rest⟩ := paced_cons.mp paced
      obtain ⟨last, mem, far⟩ := ih rest
      have told := coarse.tells a b (after b List.mem_cons_self)
      refine ⟨last, List.mem_cons_of_mem b mem, ?_⟩
      rw [List.length_cons, Nat.cast_succ]
      linarith

/-- Paced times fit into a span as often as the period does, and twice more. -/
theorem Paced.length_le (coarse : Coarse read period) (positive : 0 < period) {times : List T}
    (paced : Paced read period times) (some_time : times ≠ []) :
    ∃ first ∈ times, ∃ last ∈ times, times.length * period ≤ last - first + 2 * period := by
  cases times with
  | nil => exact (some_time rfl).elim
  | cons a times =>
      cases times with
      | nil =>
          refine ⟨a, List.mem_cons_self, a, List.mem_cons_self, ?_⟩
          rw [List.length_singleton, Nat.cast_one]
          linarith
      | cons b times =>
          obtain ⟨last, mem, far⟩ := paced.reaches coarse
          have late := coarse.late a
          refine ⟨a, List.mem_cons_self, last, List.mem_cons_of_mem a mem, ?_⟩
          rw [List.length_cons, List.length_cons, Nat.cast_succ, Nat.cast_succ]
          linarith

omit [IsStrictOrderedRing T] in
theorem Paced.filter (p : T → Bool) {times : List T} (paced : Paced read period times) :
    Paced read period (times.filter p) := List.Pairwise.filter p paced

end RoqSamples.Execution.CoarseClock
