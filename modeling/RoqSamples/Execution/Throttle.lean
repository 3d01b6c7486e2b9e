/- Execution/Throttle
   digest: Something done on a clock tick, but not before a period has passed since it was last. -/
import Mathlib.Algebra.Order.Group.Defs
import Mathlib.Algebra.Order.Group.Unbundled.Basic
import Mathlib.Data.List.Induction

set_option autoImplicit false
set_option relaxedAutoImplicit false

namespace RoqSamples.Execution.Throttle

universe u

variable {T : Type u}

section Definitions

variable [Add T] (due : T → T → Bool) (period : T)

/-- The next time at which it is due, after a tick. -/
def tick (next now : T) : T := if due next now then now + period else next

/-- The ticks at which it is done. -/
def firings (next : T) : List T → List T
  | [] => []
  | now :: ticks =>
      if due next now then now :: firings (now + period) ticks else firings next ticks

/-- The next time at which it is due, after some ticks. -/
def ticked (next : T) (ticks : List T) : T := ticks.foldl (tick due period) next

variable {due period}

theorem firings_append (next : T) (ticks more : List T) :
    firings due period next (ticks ++ more) =
      firings due period next ticks ++ firings due period (ticked due period next ticks) more := by
  induction ticks generalizing next with
  | nil => rfl
  | cons now ticks ih =>
      rw [List.cons_append, firings, firings, ticked, List.foldl_cons, tick]
      split
      · rw [ih, List.cons_append]
        rfl
      · rw [ih]
        rfl

end Definitions

section Pacing

variable [AddCommGroup T] [LinearOrder T] [IsOrderedAddMonoid T]

/-- The comparison with the next time at which something is due: it may or may not be due at
exactly that time. -/
structure Due (due : T → T → Bool) : Prop where
  reached : ∀ next now, due next now = true → next ≤ now
  passed : ∀ next now, next < now → due next now = true

variable {due : T → T → Bool} {period : T}

/-- Nothing is done before it is due. -/
theorem le_of_mem_firings (lawful : Due due) (positive : 0 ≤ period) {next time : T}
    {ticks : List T} (mem : time ∈ firings due period next ticks) : next ≤ time := by
  induction ticks generalizing next with
  | nil => exact (List.not_mem_nil mem).elim
  | cons now ticks ih =>
      rw [firings] at mem
      split at mem
      · rename_i fires
        have here := lawful.reached next now fires
        rcases List.mem_cons.mp mem with same | later
        · rw [same]
          exact here
        · have there := ih later
          exact here.trans ((le_add_of_nonneg_right positive).trans there)
      · exact ih mem

/-- It is not done twice within a period, whatever the clock tells. -/
theorem firings_paced (lawful : Due due) (positive : 0 ≤ period) (next : T) (ticks : List T) :
    (firings due period next ticks).Pairwise fun a b => a + period ≤ b := by
  induction ticks generalizing next with
  | nil => exact .nil
  | cons now ticks ih =>
      rw [firings]
      split
      · refine List.pairwise_cons.mpr ⟨?_, ih (now + period)⟩
        intro time mem
        exact le_of_mem_firings lawful positive mem
      · exact ih next

end Pacing

end RoqSamples.Execution.Throttle
