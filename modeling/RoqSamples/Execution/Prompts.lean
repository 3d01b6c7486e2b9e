/- Execution/Prompts
   digest: Histories in which every effect comes right after a cause that fits it. -/
import Mathlib.Data.List.Induction
import Mathlib.Data.List.Count

set_option autoImplicit false
set_option relaxedAutoImplicit false

namespace RoqSamples.Execution.Prompts

universe u

variable {M : Type u} {isEffect : M → Bool} {fits : M → M → Prop} {marks : List M}

/-- Every effect of the history comes right after a cause that fits it, so that no cause has two
effects. -/
def Prompted (isEffect : M → Bool) (fits : M → M → Prop) (marks : List M) : Prop :=
  ∀ before effect after, marks = before ++ effect :: after → isEffect effect = true →
    ∃ cause, before.getLast? = some cause ∧ isEffect cause = false ∧ fits cause effect

theorem prompted_nil : Prompted isEffect fits ([] : List M) := by
  intro before effect after split
  have nonempty : before ++ effect :: after ≠ [] := by simp
  exact (nonempty split.symm).elim

theorem prompted_append {mark : M} :
    Prompted isEffect fits (marks ++ [mark]) ↔
      Prompted isEffect fits marks ∧ (isEffect mark = true →
        ∃ cause, marks.getLast? = some cause ∧ isEffect cause = false ∧ fits cause mark) := by
  constructor
  · intro prompted
    refine ⟨?_, prompted marks mark [] rfl⟩
    intro before effect after split
    refine prompted before effect (after ++ [mark]) ?_
    rw [split, List.append_assoc, List.cons_append]
  · rintro ⟨prompted, last⟩ before effect after split
    rcases List.eq_nil_or_concat after with rfl | ⟨between, other, rfl⟩
    · obtain ⟨rfl, same⟩ := List.append_inj' split rfl
      rw [← (List.cons.inj same).1]
      exact last
    · have longer : marks ++ [mark] = before ++ effect :: between ++ [other] := by
        rw [split, List.concat_eq_append, List.append_assoc, List.cons_append]
      obtain ⟨earlier, -⟩ := List.append_inj' longer rfl
      exact prompted before effect between earlier

/-- There are no more effects than causes, and fewer when the last mark is a cause. -/
private theorem count_of_last (prompted : Prompted isEffect fits marks) :
    marks.countP isEffect ≤ marks.countP (fun mark => !isEffect mark) ∧
      ∀ cause, marks.getLast? = some cause → isEffect cause = false →
        marks.countP isEffect < marks.countP (fun mark => !isEffect mark) := by
  induction marks using List.reverseRecOn with
  | nil => exact ⟨Nat.le_refl _, fun cause last => (Option.some_ne_none cause last.symm).elim⟩
  | append_singleton marks mark ih =>
      obtain ⟨earlier, last⟩ := prompted_append.mp prompted
      obtain ⟨few, fewer⟩ := ih earlier
      have effects : (marks ++ [mark]).countP isEffect =
          marks.countP isEffect + if isEffect mark then 1 else 0 := by
        rw [List.countP_append, List.countP_singleton]
      have causes : (marks ++ [mark]).countP (fun mark => !isEffect mark) =
          marks.countP (fun mark => !isEffect mark) + if !isEffect mark then 1 else 0 := by
        rw [List.countP_append, List.countP_singleton]
      cases kind : isEffect mark with
      | true =>
          obtain ⟨cause, before, none, _⟩ := last kind
          have less := fewer cause before none
          rw [if_pos kind] at effects
          refine ⟨by omega, fun other final quiet => ?_⟩
          rw [List.getLast?_append, List.getLast?_singleton, Option.some_or] at final
          cases final
          exact Bool.noConfusion (kind.symm.trans quiet)
      | false =>
          rw [kind, Bool.not_false, if_pos rfl] at causes
          rw [kind, if_neg Bool.false_ne_true] at effects
          exact ⟨by omega, fun _ _ _ => by omega⟩

/-- There are no more effects than causes. -/
theorem Prompted.count (prompted : Prompted isEffect fits marks) :
    marks.countP isEffect ≤ marks.countP (fun mark => !isEffect mark) :=
  (count_of_last prompted).1

end RoqSamples.Execution.Prompts
