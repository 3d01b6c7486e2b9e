/- Execution/CachedFlag
   digest: A flag that caches a property of the state, and the steps that leave it stale. -/
import RoqSamples.Execution.Runs

set_option autoImplicit false
set_option relaxedAutoImplicit false

namespace RoqSamples.Execution.CachedFlag

open RoqSamples.Execution.Runs

universe u v

variable {S : Type u} {E : Type v}

/-- The flag tells whether the property holds now. -/
def Fresh (flag : S → Bool) (property : S → Prop) (s : S) : Prop := flag s = true ↔ property s

variable {flag : S → Bool} {property : S → Prop}

/-- A step that touches neither the flag nor the property keeps the flag fresh. -/
theorem Fresh.of_same {s t : S} (fresh : Fresh flag property s) (flag_same : flag t = flag s)
    (property_same : property t ↔ property s) : Fresh flag property t := by
  rw [Fresh, flag_same, property_same]
  exact fresh

/-- When every step but those that break the property behind the flag's back keeps the flag fresh,
the flag is fresh throughout a run exactly when it is down whenever such a step is taken. -/
theorem allStates_fresh_iff {next : S → E → Option S} {breaks : S → E → Prop}
    (keeps : ∀ s e t, next s e = some t → ¬ breaks s e → Fresh flag property s →
      Fresh flag property t)
    (behind : ∀ s e t, next s e = some t → breaks s e → flag t = flag s ∧ ¬ property t)
    {s : S} {es : List E} (start : Fresh flag property s) :
    AllStates next (Fresh flag property) s es ↔
      AllSteps next (fun s e => breaks s e → flag s = false) s es := by
  refine allStates_iff_allSteps (I := fun _ => True) (fun _ _ _ _ _ => trivial) ?_ trivial start
  intro s e t _ fresh taken
  by_cases breaking : breaks s e
  · obtain ⟨same, broken⟩ := behind s e t taken breaking
    have down : flag s = false ↔ ¬ flag t = true := by rw [same, Bool.not_eq_true]
    have settled : Fresh flag property t ↔ ¬ flag t = true :=
      ⟨fun fresh_after up => broken (fresh_after.mp up), fun low => iff_of_false low broken⟩
    rw [settled, ← down]
    exact ⟨fun low _ => low, fun low => low breaking⟩
  · exact iff_of_true (keeps s e t taken breaking fresh) fun breaks => (breaking breaks).elim

end RoqSamples.Execution.CachedFlag
