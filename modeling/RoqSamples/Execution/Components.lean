/- Execution/Components
   digest: Steps that are made of calls on a smaller system, and what the calls preserve. -/
import RoqSamples.Execution.Runs

set_option autoImplicit false
set_option relaxedAutoImplicit false

namespace RoqSamples.Execution.Components

open RoqSamples.Execution.Runs

universe u v w x

variable {S : Type u} {E : Type v} {T : Type w} {F : Type x}

/-- A run of calls, each of which meets `D`, leads from one state of the smaller system to the
other. -/
def Expands (inner : T → F → Option T) (D : T → F → Prop) (before after : T) : Prop :=
  ∃ fs, run inner before fs = some after ∧ AllSteps inner D before fs

section Rules

variable {next : S → E → Option S} {inner : T → F → Option T} {D : T → F → Prop}

theorem Expands.refl (D : T → F → Prop) (t : T) : Expands inner D t t := ⟨[], rfl, trivial⟩

theorem Expands.single {t t' : T} {f : F} (taken : inner t f = some t') (met : D t f) :
    Expands inner D t t' := by
  refine ⟨[f], run_cons_eq_some.mpr ⟨t', taken, rfl⟩, ?_⟩
  exact (allSteps_cons taken []).mpr ⟨met, trivial⟩

theorem Expands.trans {t₁ t₂ t₃ : T} (first : Expands inner D t₁ t₂)
    (second : Expands inner D t₂ t₃) : Expands inner D t₁ t₃ := by
  obtain ⟨fs, reached, met⟩ := first
  obtain ⟨gs, reached', met'⟩ := second
  refine ⟨fs ++ gs, ?_, allSteps_append.mpr ⟨met, ?_⟩⟩
  · rw [run_append, reached]
    exact reached'
  · intro t there
    cases reached.symm.trans there
    exact met'

/-- What every call preserves, the calls together preserve. -/
theorem Expands.preserves {J : T → Prop}
    (preserved : ∀ t f t', J t → D t f → inner t f = some t' → J t') {t t' : T}
    (expands : Expands inner D t t') (start : J t) : J t' := by
  obtain ⟨fs, reached, met⟩ := expands
  exact (AllSteps.invariant preserved start met).last reached

/-- Under an invariant of the steps that have `C`, a run whose steps all have `C` is a run of the
calls that its steps are made of. -/
theorem run_expands {I : S → Prop} {C : S → E → Prop} (view : S → T)
    (preserved : ∀ s e t, I s → C s e → next s e = some t → I t)
    (expands : ∀ s e t, I s → C s e → next s e = some t → Expands inner D (view s) (view t))
    {s t : S} {es : List E} (start : I s) (met : AllSteps next C s es)
    (reached : run next s es = some t) : Expands inner D (view s) (view t) := by
  induction es generalizing s with
  | nil =>
      cases reached
      exact Expands.refl D _
  | cons e es ih =>
      obtain ⟨m, taken, rest⟩ := run_cons_eq_some.mp reached
      obtain ⟨here, later⟩ := (allSteps_cons taken es).mp met
      have first := expands s e m start here taken
      exact first.trans (ih (preserved s e m start here taken) later rest)

end Rules

end RoqSamples.Execution.Components
