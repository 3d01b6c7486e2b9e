/- Execution/Runs
   digest: Finite runs of a partial step function, and the rules that carry properties along. -/
import Mathlib.Data.List.Basic
import Mathlib.Data.List.Induction

set_option autoImplicit false
set_option relaxedAutoImplicit false

namespace RoqSamples.Execution.Runs

universe u v

variable {S : Type u} {E : Type v}

/-- Fold a partial step function over a list of events. No result means that some event was not
possible in the state it met. -/
def run (next : S → E → Option S) (s : S) : List E → Option S
  | [] => some s
  | e :: es =>
      match next s e with
      | none => none
      | some t => run next t es

/-- What the steps of a run let an observer see, in order. -/
def trace {O : Type u} (next : S → E → Option S) (observe : S → E → List O) (s : S) :
    List E → List O
  | [] => []
  | e :: es =>
      match next s e with
      | none => []
      | some t => observe s e ++ trace next observe t es

/-- Every step that is taken meets `C`, which reads the state before the step and its event. -/
def AllSteps (next : S → E → Option S) (C : S → E → Prop) (s : S) : List E → Prop
  | [] => True
  | e :: es =>
      match next s e with
      | none => True
      | some t => C s e ∧ AllSteps next C t es

/-- Every event that is met satisfies `C`, also the one that is not possible in the state it
meets. -/
def AllMet (next : S → E → Option S) (C : S → E → Prop) (s : S) : List E → Prop
  | [] => True
  | e :: es =>
      C s e ∧
        match next s e with
        | none => True
        | some t => AllMet next C t es

/-- Every state that is visited, the first and the last included, satisfies `P`. -/
def AllStates (next : S → E → Option S) (P : S → Prop) (s : S) : List E → Prop
  | [] => P s
  | e :: es =>
      P s ∧
        match next s e with
        | none => True
        | some t => AllStates next P t es

section Rules

variable {next : S → E → Option S}

@[simp] theorem run_nil (s : S) : run next s [] = some s := rfl

theorem run_cons {s t : S} {e : E} (taken : next s e = some t) (es : List E) :
    run next s (e :: es) = run next t es := by
  simp only [run, taken]

theorem run_cons_eq_some {s t : S} {e : E} {es : List E} :
    run next s (e :: es) = some t ↔ ∃ m, next s e = some m ∧ run next m es = some t := by
  cases taken : next s e with
  | none => simp [run, taken]
  | some m => simp [run, taken]

theorem run_append (s : S) (es fs : List E) :
    run next s (es ++ fs) = (run next s es).bind fun t => run next t fs := by
  induction es generalizing s with
  | nil => rfl
  | cons e es ih =>
      simp only [List.cons_append, run]
      cases next s e with
      | none => rfl
      | some t => exact ih t

/-- When every event can be taken, every run reaches a state. -/
theorem run_of_total (total : ∀ s e, ∃ t, next s e = some t) (s : S) (es : List E) :
    ∃ t, run next s es = some t := by
  induction es generalizing s with
  | nil => exact ⟨s, rfl⟩
  | cons e es ih =>
      obtain ⟨m, taken⟩ := total s e
      obtain ⟨t, reached⟩ := ih m
      exact ⟨t, run_cons_eq_some.mpr ⟨m, taken, reached⟩⟩

/-- A check that evaluates a run finds the state that the run reaches. -/
theorem reaches_of_any {P : S → Prop} [DecidablePred P] {s : S} {es : List E}
    (checked : (run next s es).any (fun t => decide (P t)) = true) :
    ∃ t, run next s es = some t ∧ P t := by
  obtain ⟨t, reached, holds⟩ := (Option.any_eq_true _ _).mp checked
  exact ⟨t, reached, of_decide_eq_true holds⟩

theorem trace_append {O : Type u} {observe : S → E → List O} {s t : S} {es : List E}
    (reached : run next s es = some t) (fs : List E) :
    trace next observe s (es ++ fs) = trace next observe s es ++ trace next observe t fs := by
  induction es generalizing s with
  | nil =>
      cases reached
      rfl
  | cons e es ih =>
      obtain ⟨m, taken, rest⟩ := run_cons_eq_some.mp reached
      simp only [List.cons_append, trace, taken, List.append_assoc, ih rest]

theorem trace_singleton {O : Type u} {observe : S → E → List O} {s t : S} {e : E}
    (taken : next s e = some t) : trace next observe s [e] = observe s e := by
  simp only [trace, taken, List.append_nil]

theorem allSteps_cons {C : S → E → Prop} {s t : S} {e : E} (taken : next s e = some t)
    (es : List E) : AllSteps next C s (e :: es) ↔ C s e ∧ AllSteps next C t es := by
  simp only [AllSteps, taken]

theorem allSteps_blocked {C : S → E → Prop} {s : S} {e : E} (blocked : next s e = none)
    (es : List E) : AllSteps next C s (e :: es) := by
  simp only [AllSteps, blocked]

theorem allSteps_append {C : S → E → Prop} {s : S} {es fs : List E} :
    AllSteps next C s (es ++ fs) ↔
      AllSteps next C s es ∧ ∀ t, run next s es = some t → AllSteps next C t fs := by
  induction es generalizing s with
  | nil =>
      constructor
      · intro steps
        refine ⟨trivial, fun t reached => ?_⟩
        cases reached
        exact steps
      · rintro ⟨_, steps⟩
        exact steps s rfl
  | cons e es ih =>
      rw [List.cons_append]
      cases taken : next s e with
      | none =>
          refine iff_of_true (allSteps_blocked taken _) ⟨allSteps_blocked taken es, ?_⟩
          intro t reached
          rw [run, taken] at reached
          cases reached
      | some m =>
          rw [allSteps_cons taken, allSteps_cons taken, ih, run_cons taken, and_assoc]

/-- The step that is taken right after a prefix of a run. -/
theorem AllSteps.after {C : S → E → Prop} {s t u : S} {es fs : List E} {e : E}
    (steps : AllSteps next C s (es ++ e :: fs)) (reached : run next s es = some t)
    (taken : next t e = some u) : C t e :=
  ((allSteps_cons taken fs).mp ((allSteps_append.mp steps).2 t reached)).1

/-- A property of all steps is one of every step that some prefix of the run leads to. -/
theorem allSteps_of_prefix {C : S → E → Prop} {s : S} {es : List E}
    (each : ∀ p e t u, p ++ [e] <+: es → run next s p = some t → next t e = some u → C t e) :
    AllSteps next C s es := by
  induction es generalizing s with
  | nil => trivial
  | cons e es ih =>
      cases taken : next s e with
      | none => exact allSteps_blocked taken es
      | some t =>
          have here := each [] e s t (List.prefix_append [e] es) rfl taken
          have later : AllSteps next C t es := by
            apply ih
            intro p f m u front reached taken'
            have longer : e :: p ++ [f] <+: e :: es := List.cons_prefix_cons.mpr ⟨rfl, front⟩
            exact each (e :: p) f m u longer (run_cons_eq_some.mpr ⟨t, taken, reached⟩) taken'
          exact (allSteps_cons taken es).mpr ⟨here, later⟩

/-- What every event of the list has, every step of the run has. -/
theorem allSteps_of_forall {C : S → E → Prop} {es : List E} (all : ∀ s, ∀ e ∈ es, C s e)
    (s : S) : AllSteps next C s es := by
  induction es generalizing s with
  | nil => trivial
  | cons e es ih =>
      cases taken : next s e with
      | none => exact allSteps_blocked taken es
      | some t =>
          have later := ih (fun s e mem => all s e (List.mem_cons_of_mem _ mem)) t
          exact (allSteps_cons taken es).mpr ⟨all s e List.mem_cons_self, later⟩

instance decidableAllSteps {C : S → E → Prop} [∀ s e, Decidable (C s e)] :
    ∀ (s : S) (es : List E), Decidable (AllSteps next C s es)
  | _, [] => isTrue trivial
  | s, e :: es =>
      match taken : next s e with
      | none => isTrue (allSteps_blocked taken es)
      | some t =>
          have _ := decidableAllSteps (C := C) t es
          decidable_of_iff (C s e ∧ AllSteps next C t es) (allSteps_cons taken es).symm

theorem AllMet.here {C : S → E → Prop} {s : S} {e : E} {es : List E}
    (met : AllMet next C s (e :: es)) : C s e := met.1

theorem allMet_cons {C : S → E → Prop} {s t : S} {e : E} (taken : next s e = some t)
    (es : List E) : AllMet next C s (e :: es) ↔ C s e ∧ AllMet next C t es := by
  simp only [AllMet, taken]

theorem allMet_blocked {C : S → E → Prop} {s : S} {e : E} (blocked : next s e = none)
    (es : List E) : AllMet next C s (e :: es) ↔ C s e := by
  simp only [AllMet, blocked, and_true]

/-- The event that is met right after a prefix of a run. -/
theorem AllMet.after {C : S → E → Prop} {s t : S} {es fs : List E} {e : E}
    (met : AllMet next C s (es ++ e :: fs)) (reached : run next s es = some t) : C t e := by
  induction es generalizing s with
  | nil =>
      cases reached
      exact met.here
  | cons f es ih =>
      obtain ⟨m, taken, rest⟩ := run_cons_eq_some.mp reached
      rw [List.cons_append, allMet_cons taken] at met
      exact ih met.2 rest

instance decidableAllMet {C : S → E → Prop} [∀ s e, Decidable (C s e)] :
    ∀ (s : S) (es : List E), Decidable (AllMet next C s es)
  | _, [] => isTrue trivial
  | s, e :: es =>
      match taken : next s e with
      | none => decidable_of_iff (C s e) (allMet_blocked taken es).symm
      | some t =>
          have _ := decidableAllMet (C := C) t es
          decidable_of_iff (C s e ∧ AllMet next C t es) (allMet_cons taken es).symm

/-- What an invariant and the property `C` guarantee about an event that is met holds of all events
that are met in a run where they all have `C`. -/
theorem AllMet.guarantee {C G : S → E → Prop} {I : S → Prop}
    (preserved : ∀ s e t, I s → C s e → next s e = some t → I t)
    (guaranteed : ∀ s e, I s → C s e → G s e)
    {s : S} {es : List E} (start : I s) (met : AllMet next C s es) : AllMet next G s es := by
  induction es generalizing s with
  | nil => trivial
  | cons e es ih =>
      cases taken : next s e with
      | none =>
          rw [allMet_blocked taken] at met ⊢
          exact guaranteed s e start met
      | some t =>
          rw [allMet_cons taken] at met ⊢
          exact ⟨guaranteed s e start met.1, ih (preserved s e t start met.1 taken) met.2⟩

theorem AllSteps.mono {C D : S → E → Prop} (imp : ∀ s e, C s e → D s e) {s : S} {es : List E}
    (steps : AllSteps next C s es) : AllSteps next D s es := by
  induction es generalizing s with
  | nil => trivial
  | cons e es ih =>
      cases taken : next s e with
      | none => exact allSteps_blocked taken es
      | some t =>
          rw [allSteps_cons taken] at steps ⊢
          exact ⟨imp s e steps.1, ih steps.2⟩

theorem allSteps_and {C D : S → E → Prop} {s : S} {es : List E} :
    AllSteps next (fun s e => C s e ∧ D s e) s es ↔
      AllSteps next C s es ∧ AllSteps next D s es := by
  constructor
  · intro both
    exact ⟨both.mono fun _ _ h => h.1, both.mono fun _ _ h => h.2⟩
  · rintro ⟨left, right⟩
    induction es generalizing s with
    | nil => trivial
    | cons e es ih =>
        cases taken : next s e with
        | none => exact allSteps_blocked taken es
        | some t =>
            rw [allSteps_cons taken] at left right ⊢
            exact ⟨⟨left.1, right.1⟩, ih left.2 right.2⟩

theorem AllStates.here {P : S → Prop} {s : S} {es : List E} (states : AllStates next P s es) :
    P s := by
  cases es with
  | nil => exact states
  | cons e es => exact states.1

theorem allStates_cons {P : S → Prop} {s t : S} {e : E} (taken : next s e = some t)
    (es : List E) : AllStates next P s (e :: es) ↔ P s ∧ AllStates next P t es := by
  simp only [AllStates, taken]

theorem allStates_blocked {P : S → Prop} {s : S} {e : E} (blocked : next s e = none)
    (es : List E) : AllStates next P s (e :: es) ↔ P s := by
  simp only [AllStates, blocked, and_true]

theorem AllStates.mono {P Q : S → Prop} (imp : ∀ s, P s → Q s) {s : S} {es : List E}
    (states : AllStates next P s es) : AllStates next Q s es := by
  induction es generalizing s with
  | nil => exact imp s states
  | cons e es ih =>
      cases taken : next s e with
      | none =>
          rw [allStates_blocked taken] at states ⊢
          exact imp s states
      | some t =>
          rw [allStates_cons taken] at states ⊢
          exact ⟨imp s states.1, ih states.2⟩

/-- The last state of a run is one of the states it visits. -/
theorem AllStates.last {P : S → Prop} {s t : S} {es : List E}
    (states : AllStates next P s es) (reached : run next s es = some t) : P t := by
  induction es generalizing s with
  | nil =>
      cases reached
      exact states
  | cons e es ih =>
      obtain ⟨m, taken, rest⟩ := run_cons_eq_some.mp reached
      rw [allStates_cons taken] at states
      exact ih states.2 rest

/-- The invariant rule: an invariant that every step meeting `C` preserves holds in every state
of a run whose steps all meet `C`. -/
theorem AllSteps.invariant {C : S → E → Prop} {I : S → Prop}
    (preserved : ∀ s e t, I s → C s e → next s e = some t → I t)
    {s : S} {es : List E} (start : I s) (steps : AllSteps next C s es) :
    AllStates next I s es := by
  induction es generalizing s with
  | nil => exact start
  | cons e es ih =>
      cases taken : next s e with
      | none => exact (allStates_blocked taken es).mpr start
      | some t =>
          rw [allSteps_cons taken] at steps
          exact (allStates_cons taken es).mpr
            ⟨start, ih (preserved s e t start steps.1 taken) steps.2⟩

/-- What an invariant and the step property `C` guarantee about a step holds of all steps of a run
whose steps all meet `C`. -/
theorem AllSteps.guarantee {C G : S → E → Prop} {I : S → Prop}
    (preserved : ∀ s e t, I s → C s e → next s e = some t → I t)
    (guaranteed : ∀ s e t, I s → C s e → next s e = some t → G s e)
    {s : S} {es : List E} (start : I s) (steps : AllSteps next C s es) :
    AllSteps next G s es := by
  induction es generalizing s with
  | nil => trivial
  | cons e es ih =>
      cases taken : next s e with
      | none => exact allSteps_blocked taken es
      | some t =>
          rw [allSteps_cons taken] at steps ⊢
          exact ⟨guaranteed s e t start steps.1 taken,
            ih (preserved s e t start steps.1 taken) steps.2⟩

/-- An invariant of every step holds in the state that a run reaches. -/
theorem run_invariant {I : S → Prop} (preserved : ∀ s e t, I s → next s e = some t → I t)
    {s t : S} {es : List E} (start : I s) (reached : run next s es = some t) : I t := by
  induction es generalizing s with
  | nil =>
      cases reached
      exact start
  | cons e es ih =>
      obtain ⟨m, taken, rest⟩ := run_cons_eq_some.mp reached
      exact ih (preserved s e m start taken) rest

/-- An invariant that also reads the events so far holds in the state that a run reaches. -/
theorem run_history {I : List E → S → Prop} {s t : S} {es : List E} (start : I [] s)
    (preserved : ∀ es e m t, run next s es = some m → I es m → next m e = some t →
      I (es ++ [e]) t)
    (reached : run next s es = some t) : I es t := by
  induction es using List.reverseRecOn generalizing t with
  | nil =>
      cases reached
      exact start
  | append_singleton es e ih =>
      rw [run_append] at reached
      obtain ⟨m, before, last⟩ := Option.bind_eq_some_iff.mp reached
      obtain ⟨t', taken, rest⟩ := run_cons_eq_some.mp last
      cases rest
      exact preserved es e m t before (ih before) taken

/-- The simulation rule: a relation that every step of the first run carries over to a step of the
second one relates the states that both runs reach. -/
theorem run_simulation {R : S → S → Prop}
    (forward : ∀ s s' e t, R s s' → next s e = some t → ∃ t', next s' e = some t' ∧ R t t')
    {s s' t : S} {es : List E} (related : R s s') (reached : run next s es = some t) :
    ∃ t', run next s' es = some t' ∧ R t t' := by
  induction es generalizing s s' with
  | nil =>
      cases reached
      exact ⟨s', rfl, related⟩
  | cons e es ih =>
      obtain ⟨m, taken, rest⟩ := run_cons_eq_some.mp reached
      obtain ⟨m', taken', after⟩ := forward s s' e m related taken
      obtain ⟨t', rest', last⟩ := ih after rest
      exact ⟨t', run_cons_eq_some.mpr ⟨m', taken', rest'⟩, last⟩

/-- Two step properties that agree wherever the invariant holds agree on whole runs. The
invariant has to survive only the steps that have the second property. -/
theorem allSteps_congr {G C : S → E → Prop} {I : S → Prop}
    (preserved : ∀ s e t, I s → C s e → next s e = some t → I t)
    (agree : ∀ s e t, I s → next s e = some t → (G s e ↔ C s e))
    {s : S} {es : List E} (start : I s) :
    AllSteps next G s es ↔ AllSteps next C s es := by
  induction es generalizing s with
  | nil => exact Iff.rfl
  | cons e es ih =>
      cases taken : next s e with
      | none => exact iff_of_true (allSteps_blocked taken es) (allSteps_blocked taken es)
      | some t =>
          rw [allSteps_cons taken, allSteps_cons taken, agree s e t start taken]
          exact and_congr_right fun c => ih (preserved s e t start c taken)

/-- The same for runs whose steps all meet an assumption `F`. -/
theorem allSteps_congr_of {F G C : S → E → Prop} {I : S → Prop}
    (preserved : ∀ s e t, I s → F s e → C s e → next s e = some t → I t)
    (agree : ∀ s e t, I s → F s e → next s e = some t → (G s e ↔ C s e))
    {s : S} {es : List E} (start : I s) (assumed : AllSteps next F s es) :
    AllSteps next G s es ↔ AllSteps next C s es := by
  have both : AllSteps next (fun s e => F s e ∧ G s e) s es ↔
      AllSteps next (fun s e => F s e ∧ C s e) s es :=
    allSteps_congr
      (fun s e t inv step taken => preserved s e t inv step.1 step.2 taken)
      (fun s e t inv taken => and_congr_right fun assumes => agree s e t inv assumes taken) start
  rw [allSteps_and, allSteps_and] at both
  exact ⟨fun good => (both.mp ⟨assumed, good⟩).2, fun cond => (both.mpr ⟨assumed, cond⟩).2⟩

/-- Under an invariant, a state property that a step meets afterwards exactly when it met `C`
before holds in every state of a run exactly when every step of the run meets `C`. -/
theorem allStates_iff_allSteps {C : S → E → Prop} {P I : S → Prop}
    (preserved : ∀ s e t, I s → next s e = some t → I t)
    (exact_step : ∀ s e t, I s → P s → next s e = some t → (P t ↔ C s e))
    {s : S} {es : List E} (start : I s) (here : P s) :
    AllStates next P s es ↔ AllSteps next C s es := by
  induction es generalizing s with
  | nil => exact iff_of_true here trivial
  | cons e es ih =>
      cases taken : next s e with
      | none =>
          exact iff_of_true ((allStates_blocked taken es).mpr here) (allSteps_blocked taken es)
      | some t =>
          have after := preserved s e t start taken
          rw [allStates_cons taken, allSteps_cons taken, ← exact_step s e t start here taken]
          constructor
          · rintro ⟨_, states⟩
            exact ⟨states.here, (ih after states.here).mp states⟩
          · rintro ⟨there, steps⟩
            exact ⟨here, (ih after there).mpr steps⟩

end Rules

end RoqSamples.Execution.Runs
