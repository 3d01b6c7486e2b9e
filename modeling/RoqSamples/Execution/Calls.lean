/- Execution/Calls
   digest: Calls that change a state and return or stop early, loops over them, and finite maps. -/
import Mathlib.Data.List.AList

set_option autoImplicit false
set_option relaxedAutoImplicit false

namespace RoqSamples.Execution.Calls

universe u v w x

variable {X : Type u} {S : Type v} {K : Type w}

/-- Go on with `following` once a call has returned. A call that has stopped keeps its reason. -/
def andThen (result : S × Option X) (following : S → S × Option X) : S × Option X :=
  match result.2 with
  | none => following result.1
  | some reason => (result.1, some reason)

/-- Call `f` for one key after the other, until one of the calls stops. -/
def forEach (f : K → S → S × Option X) : List K → S → S × Option X
  | [], s => (s, none)
  | k :: ks, s => andThen (f k s) (forEach f ks)

section Loops

variable {f : K → S → S × Option X}

theorem andThen_of_returned {result : S × Option X} (returned : result.2 = none)
    (following : S → S × Option X) : andThen result following = following result.1 := by
  simp only [andThen, returned]

theorem andThen_of_stopped {result : S × Option X} {reason : X} (stopped : result.2 = some reason)
    (following : S → S × Option X) : andThen result following = (result.1, some reason) := by
  simp only [andThen, stopped]

theorem andThen_returned {result : S × Option X} {following : S → S × Option X}
    (returned : (andThen result following).2 = none) :
    result.2 = none ∧ andThen result following = following result.1 := by
  cases outcome : result.2 with
  | none => exact ⟨rfl, andThen_of_returned outcome following⟩
  | some reason =>
      rw [andThen_of_stopped outcome] at returned
      cases returned

theorem forEach_singleton (k : K) (s : S) : forEach f [k] s = f k s := by
  cases outcome : (f k s).2 with
  | none =>
      rw [forEach, andThen_of_returned outcome]
      exact Prod.ext rfl outcome.symm
  | some reason =>
      rw [forEach, andThen_of_stopped outcome]
      exact Prod.ext rfl outcome.symm

/-- What every call preserves, the loop preserves, whether it returns or stops. -/
theorem forEach_invariant {I : S → Prop} {ks : List K}
    (preserved : ∀ k ∈ ks, ∀ s, I s → I (f k s).1) {s : S} (start : I s) :
    I (forEach f ks s).1 := by
  induction ks generalizing s with
  | nil => exact start
  | cons k ks ih =>
      have first := preserved k List.mem_cons_self s start
      cases outcome : (f k s).2 with
      | none =>
          rw [forEach, andThen_of_returned outcome]
          exact ih (fun k mem => preserved k (List.mem_cons_of_mem _ mem)) first
      | some reason =>
          rw [forEach, andThen_of_stopped outcome]
          exact first

/-- A loop that stops has been stopped by one of its calls, in a state that has the invariant. -/
theorem forEach_stopped {I : S → Prop} {ks : List K}
    (preserved : ∀ k ∈ ks, ∀ s, I s → I (f k s).1) {s : S} (start : I s) {reason : X}
    (stopped : (forEach f ks s).2 = some reason) :
    ∃ k ∈ ks, ∃ t, I t ∧ (f k t).2 = some reason := by
  induction ks generalizing s with
  | nil => cases stopped
  | cons k ks ih =>
      have first := preserved k List.mem_cons_self s start
      cases outcome : (f k s).2 with
      | none =>
          rw [forEach, andThen_of_returned outcome] at stopped
          obtain ⟨j, mem, t, holds, last⟩ :=
            ih (fun k mem => preserved k (List.mem_cons_of_mem _ mem)) first stopped
          exact ⟨j, List.mem_cons_of_mem _ mem, t, holds, last⟩
      | some other =>
          rw [forEach, andThen_of_stopped outcome] at stopped
          exact ⟨k, List.mem_cons_self, s, start, outcome.trans stopped⟩

/-- A loop that returns has made one call for every key: what the call does to the value of its
own key has happened to the keys of the list, and the other values are as before. -/
theorem forEach_each {V : Type x} {r : S → K → Option V} {T : V → V → Prop} {ks : List K}
    (nodup : ks.Nodup)
    (own : ∀ k ∈ ks, ∀ s v, (f k s).2 = none → r s k = some v →
      ∃ v', r (f k s).1 k = some v' ∧ T v v')
    (others : ∀ k s j, j ≠ k → r (f k s).1 j = r s j) {s : S}
    (returned : (forEach f ks s).2 = none) {k : K} {v : V} (found : r s k = some v) :
    (k ∈ ks → ∃ v', r (forEach f ks s).1 k = some v' ∧ T v v') ∧
      (k ∉ ks → r (forEach f ks s).1 k = some v) := by
  induction ks generalizing s v with
  | nil => exact ⟨nofun, fun _ => found⟩
  | cons j js ih =>
      obtain ⟨first, same⟩ := andThen_returned returned
      obtain ⟨fresh, rest⟩ := List.nodup_cons.mp nodup
      rw [forEach, same] at returned ⊢
      have tail {u : V} (found : r (f j s).1 k = some u) :=
        ih rest (fun k mem => own k (List.mem_cons_of_mem _ mem)) returned found
      by_cases here : k = j
      · subst here
        obtain ⟨u, found', changed⟩ := own k List.mem_cons_self s v first found
        have kept := (tail found').2 fresh
        exact ⟨fun _ => ⟨u, kept, changed⟩, fun absent => (absent List.mem_cons_self).elim⟩
      · have found' := (others j s k here).trans found
        constructor
        · intro mem
          exact (tail found').1 ((List.mem_cons.mp mem).resolve_left here)
        · intro absent
          exact (tail found').2 fun mem => absent (List.mem_cons_of_mem _ mem)

end Loops

section Maps

/-- A finite map. Its order says nothing. -/
abbrev Map (K : Type w) (V : Type x) := AList fun _ : K => V

variable {V : Type x} [DecidableEq K]

theorem mem_of_lookup {k : K} {v : V} {m : Map K V} (found : m.lookup k = some v) : k ∈ m :=
  AList.lookup_isSome.mp (by rw [found]; rfl)

theorem exists_lookup {k : K} {m : Map K V} (mem : k ∈ m) : ∃ v, m.lookup k = some v :=
  Option.isSome_iff_exists.mp (AList.lookup_isSome.mpr mem)

theorem lookup_empty_ne {k : K} {v : V} : (∅ : Map K V).lookup k ≠ some v := by
  rw [AList.lookup_empty]
  exact Option.some_ne_none v ∘ Eq.symm

/-- Insert a key; a key that is there keeps its value. -/
def emplace (k : K) (v : V) (m : Map K V) : Map K V := if k ∈ m then m else m.insert k v

theorem lookup_emplace_of_fresh {k : K} {m : Map K V} (fresh : k ∉ m) (v : V) :
    (emplace k v m).lookup k = some v := by
  rw [emplace, if_neg fresh, AList.lookup_insert]

theorem lookup_emplace_of_ne {j k : K} (ne : j ≠ k) (v : V) (m : Map K V) :
    (emplace k v m).lookup j = m.lookup j := by
  unfold emplace
  split
  · rfl
  · exact AList.lookup_insert_ne ne

theorem lookup_emplace_of_some {j : K} {u : V} {m : Map K V} (found : m.lookup j = some u)
    (k : K) (v : V) : (emplace k v m).lookup j = some u := by
  unfold emplace
  split
  · exact found
  · rename_i fresh
    have ne : j ≠ k := by
      rintro rfl
      rw [AList.lookup_eq_none.mpr fresh] at found
      cases found
    exact (AList.lookup_insert_ne ne).trans found

/-- What is found was there before, or it is new. -/
theorem lookup_emplace_cases {j k : K} {u v : V} {m : Map K V}
    (found : (emplace k v m).lookup j = some u) : m.lookup j = some u ∨ j = k ∧ u = v := by
  by_cases same : j = k
  · subst same
    unfold emplace at found
    split at found
    · exact .inl found
    · rw [AList.lookup_insert] at found
      exact .inr ⟨rfl, (Option.some.inj found).symm⟩
  · exact .inl ((lookup_emplace_of_ne same v m).symm.trans found)

theorem mem_emplace {j k : K} {v : V} {m : Map K V} : j ∈ emplace k v m ↔ j = k ∨ j ∈ m := by
  unfold emplace
  split
  · rename_i present
    constructor
    · exact .inr
    · rintro (rfl | mem)
      · exact present
      · exact mem
  · exact AList.mem_insert m

end Maps

end RoqSamples.Execution.Calls
