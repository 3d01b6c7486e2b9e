/- Execution/Switches
   digest: A set of keys that are switched on and off, and the switch that decides about a key. -/
import Mathlib.Data.Finset.Basic
import Mathlib.Data.List.Induction

set_option autoImplicit false
set_option relaxedAutoImplicit false

namespace RoqSamples.Execution.Switches

universe u

variable {K : Type u} [DecidableEq K]

/-- Put the key into the set or take it out. -/
def switch (keys : Finset K) (s : K × Bool) : Finset K :=
  if s.2 then insert s.1 keys else keys.erase s.1

theorem mem_switch {keys : Finset K} {s : K × Bool} {k : K} :
    k ∈ switch keys s ↔ if s.1 = k then s.2 = true else k ∈ keys := by
  obtain ⟨key, on⟩ := s
  by_cases same : key = k
  · subst same
    cases on <;> simp [switch]
  · have other : k ≠ key := Ne.symm same
    cases on <;> simp [switch, same, other]

/-- The last switch of a key decides whether it is in the set. -/
theorem mem_foldl_switch (switches : List (K × Bool)) (k : K) :
    k ∈ switches.foldl switch ∅ ↔
      (switches.filter fun s => s.1 = k).getLast?.map Prod.snd = some true := by
  induction switches using List.reverseRecOn with
  | nil => simp
  | append_singleton switches s ih =>
      rw [List.foldl_append, List.foldl_cons, List.foldl_nil, mem_switch, List.filter_append,
        List.getLast?_append]
      by_cases same : s.1 = k
      · simp [same]
      · simp [same, ih]

/-- Every key in the set has been switched on. -/
theorem switched_on_of_mem {switches : List (K × Bool)} {k : K}
    (mem : k ∈ switches.foldl switch ∅) : (k, true) ∈ switches := by
  obtain ⟨⟨key, on⟩, last, rfl⟩ := Option.map_eq_some_iff.mp ((mem_foldl_switch switches k).mp mem)
  have found := List.mem_of_mem_getLast? last
  rw [List.mem_filter] at found
  obtain ⟨there, same⟩ := found
  have here : key = k := of_decide_eq_true same
  rwa [here] at there

end RoqSamples.Execution.Switches
