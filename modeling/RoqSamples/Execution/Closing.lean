/- Execution/Closing
   digest: Logs in which every key is closed once, by its last entry, and sums over their keys. -/
import Mathlib.Algebra.BigOperators.Group.List.Basic
import Mathlib.Data.List.Dedup

set_option autoImplicit false
set_option relaxedAutoImplicit false

namespace RoqSamples.Execution.Closing

universe u v

variable {A : Type u} {K : Type v} [DecidableEq K]

/-- An entry that closes its key is the last one of the key, and every key is closed. -/
structure Closed (key : A → K) (closes : A → Bool) (log : List A) : Prop where
  open_before : log.Pairwise fun earlier later => key earlier = key later → closes earlier = false
  closed : ∀ entry ∈ log, ∃ last ∈ log, key last = key entry ∧ closes last = true

def keys (key : A → K) (log : List A) : List K := (log.map key).dedup

/-- The last entry of a key. -/
def last (key : A → K) (log : List A) (k : K) : Option A :=
  (log.filter fun entry => key entry = k).getLast?

variable {key : A → K} {closes : A → Bool} {log : List A}

theorem Closed.last_eq (closed : Closed key closes log) {entry : A} (mem : entry ∈ log)
    (closing : closes entry = true) : last key log (key entry) = some entry := by
  obtain ⟨before, after, rfl⟩ := List.append_of_mem mem
  have nothing_after : after.filter (fun later => key later = key entry) = [] := by
    rw [List.filter_eq_nil_iff]
    intro later there same
    have tail := (List.pairwise_append.mp closed.open_before).2.1
    have still_open := List.rel_of_pairwise_cons tail there (of_decide_eq_true same).symm
    exact Bool.noConfusion (closing.symm.trans still_open)
  simp [last, List.filter_append, nothing_after]

omit [DecidableEq K] in
private theorem Closed.nodup_keys (closed : Closed key closes log) :
    ((log.filter closes).map key).Nodup := by
  rw [List.Nodup, List.pairwise_map, List.pairwise_filter]
  refine closed.open_before.imp ?_
  intro earlier later still_open closing _ same
  exact Bool.noConfusion (closing.symm.trans (still_open same))

/-- The closing entries enumerate the keys. -/
theorem Closed.keys_perm (closed : Closed key closes log) :
    (keys key log).Perm ((log.filter closes).map key) := by
  refine (List.perm_ext_iff_of_nodup (List.nodup_dedup _) closed.nodup_keys).mpr fun k => ?_
  simp only [List.mem_dedup, List.mem_map, List.mem_filter]
  constructor
  · rintro ⟨entry, mem, rfl⟩
    obtain ⟨last, there, same, closing⟩ := closed.closed entry mem
    exact ⟨last, ⟨there, closing⟩, same⟩
  · rintro ⟨entry, ⟨mem, _⟩, rfl⟩
    exact ⟨entry, mem, rfl⟩

/-- A sum over the keys that reads the last entry of each is a sum over the closing entries. -/
theorem Closed.sum_keys {M : Type*} [AddCommMonoid M] (closed : Closed key closes log)
    (f : Option A → M) :
    ((keys key log).map fun k => f (last key log k)).sum =
      ((log.filter closes).map fun entry => f (some entry)).sum := by
  rw [(closed.keys_perm.map _).sum_eq, List.map_map]
  refine congrArg List.sum (List.map_congr_left fun entry mem => ?_)
  obtain ⟨there, closing⟩ := List.mem_filter.mp mem
  simp only [Function.comp, closed.last_eq there closing]

end RoqSamples.Execution.Closing
