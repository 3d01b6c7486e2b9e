/- Execution/KeyedStore
   digest: A map that gives every key a value of its own, and what the values have seen. -/
import RoqSamples.Execution.Calls
import Mathlib.Data.List.Induction

set_option autoImplicit false
set_option relaxedAutoImplicit false

namespace RoqSamples.Execution.KeyedStore

open RoqSamples.Execution.Calls (Map)

universe u v w

variable {K : Type u} {E : Type v} {B : Type w}

/-- An event belongs to a key; the first event of a key creates the value that all of them
update. -/
structure Keyed (K : Type u) (E : Type v) (B : Type w) where
  key : E → K
  create : E → B
  update : B → E → B

namespace Keyed

variable (s : Keyed K E B)

/-- A value of its own for the events of one key. -/
def replay : List E → Option B
  | [] => none
  | e :: es => some ((e :: es).foldl s.update (s.create e))

theorem replay_append (es : List E) (e : E) :
    s.replay (es ++ [e]) = some (s.update ((s.replay es).getD (s.create e)) e) := by
  cases es with
  | nil => rfl
  | cons first rest =>
      rw [List.cons_append, replay, ← List.cons_append, List.foldl_append]
      rfl

variable [DecidableEq K]

/-- The value that an event meets. -/
def value (m : Map K B) (e : E) : B := (m.lookup (s.key e)).getD (s.create e)

def absorb (m : Map K B) (e : E) : Map K B := m.insert (s.key e) (s.update (s.value m e) e)

/-- The events of a key, in order. -/
def events (es : List E) (k : K) : List E := es.filter fun e => s.key e = k

theorem lookup_absorb_same (m : Map K B) (e : E) :
    (s.absorb m e).lookup (s.key e) = some (s.update (s.value m e) e) :=
  AList.lookup_insert m

theorem lookup_absorb_ne {m : Map K B} {e : E} {k : K} (other : s.key e ≠ k) :
    (s.absorb m e).lookup k = m.lookup k :=
  AList.lookup_insert_ne other.symm

/-- Each key has the value that its own events make. -/
theorem lookup_foldl (es : List E) (k : K) :
    (es.foldl s.absorb ∅).lookup k = s.replay (s.events es k) := by
  induction es using List.reverseRecOn with
  | nil => exact AList.lookup_empty k
  | append_singleton es e ih =>
      rw [List.foldl_append, List.foldl_cons, List.foldl_nil, events, List.filter_append]
      by_cases same : s.key e = k
      · subst same
        rw [lookup_absorb_same, List.filter_singleton]
        simp only [decide_true, cond_true]
        rw [replay_append, value, ih]
        rfl
      · rw [lookup_absorb_ne s same, ih, List.filter_singleton]
        simp [same, events]

end Keyed

end RoqSamples.Execution.KeyedStore
