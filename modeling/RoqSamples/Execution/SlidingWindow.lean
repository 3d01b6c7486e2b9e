/- Execution/SlidingWindow
   digest: Accepted times that leave a window once they are too old, and what a bound on the window
     says about the times. -/
import Mathlib.Algebra.Order.Group.Defs
import Mathlib.Algebra.Order.Group.Unbundled.Basic
import Mathlib.Data.List.Basic
import Mathlib.Data.List.TakeWhile
import Mathlib.Order.Lattice

set_option autoImplicit false
set_option relaxedAutoImplicit false

namespace RoqSamples.Execution.SlidingWindow

universe u

variable {T : Type u} [AddCommGroup T] [LinearOrder T] [IsOrderedAddMonoid T]

/-- Any `limit + 1` consecutive times span at least the period. -/
def Spans (limit : Nat) (period : T) (times : List T) : Prop :=
  ∀ i first last, times[i]? = some first → times[i + limit]? = some last → period ≤ last - first

/-- The times that have left the window are older than the period. -/
structure Log (period : T) (left window : List T) : Prop where
  sorted : (left ++ window).Pairwise (· ≤ ·)
  older : ∀ x ∈ left, ∃ y ∈ window, period < y - x

omit [IsOrderedAddMonoid T] in
theorem log_nil (period : T) : Log period [] [] :=
  ⟨.nil, fun _ mem => by cases mem⟩

/-- The window after a time has been accepted. -/
def slide (period : T) (window : List T) (now : T) : List T :=
  window.dropWhile (fun time => decide (time < now - period)) ++ [now]

/-- What leaves the window when a time is accepted. -/
def leaving (period : T) (window : List T) (now : T) : List T :=
  window.takeWhile fun time => decide (time < now - period)

omit [IsOrderedAddMonoid T] in
theorem leaving_append_slide (period : T) (window : List T) (now : T) :
    leaving period window now ++ slide period window now = window ++ [now] := by
  rw [leaving, slide, ← List.append_assoc, List.takeWhile_append_dropWhile]

/-- Accepting a time that is not before the others keeps the log. -/
theorem Log.slide {period now : T} {left window : List T} (log : Log period left window)
    (latest : ∀ x ∈ left ++ window, x ≤ now) :
    Log period (left ++ leaving period window now) (slide period window now) := by
  have last : now ∈ SlidingWindow.slide period window now := by
    simp [SlidingWindow.slide]
  refine ⟨?_, fun x mem => ⟨now, last, ?_⟩⟩
  · rw [List.append_assoc, leaving_append_slide, ← List.append_assoc]
    refine List.pairwise_append.mpr ⟨log.sorted, List.pairwise_singleton _ _, ?_⟩
    intro x mem y single
    rw [List.mem_singleton.mp single]
    exact latest x mem
  · rcases List.mem_append.mp mem with old | fresh
    · obtain ⟨y, inside, older⟩ := log.older x old
      have before := latest y (List.mem_append_right left inside)
      exact older.trans_le (sub_le_sub_right before x)
    · unfold leaving at fresh
      have early := List.mem_takeWhile_imp fresh
      exact lt_sub_comm.mp (by simpa using early)

/-- A window of at most `limit` times holds less than any `limit + 1` consecutive ones. -/
theorem Spans.accept {limit : Nat} {period now : T} {times left window : List T}
    (spans : Spans limit period times) (log : Log period left window)
    (all : left ++ window = times ++ [now]) (latest : ∀ x ∈ times, x ≤ now)
    (small : window.length ≤ limit) : Spans limit period (times ++ [now]) := by
  have lengths := congrArg List.length all
  simp only [List.length_append, List.length_singleton] at lengths
  intro i first last at_first at_last
  rcases Nat.lt_trichotomy (i + limit) times.length with inside | new | outside
  · rw [List.getElem?_append_left inside] at at_last
    rw [List.getElem?_append_left (by omega)] at at_first
    exact spans i first last at_first at_last
  · -- the last time is the new one, so the first one has left the window
    have gone : i < left.length := by omega
    rw [new, List.getElem?_concat_length] at at_last
    cases at_last
    rw [← all, List.getElem?_append_left gone] at at_first
    obtain ⟨y, mem, older⟩ := log.older first (List.mem_of_getElem? at_first)
    have inside : y ∈ times ++ [now] := all ▸ List.mem_append_right left mem
    rcases List.mem_append.mp inside with earlier | single
    · exact (older.trans_le (sub_le_sub_right (latest y earlier) first)).le
    · rw [List.mem_singleton.mp single] at older
      exact older.le
  · have beyond : (times ++ [now]).length ≤ i + limit := by
      simp only [List.length_append, List.length_singleton]
      omega
    rw [List.getElem?_eq_none beyond] at at_last
    cases at_last

/-- How many of the times are less than a period before `now`. -/
def recent (period now : T) (times : List T) : Nat :=
  times.countP fun time => decide (now - time < period)

/-- What has left the window is not recent any more. -/
theorem Log.recent {period now : T} {left window : List T} (log : Log period left window)
    (latest : ∀ y ∈ window, y ≤ now) :
    SlidingWindow.recent period now (left ++ window) =
      SlidingWindow.recent period now window := by
  have gone : left.countP (fun time => decide (now - time < period)) = 0 := by
    rw [List.countP_eq_zero]
    intro x mem
    obtain ⟨y, inside, older⟩ := log.older x mem
    have age := older.trans_le (sub_le_sub_right (latest y inside) x)
    simpa using age.le
  rw [SlidingWindow.recent, List.countP_append, gone, Nat.zero_add]
  rfl

/-- The first time of a window is the oldest: when it is recent, they all are. -/
theorem recent_eq_length {period now front : T} {rest : List T}
    (sorted : (front :: rest).Pairwise (· ≤ ·)) :
    recent period now (front :: rest) = (front :: rest).length ↔ now - front < period := by
  rw [recent, List.countP_eq_length]
  constructor
  · intro all
    simpa using all front List.mem_cons_self
  · intro young x mem
    have later : front ≤ x := by
      rcases List.mem_cons.mp mem with rfl | inside
      · exact le_refl x
      · exact (List.pairwise_cons.mp sorted).1 x inside
    simpa using (sub_le_sub_left later now).trans_lt young

end RoqSamples.Execution.SlidingWindow
