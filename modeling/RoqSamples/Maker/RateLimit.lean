/- Maker/RateLimit
   digest: The limiter keeps its limit until a call finds the history full and its front exactly
     one period old. -/
import RoqSamples.Execution.Runs
import RoqSamples.Execution.SlidingWindow
import RoqSamples.Maker.Quote
import Mathlib.Algebra.Order.Group.Int

set_option autoImplicit false
set_option relaxedAutoImplicit false

namespace RoqSamples.Maker.RateLimit

open RoqSamples.Execution.Runs
open RoqSamples.Execution.SlidingWindow

/-- A callback that does not throw; it sends a request, but has no part in the history. -/
structure Callback where
  run : Shared → Shared
  history : ∀ shared, (run shared).history = shared.history

/-- One call of `rate_limit`. -/
structure Call where
  now : Int
  callback : Callback

/-- The call, and whether the limiter lets it through. -/
def rateLimit (shared : Shared) (call : Call) : Shared × Bool :=
  match Shared.rateLimit (shared, ()) call.now
      fun state => ((call.callback.run state.1, state.2), .ok ()) with
  | ((shared, ()), .ok passed) => (shared, passed)
  | ((shared, ()), .error _) => (shared, false)

def next (shared : Shared) (call : Call) : Option Shared := some (rateLimit shared call).1

/-- The times of the calls that the limiter lets through. -/
def accepted (shared : Shared) (calls : List Call) : List Int :=
  trace next (fun shared call => if (rateLimit shared call).2 then [call.now] else []) shared calls

def Ordered (calls : List Call) : Prop :=
  calls.Pairwise fun call later => call.now ≤ later.now

/-- The history is sorted and within the limit. -/
def Within (shared : Shared) : Prop :=
  shared.history.Pairwise (· ≤ ·) ∧ shared.history.length ≤ requestLimit

/-- The limiter does what it is for in a run from the empty history. -/
structure Limited (calls : List Call) : Prop where
  within : AllStates next Within {} calls
  spans : Spans requestLimit monitorPeriod (accepted {} calls)

/-- The history is full, and its front is exactly one period old. -/
def FullAtPeriod (shared : Shared) (call : Call) : Prop :=
  shared.history.length = requestLimit ∧ call.now - shared.history.headD 0 = monitorPeriod

instance (shared : Shared) : Decidable (Within shared) :=
  inferInstanceAs (Decidable (_ ∧ _))

instance (shared : Shared) (call : Call) : Decidable (FullAtPeriod shared call) :=
  inferInstanceAs (Decidable (_ ∧ _))

private theorem rateLimit_blocked {shared : Shared} {call : Call}
    (blocked : shared.isBlocked call.now = true) : rateLimit shared call = (shared, false) := by
  simp [rateLimit, Shared.rateLimit, blocked]

private theorem rateLimit_free {shared : Shared} {call : Call}
    (free : shared.isBlocked call.now = false) :
    rateLimit shared call = ((call.callback.run shared).record call.now, true) := by
  simp [rateLimit, Shared.rateLimit, free]

private theorem record_history (shared : Shared) (call : Call) :
    ((call.callback.run shared).record call.now).history =
      slide monitorPeriod shared.history call.now := by
  rw [← call.callback.history shared]
  rfl

/-- A full history that does not block drops its front, unless that is exactly one period old. -/
private theorem slide_within {shared : Shared} {call : Call}
    (free : shared.isBlocked call.now = false) (room : shared.history.length ≤ requestLimit)
    (unequal : ¬ FullAtPeriod shared call) :
    (slide monitorPeriod shared.history call.now).length ≤ requestLimit := by
  have dropped := (List.dropWhile_suffix (l := shared.history)
    (p := fun time => decide (time < call.now - monitorPeriod))).length_le
  simp only [slide, List.length_append, List.length_singleton]
  rcases Nat.lt_or_eq_of_le room with short | full
  · omega
  · cases list : shared.history with
    | nil => simp [list, requestLimit] at full
    | cons front rest =>
        have old : front < call.now - monitorPeriod := by
          simp only [Shared.isBlocked, FullAtPeriod, list, List.headD_cons] at free unequal full
          simp only [full, true_and, decide_eq_false_iff_not] at free unequal
          omega
        have tail := (List.dropWhile_suffix (l := rest)
          (p := fun time => decide (time < call.now - monitorPeriod))).length_le
        simp only [list, List.length_cons] at full
        rw [List.dropWhile_cons_of_pos (by simpa using old)]
        omega

/-- One more entry than the limit: the front is not older than the period, so nothing leaves. -/
private theorem slide_full {shared : Shared} {call : Call} (full : FullAtPeriod shared call) :
    ¬ (slide monitorPeriod shared.history call.now).length ≤ requestLimit := by
  obtain ⟨size, age⟩ := full
  cases list : shared.history with
  | nil => simp [list, requestLimit] at size
  | cons front rest =>
      rw [list] at size age
      have young : ¬ front < call.now - monitorPeriod := by
        simp only [List.headD_cons] at age
        omega
      rw [slide, List.dropWhile_cons_of_neg (by simpa using young), List.length_append, size,
        List.length_singleton]
      omega

private theorem free_at_period {shared : Shared} {call : Call} (full : FullAtPeriod shared call) :
    shared.isBlocked call.now = false := by
  refine decide_eq_false fun blocked => ?_
  exact blocked.2.not_ge full.2.ge

/-- The limiter in the middle of a run: the calls that were let through, as far as they have left
the history, and the calls to come. -/
private structure Running (left : List Int) (shared : Shared) (calls : List Call) : Prop where
  log : Log monitorPeriod left shared.history
  room : shared.history.length ≤ requestLimit
  spans : Spans requestLimit monitorPeriod (left ++ shared.history)
  ordered : Ordered calls
  latest : ∀ x ∈ left ++ shared.history, ∀ call ∈ calls, x ≤ call.now

private theorem Running.within {left : List Int} {shared : Shared} {calls : List Call}
    (running : Running left shared calls) : Within shared :=
  ⟨(List.pairwise_append.mp running.log.sorted).2.1, running.room⟩

/-- A call that is blocked changes nothing. -/
private theorem Running.blocked {left : List Int} {shared : Shared} {call : Call}
    {calls : List Call} (running : Running left shared (call :: calls)) :
    Running left shared calls where
  log := running.log
  room := running.room
  spans := running.spans
  ordered := (List.pairwise_cons.mp running.ordered).2
  latest := fun x mem later inside => running.latest x mem later (List.mem_cons_of_mem _ inside)

/-- A call that is let through, unless it finds the front exactly one period old. -/
private theorem Running.accept {left : List Int} {shared : Shared} {call : Call}
    {calls : List Call} (running : Running left shared (call :: calls))
    (free : shared.isBlocked call.now = false) (unequal : ¬ FullAtPeriod shared call) :
    Running (left ++ leaving monitorPeriod shared.history call.now)
      ((call.callback.run shared).record call.now) calls := by
  have latest : ∀ x ∈ left ++ shared.history, x ≤ call.now := fun x mem =>
    running.latest x mem call List.mem_cons_self
  have all : (left ++ leaving monitorPeriod shared.history call.now) ++
      slide monitorPeriod shared.history call.now = (left ++ shared.history) ++ [call.now] := by
    rw [List.append_assoc, leaving_append_slide, List.append_assoc]
  have log := running.log.slide latest
  have room := slide_within free running.room unequal
  have order := List.pairwise_cons.mp running.ordered
  refine ⟨?_, ?_, ?_, order.2, ?_⟩
  · rw [record_history]
    exact log
  · rw [record_history]
    exact room
  · rw [record_history, all]
    exact running.spans.accept log all latest room
  · rw [record_history, all]
    intro x mem later inside
    rcases List.mem_append.mp mem with earlier | single
    · exact running.latest x earlier later (List.mem_cons_of_mem _ inside)
    · rw [List.mem_singleton.mp single]
      exact order.1 later inside

private theorem accepted_cons (shared : Shared) (call : Call) (calls : List Call) :
    accepted shared (call :: calls) =
      (if (rateLimit shared call).2 then [call.now] else []) ++
        accepted (rateLimit shared call).1 calls := rfl

/-- From any point of a run, the limiter keeps its limit exactly as long as no call finds the front
of a full history exactly one period old. -/
private theorem running_iff {left : List Int} {shared : Shared} {calls : List Call}
    (running : Running left shared calls) :
    (AllStates next Within shared calls ∧
        Spans requestLimit monitorPeriod (left ++ shared.history ++ accepted shared calls)) ↔
      AllSteps next (fun shared call => ¬ FullAtPeriod shared call) shared calls := by
  induction calls generalizing left shared with
  | nil =>
      refine iff_of_true ⟨running.within, ?_⟩ trivial
      simpa [accepted, trace] using running.spans
  | cons call calls ih =>
      have taken : next shared call = some (rateLimit shared call).1 := rfl
      rw [allStates_cons taken, allSteps_cons taken, accepted_cons]
      cases free : shared.isBlocked call.now with
      | true =>
          have unequal : ¬ FullAtPeriod shared call := fun full =>
            Bool.noConfusion (free.symm.trans (free_at_period full))
          rw [rateLimit_blocked free]
          simpa [running.within, unequal] using ih running.blocked
      | false =>
          rw [rateLimit_free free]
          by_cases full : FullAtPeriod shared call
          · refine iff_of_false (fun limited => ?_) fun steps => steps.1 full
            have room := limited.1.2.here.2
            rw [record_history] at room
            exact slide_full full room
          · have after := ih (running.accept free full)
            have entries : left ++ leaving monitorPeriod shared.history call.now ++
                ((call.callback.run shared).record call.now).history =
                left ++ shared.history ++ [call.now] := by
              rw [record_history, List.append_assoc, leaving_append_slide, List.append_assoc]
            rw [entries, List.append_assoc (left ++ shared.history)] at after
            simpa [running.within, full] using after

/-- For calls in the order of their times the limiter does what it is for exactly when no call
finds the history full and its front exactly one period old. -/
theorem limited_iff {calls : List Call} (ordered : Ordered calls) :
    Limited calls ↔ AllSteps next (fun shared call => ¬ FullAtPeriod shared call) {} calls := by
  have running : Running [] {} calls :=
    ⟨log_nil _, Nat.zero_le _, fun _ _ _ none => (by simp at none), ordered,
      fun _ mem => by simp at mem⟩
  rw [← running_iff running]
  exact ⟨fun limited => ⟨limited.within, limited.spans⟩, fun both => ⟨both.1, both.2⟩⟩

/-- What holds in any run: the history is the end of what was let through, and the rest is older
than the period. -/
private structure Tracked (calls : List Call) (shared : Shared) : Prop where
  split : ∃ left, accepted {} calls = left ++ shared.history ∧
    Log monitorPeriod left shared.history
  latest : ∀ x ∈ accepted {} calls, ∃ call ∈ calls, x = call.now

private theorem accepted_snoc {calls : List Call} {shared : Shared}
    (reached : run next {} calls = some shared) (call : Call) :
    accepted {} (calls ++ [call]) =
      accepted {} calls ++ if (rateLimit shared call).2 then [call.now] else [] := by
  have taken : next shared call = some (rateLimit shared call).1 := rfl
  rw [accepted, trace_append reached, trace_singleton taken]
  rfl

private theorem tracked_run {calls : List Call} {shared : Shared} (ordered : Ordered calls)
    (reached : run next {} calls = some shared) : Tracked calls shared := by
  refine run_history (I := fun calls shared => Ordered calls → Tracked calls shared)
    (fun _ => ⟨⟨[], rfl, log_nil _⟩, fun _ mem => (List.not_mem_nil mem).elim⟩) ?_ reached ordered
  intro calls call shared after reached ih taken ordered
  obtain ⟨earlier, _, before⟩ := List.pairwise_append.mp ordered
  obtain ⟨⟨left, all, log⟩, told⟩ := ih earlier
  cases taken
  have grown := accepted_snoc reached call
  cases free : shared.isBlocked call.now with
  | true =>
      rw [rateLimit_blocked free] at grown ⊢
      rw [if_neg Bool.false_ne_true, List.append_nil] at grown
      refine ⟨⟨left, grown.trans all, log⟩, fun x mem => ?_⟩
      rw [grown] at mem
      obtain ⟨first, inside, same⟩ := told x mem
      exact ⟨first, List.mem_append_left _ inside, same⟩
  | false =>
      rw [rateLimit_free free] at grown ⊢
      rw [if_pos rfl] at grown
      have latest : ∀ x ∈ left ++ shared.history, x ≤ call.now := by
        intro x mem
        rw [← all] at mem
        obtain ⟨first, inside, rfl⟩ := told x mem
        exact before first inside call (List.mem_singleton_self call)
      refine ⟨⟨left ++ leaving monitorPeriod shared.history call.now, ?_, ?_⟩, fun x mem => ?_⟩
      · rw [grown, all, record_history, List.append_assoc, List.append_assoc,
          leaving_append_slide]
      · rw [record_history]
        exact log.slide latest
      · rw [grown] at mem
        rcases List.mem_append.mp mem with old | new
        · obtain ⟨first, inside, same⟩ := told x old
          exact ⟨first, List.mem_append_left _ inside, same⟩
        · exact ⟨call, List.mem_append_right _ (List.mem_singleton_self call),
            List.mem_singleton.mp new⟩

/-- The limiter blocks when its history is full of recent times. -/
private theorem isBlocked_iff {shared : Shared} (now : Int)
    (sorted : shared.history.Pairwise (· ≤ ·)) :
    shared.isBlocked now = true ↔ shared.history.length = requestLimit ∧
      recent monitorPeriod now shared.history = shared.history.length := by
  rw [Shared.isBlocked, decide_eq_true_eq]
  refine and_congr_right fun full => ?_
  cases list : shared.history with
  | nil => simp [list, requestLimit] at full
  | cons front rest =>
      rw [list] at sorted
      exact (recent_eq_length sorted).symm

private theorem refused_iff (shared : Shared) (call : Call) :
    (rateLimit shared call).2 = false ↔ shared.isBlocked call.now = true := by
  cases free : shared.isBlocked call.now with
  | true => simp [rateLimit_blocked free]
  | false => simp [rateLimit_free free]

/-- The limiter is not stricter than it has to be: after any calls in the order of their times, it
refuses a call only when REQUEST_LIMIT calls that it has let through are less than MONITOR_PERIOD
old; and as long as no call has found the history full and its front exactly one period old, it
refuses every such call. -/
theorem refuses_exactly (calls : List Call) (call : Call) (ordered : Ordered (calls ++ [call]))
    (shared : Shared) (reached : run next {} calls = some shared) :
    ((rateLimit shared call).2 = false →
        requestLimit ≤ recent monitorPeriod call.now (accepted {} calls)) ∧
      (AllSteps next (fun shared call => ¬ FullAtPeriod shared call) {} calls →
        ((rateLimit shared call).2 = false ↔
          requestLimit ≤ recent monitorPeriod call.now (accepted {} calls))) := by
  obtain ⟨earlier, _, before⟩ := List.pairwise_append.mp ordered
  obtain ⟨⟨left, all, log⟩, told⟩ := tracked_run earlier reached
  have latest : ∀ y ∈ shared.history, y ≤ call.now := by
    intro y mem
    obtain ⟨first, inside, rfl⟩ := told y (all ▸ List.mem_append_right left mem)
    exact before first inside call (List.mem_singleton_self call)
  have sorted := (List.pairwise_append.mp log.sorted).2.1
  have blocks := isBlocked_iff call.now sorted
  rw [refused_iff, all, log.recent latest, blocks]
  constructor
  · rintro ⟨full, young⟩
    rw [young, full]
  · intro steps
    have room : shared.history.length ≤ requestLimit :=
      ((limited_iff earlier).mpr steps).within.last reached |>.2
    have few : recent monitorPeriod call.now shared.history ≤ shared.history.length :=
      List.countP_le_length
    constructor
    · rintro ⟨full, young⟩
      rw [young, full]
    · intro many
      omega

section Examples

private def callsAt (times : List Int) : List Call :=
  times.map fun now => ⟨now, id, fun _ => rfl⟩

private theorem calls_ordered {times : List Int} (sorted : times.Pairwise (· ≤ ·)) :
    Ordered (callsAt times) :=
  List.pairwise_map.mpr sorted

/-- Ten requests at once, one that is blocked, and one after the period. -/
theorem limited_after_period :
    Limited (callsAt (List.replicate 10 0 ++ [1, monitorPeriod + 1])) := by
  have ordered : Ordered (callsAt (List.replicate 10 0 ++ [1, monitorPeriod + 1])) :=
    calls_ordered (by decide)
  exact (limited_iff ordered).mpr (by decide +kernel)

/-- The eleventh call within a second is refused. -/
theorem refuses_exactly_eleventh : ∃ shared,
    run next {} (callsAt (List.replicate 10 0)) = some shared ∧
      ((rateLimit shared ⟨1, id, fun _ => rfl⟩).2 = false ↔
        requestLimit ≤ recent monitorPeriod 1 (accepted {} (callsAt (List.replicate 10 0)))) := by
  have ordered : Ordered (callsAt (List.replicate 10 0 ++ [1])) := calls_ordered (by decide)
  obtain ⟨shared, reached⟩ := Option.isSome_iff_exists.mp
    (show (run next {} (callsAt (List.replicate 10 0))).isSome = true by decide +kernel)
  exact ⟨shared, reached, (refuses_exactly _ _ ordered shared reached).2 (by decide +kernel)⟩

/-- Ten requests at once, and eleven that come exactly one period later. -/
private def bursts : List Call :=
  callsAt (List.replicate 10 0 ++ List.replicate 11 monitorPeriod)

/-- The second burst is let through as a whole. -/
theorem burst_at_period : ∃ calls, Ordered calls ∧ ¬ AllStates next Within {} calls ∧
    ¬ Spans requestLimit monitorPeriod (accepted {} calls) := by
  refine ⟨bursts, calls_ordered (by decide), fun within => ?_, fun spans => ?_⟩
  · obtain ⟨t, reached, exceeds⟩ : ∃ t, run next {} bursts = some t ∧ ¬ Within t :=
      reaches_of_any (by decide +kernel)
    exact exceeds (within.last reached)
  · have at_once := spans 10 monitorPeriod monitorPeriod (by decide +kernel) (by decide +kernel)
    exact absurd at_once (by decide)

end Examples

end RoqSamples.Maker.RateLimit
