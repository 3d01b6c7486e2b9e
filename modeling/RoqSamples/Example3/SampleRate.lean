/- Example3/SampleRate
   digest: The model is sampled as often as sample_freq allows exactly for periods of whole
     seconds, because the next sample counts from the second of the last one. -/
import RoqSamples.Execution.CoarseClock
import RoqSamples.Execution.Runs
import RoqSamples.Example3.WorkingOrder
import Mathlib.Algebra.Order.Field.Rat
import Mathlib.Data.Rat.Cast.Order
import Mathlib.Tactic.FieldSimp

set_option autoImplicit false
set_option relaxedAutoImplicit false

namespace RoqSamples.Example3.SampleRate

open RoqSamples.Client
open RoqSamples.Execution.CoarseClock
open RoqSamples.Execution.Runs
open RoqSamples.Example3.Strategy (nanosecondsPerSecond)

variable {Book Update : Type} (mbp : MarketByPrice Book Update)

def next [Utils] (s : Strategy Book) (e : Event Update) : Option (Strategy Book) :=
  match s.handle mbp e with
  | .error _ => none
  | .ok (t, _) => some t

/-- The time of the timer, in nanoseconds within 64 bits, if it comes to `update_model`. -/
def sampled (s : Strategy Book) : Event Update → List Int
  | .timer now _ => if s.nextSample ≤ now ∧ s.nextSample ≠ 0 then [now] else []
  | .ready | .message _ _ | .orderAck _ => []

/-- The times at which a strategy comes to `update_model`. -/
def samples [Utils] (settings : Settings) (es : List (Event Update)) : List Int :=
  trace (next mbp) sampled (Strategy.new mbp settings) es

/-- The times of the timers. -/
def timers (es : List (Event Update)) : List Int :=
  es.filterMap fun e =>
    match e with
    | .timer now _ => some now
    | .ready | .message _ _ | .orderAck _ => none

/-- A closed interval holds at most two samples more than its length has periods. -/
def SampledAtMost (sampleFreq : Int) (times : List Int) : Prop :=
  ∀ start length : ℚ, 0 ≤ length →
    (times.filter fun now : Int => decide (start ≤ now ∧ now ≤ start + length)).length ≤
      length / sampleFreq + 2

/-- NotConnected does not leave `update_model`. -/
def Completes [Utils] (s : Strategy Book) : Event Update → Prop
  | .timer now connected =>
      s.nextSample ≤ now → s.nextSample ≠ 0 → (s.updateModel connected).result.isOk = true
  | .ready | .message _ _ | .orderAck _ => True

instance [Utils] (s : Strategy Book) : ∀ e : Event Update, Decidable (Completes s e)
  | .timer now connected => inferInstanceAs (Decidable (s.nextSample ≤ now →
      s.nextSample ≠ 0 → (s.updateModel connected).result.isOk = true))
  | .ready | .message _ _ | .orderAck _ => inferInstanceAs (Decidable True)

/-- The time in whole seconds, rounded towards zero. -/
def toSeconds (now : Int) : Int := now.tdiv nanosecondsPerSecond * nanosecondsPerSecond

section Clock

private theorem toSeconds_of_nonneg {now : Int} (after : 0 ≤ now) :
    toSeconds now = now / 10 ^ 9 * 10 ^ 9 := by
  unfold toSeconds
  rw [Int.tdiv_eq_ediv_of_nonneg after]
  rfl

private theorem toSeconds_of_neg {now : Int} (before : now < 0) :
    toSeconds now = -(-now / 10 ^ 9 * 10 ^ 9) := by
  unfold toSeconds
  have mirrored : now.tdiv nanosecondsPerSecond = -(-now).tdiv nanosecondsPerSecond := by
    rw [Int.neg_tdiv, neg_neg]
  rw [mirrored, Int.tdiv_eq_ediv_of_nonneg (by omega), Int.neg_mul]
  rfl

private theorem dvd_toSeconds (now : Int) : nanosecondsPerSecond ∣ toSeconds now :=
  Int.dvd_mul_left _ _

/-- A whole second that has come is not after the second that the clock tells. -/
private theorem le_toSeconds {second now : Int} (whole : nanosecondsPerSecond ∣ second)
    (come : second ≤ now) : second ≤ toSeconds now := by
  obtain ⟨n, rfl⟩ := whole
  have unit : nanosecondsPerSecond = 10 ^ 9 := rfl
  rw [unit] at come ⊢
  by_cases sign : 0 ≤ now
  · rw [toSeconds_of_nonneg sign]
    omega
  · rw [toSeconds_of_neg (by omega)]
    omega

/-- The clock in seconds is coarse for periods of whole seconds. -/
private theorem coarse_toSeconds {period : Int} (positive : 0 < period)
    (whole : nanosecondsPerSecond ∣ period) : Coarse toSeconds period where
  late := by
    intro now
    obtain ⟨n, rfl⟩ := whole
    have unit : nanosecondsPerSecond = 10 ^ 9 := rfl
    rw [unit] at positive ⊢
    by_cases sign : 0 ≤ now
    · rw [toSeconds_of_nonneg sign]
      omega
    · rw [toSeconds_of_neg (by omega)]
      omega
  tells := fun a _ come => le_toSeconds (Int.dvd_add (dvd_toSeconds a) whole) come

end Clock

section Schedule

private theorem tryTrade_schedule [Utils] (s : Strategy Book) (side : Side) (price : Arith.Double)
    (connected : Bool) :
    (s.tryTrade side price connected).strategy.settings = s.settings ∧
      (s.tryTrade side price connected).strategy.nextSample = s.nextSample := by
  unfold Strategy.tryTrade
  dsimp only
  split
  · exact ⟨rfl, rfl⟩
  split
  · split
    · split <;> exact ⟨rfl, rfl⟩
    · exact ⟨rfl, rfl⟩
  split
  · exact ⟨rfl, rfl⟩
  · split <;> exact ⟨rfl, rfl⟩

/-- `update_model` has no part in the schedule. -/
private theorem updateModel_schedule [Utils] (s : Strategy Book) (connected : Bool) :
    (s.updateModel connected).strategy.settings = s.settings ∧
      (s.updateModel connected).strategy.nextSample = s.nextSample := by
  unfold Strategy.updateModel
  split
  · dsimp only
    split
    · exact ⟨rfl, rfl⟩
    · exact tryTrade_schedule _ .buy _ connected
    · exact tryTrade_schedule _ .sell _ connected
  · exact ⟨rfl, rfl⟩

private theorem onTimer_early [Utils] {s : Strategy Book} {now : Int} (early : now < s.nextSample)
    (connected : Bool) : s.onTimer now connected = (s, []) := if_pos early

/-- A timer that is not early schedules the next sample. -/
private theorem onTimer_due [Utils] {s : Strategy Book} {now : Int} {connected : Bool}
    (due : s.nextSample ≤ now)
    (completes : s.nextSample ≠ 0 → (s.updateModel connected).result.isOk = true) :
    (s.onTimer now connected).1.settings = s.settings ∧
      (s.onTimer now connected).1.nextSample = toSeconds now + s.settings.sampleFreq := by
  unfold Strategy.onTimer
  rw [if_neg due.not_gt]
  dsimp only
  by_cases initialized : s.nextSample ≠ 0
  · rw [if_pos initialized]
    have completes := completes initialized
    obtain ⟨settings, _⟩ := updateModel_schedule s connected
    split
    · exact ⟨settings, by rw [settings]; rfl⟩
    · rename_i failed
      rw [failed] at completes
      cases completes
  · rw [if_neg initialized]
    exact ⟨rfl, rfl⟩

/-- Only timers have a part in the schedule. -/
private theorem message_schedule [Utils] {s t : Strategy Book} {source : Nat}
    {message : Message Update} (taken : next mbp s (.message source message) = some t) :
    t.settings = s.settings ∧ t.nextSample = s.nextSample := by
  unfold next at taken
  split at taken
  · cases taken
  · rename_i after effects handled
    cases taken
    obtain ⟨dispatched, passed, same⟩ := ok_of_map handled
    have kept : dispatched.settings = s.settings ∧ dispatched.nextSample = s.nextSample := by
      rcases Strategy.dispatch_cases passed with ⟨_, rfl⟩ | ⟨_, instrument, _, rfl⟩
      · exact ⟨rfl, rfl⟩
      · exact ⟨rfl, rfl⟩
    have reacted : (dispatched.react message).settings = dispatched.settings ∧
        (dispatched.react message).nextSample = dispatched.nextSample := by
      unfold Strategy.react
      split
      · exact ⟨rfl, rfl⟩
      · split <;> exact ⟨rfl, rfl⟩
      · exact ⟨rfl, rfl⟩
    cases same
    exact ⟨reacted.1.trans kept.1, reacted.2.trans kept.2⟩

variable {mbp} in
/-- A step takes no sample before the next one is due, and schedules the one after it a period
later. -/
private theorem step_paced [Utils] {period : Int} (positive : 0 < period)
    (whole : nanosecondsPerSecond ∣ period) {s t : Strategy Book} {e : Event Update}
    (freq : s.settings.sampleFreq = period) (due : nanosecondsPerSecond ∣ s.nextSample)
    (completes : Completes s e) (taken : next mbp s e = some t) :
    t.settings = s.settings ∧ nanosecondsPerSecond ∣ t.nextSample ∧
      s.nextSample ≤ t.nextSample ∧
      (sampled s e = [] ∨ ∃ now, sampled s e = [now] ∧ s.nextSample ≤ now ∧
        t.nextSample = toSeconds now + period) := by
  cases e with
  | ready | orderAck =>
      cases taken
      exact ⟨rfl, due, le_rfl, .inl rfl⟩
  | message source message =>
      obtain ⟨settings, same⟩ := message_schedule mbp taken
      exact ⟨settings, same ▸ due, same.ge, .inl rfl⟩
  | timer now connected =>
      have left : (s.onTimer now connected).1 = t := Option.some.inj taken
      by_cases early : now < s.nextSample
      · rw [onTimer_early early] at left
        cases left
        have unsampled : ¬ (s.nextSample ≤ now ∧ s.nextSample ≠ 0) := by
          intro come
          omega
        exact ⟨rfl, due, le_rfl, .inl (if_neg unsampled)⟩
      · have come : s.nextSample ≤ now := by omega
        obtain ⟨settings, scheduled⟩ := onTimer_due come (completes come)
        rw [left] at settings scheduled
        rw [freq] at scheduled
        have told := le_toSeconds due come
        refine ⟨settings, scheduled ▸ Int.dvd_add (dvd_toSeconds now) whole, by omega, ?_⟩
        by_cases initialized : s.nextSample = 0
        · exact .inl (if_neg fun ⟨_, nonzero⟩ => nonzero initialized)
        · exact .inr ⟨now, if_pos ⟨come, initialized⟩, come, scheduled⟩

variable {mbp} in
/-- Samples of whole seconds follow a schedule: none comes before the next one that is due. -/
private theorem trace_paced [Utils] {period : Int} (positive : 0 < period)
    (whole : nanosecondsPerSecond ∣ period) {s : Strategy Book} {es : List (Event Update)}
    (freq : s.settings.sampleFreq = period) (due : nanosecondsPerSecond ∣ s.nextSample)
    (completes : AllMet (next mbp) Completes s es) :
    (∀ now ∈ trace (next mbp) sampled s es, s.nextSample ≤ now) ∧
      Paced toSeconds period (trace (next mbp) sampled s es) := by
  induction es generalizing s with
  | nil => exact ⟨by simp [trace], .nil⟩
  | cons e es ih =>
      cases taken : next mbp s e with
      | none =>
          rw [trace, taken]
          exact ⟨by simp, .nil⟩
      | some t =>
          obtain ⟨completed, later⟩ := (allMet_cons taken es).mp completes
          obtain ⟨settings, due_later, after, taken_sample⟩ :=
            step_paced positive whole freq due completed taken
          obtain ⟨rest, paced⟩ := ih (settings ▸ freq) due_later later
          rw [trace, taken]
          dsimp only
          rcases taken_sample with none | ⟨now, one, come, scheduled⟩
          · rw [none, List.nil_append]
            exact ⟨fun other mem => after.trans (rest other mem), paced⟩
          · rw [one, List.singleton_append]
            refine ⟨?_, paced_cons.mpr ⟨scheduled ▸ rest, paced⟩⟩
            intro other mem
            rcases List.mem_cons.mp mem with rfl | mem
            · exact come
            · exact after.trans (rest other mem)

private theorem sampledAtMost_of_paced {period : Int} (positive : 0 < period)
    (whole : nanosecondsPerSecond ∣ period) {times : List Int}
    (paced : Paced toSeconds period times) : SampledAtMost period times := by
  intro start length nonneg
  have within := paced.filter fun now : Int => decide (start ≤ now ∧ now ≤ start + length)
  have positive_rat : (0 : ℚ) < period := by exact_mod_cast positive
  rw [div_add' _ _ _ positive_rat.ne', le_div_iff₀ positive_rat]
  by_cases none : times.filter (fun now : Int => decide (start ≤ now ∧ now ≤ start + length)) = []
  · rw [none, List.length_nil, Nat.cast_zero, zero_mul]
    linarith
  · obtain ⟨first, first_mem, last, last_mem, bound⟩ :=
      within.length_le (coarse_toSeconds positive whole) positive none
    have first_in := (List.mem_filter.mp first_mem).2
    have last_in := (List.mem_filter.mp last_mem).2
    simp only [decide_eq_true_eq] at first_in last_in
    have bound_rat := (Int.cast_le (R := ℚ)).mpr bound
    push_cast at bound_rat
    linarith

end Schedule

/-- Times a step apart. -/
def beats (step : Int) (now : Int) : Nat → List Int
  | 0 => []
  | n + 1 => now :: beats step (now + step) n

/-- Timers at the times, while sends go through. -/
def ticks (times : List Int) : List (Event Update) := times.map fun now => .timer now true

section Drift

private theorem beats_length (step now : Int) (n : Nat) : (beats step now n).length = n := by
  induction n generalizing now with
  | zero => rfl
  | succ n ih => rw [beats, List.length_cons, ih]

private theorem beats_within {step : Int} (nonneg : 0 ≤ step) {now other : Int} {n : Nat}
    (mem : other ∈ beats step now n) : now ≤ other ∧ other + step ≤ now + n * step := by
  induction n generalizing now with
  | zero => cases mem
  | succ n ih =>
      have moved : ((n + 1 : Nat) : Int) * step = n * step + step := by
        push_cast
        ring
      have more : 0 ≤ (n : Int) * step := Int.mul_nonneg (Int.natCast_nonneg n) nonneg
      rw [moved]
      rcases List.mem_cons.mp mem with rfl | later
      · omega
      · have bounds := ih later
        omega

private theorem beats_sorted {step : Int} (nonneg : 0 ≤ step) (now : Int) (n : Nat) :
    (beats step now n).Pairwise (· ≤ ·) := by
  induction n generalizing now with
  | zero => exact .nil
  | succ n ih =>
      refine List.pairwise_cons.mpr ⟨fun other mem => ?_, ih _⟩
      have bounds := beats_within nonneg mem
      omega

private theorem timers_ticks (times : List Int) :
    timers (ticks times : List (Event Update)) = times := by
  unfold timers ticks
  rw [List.filterMap_map]
  exact List.filterMap_some

/-- A strategy whose instrument is not ready has its model reset. -/
private theorem updateModel_completes [Utils] {s : Strategy Book}
    (unready : s.instrument.ready = false)
    (connected : Bool) : (s.updateModel connected).result.isOk = true := by
  unfold Strategy.updateModel
  rw [unready]
  rfl

private theorem onTimer_instrument [Utils] {s : Strategy Book}
    (unready : s.instrument.ready = false) (now : Int) (connected : Bool) :
    (s.onTimer now connected).1.instrument = s.instrument := by
  unfold Strategy.onTimer Strategy.updateModel
  rw [unready]
  split
  · rfl
  · by_cases initialized : s.nextSample ≠ 0
    · rw [if_pos initialized]
      rfl
    · rw [if_neg initialized]

/-- Every sample can come after the whole seconds of the period. -/
private theorem drifts [Utils] {period : Int} (positive : 0 < period) (n : Nat) {s : Strategy Book}
    (unready : s.instrument.ready = false) (freq : s.settings.sampleFreq = period)
    (later : 0 < s.nextSample)
    (aligned : s.nextSample % nanosecondsPerSecond = period % nanosecondsPerSecond) :
    trace (next mbp) sampled s
        (ticks (beats (toSeconds period) s.nextSample n)) =
        beats (toSeconds period) s.nextSample n ∧
      AllMet (next mbp) Completes s (ticks (beats (toSeconds period) s.nextSample n)) := by
  have step := toSeconds_of_nonneg positive.le
  induction n generalizing s with
  | zero => exact ⟨rfl, trivial⟩
  | succ n ih =>
      have completed (connected : Bool) := updateModel_completes unready connected
      obtain ⟨settings, scheduled⟩ :=
        onTimer_due (Int.le_refl s.nextSample) fun _ => completed true
      have told := toSeconds_of_nonneg later.le
      have unit : nanosecondsPerSecond = 10 ^ 9 := rfl
      have moved : (s.onTimer s.nextSample true).1.nextSample =
          s.nextSample + toSeconds period := by
        rw [scheduled, freq]
        rw [unit] at aligned
        omega
      have taken : next mbp s (.timer s.nextSample true) =
          some (s.onTimer s.nextSample true).1 := rfl
      have rest := ih (s := (s.onTimer s.nextSample true).1)
        (by rw [onTimer_instrument unready, unready]) (settings ▸ freq)
        (by rw [moved]; omega)
        (by rw [moved, unit]; rw [unit] at aligned; omega)
      rw [moved] at rest
      refine ⟨?_, (allMet_cons taken _).mpr ⟨fun _ _ => completed true, rest.2⟩⟩
      show trace (next mbp) sampled s (.timer s.nextSample true :: ticks (beats _ _ n)) =
        s.nextSample :: beats _ _ n
      rw [trace, taken]
      simp only [sampled, if_pos (And.intro (Int.le_refl s.nextSample) later.ne'), rest.1,
        List.singleton_append]

end Drift

/-- Too many samples for a period with a fraction of a second: one more than the whole seconds of
the period have nanoseconds, and two. -/
private theorem drift_exceeds {period : Int} (positive : 0 < period)
    (fraction : 0 < period % nanosecondsPerSecond) (now : Int) :
    ¬ SampledAtMost period
      (beats (toSeconds period) now ((toSeconds period).toNat + 3)) := by
  have step := toSeconds_of_nonneg positive.le
  have unit : nanosecondsPerSecond = 10 ^ 9 := rfl
  rw [unit] at fraction
  have nonneg : 0 ≤ toSeconds period := by omega
  have short : toSeconds period + 1 ≤ period := by omega
  have count : (((toSeconds period).toNat + 3 : Nat) : Int) = toSeconds period + 3 := by omega
  intro bound
  generalize (toSeconds period).toNat + 3 = n at *
  generalize toSeconds period = seconds at *
  have within := bound now ((seconds + 2) * seconds) (by positivity)
  have all : (beats seconds now n).filter (fun other : Int =>
      decide ((now : ℚ) ≤ other ∧ other ≤ now + ((seconds : ℚ) + 2) * seconds)) =
        beats seconds now n := by
    refine List.filter_eq_self.mpr fun other mem => ?_
    obtain ⟨low, high⟩ := beats_within nonneg mem
    rw [count] at high
    have low_rat := (Int.cast_le (R := ℚ)).mpr low
    have high_rat := (Int.cast_le (R := ℚ)).mpr high
    push_cast at high_rat
    refine decide_eq_true ⟨low_rat, ?_⟩
    linarith
  have positive_rat : (0 : ℚ) < period := by exact_mod_cast positive
  have nonneg_rat : (0 : ℚ) ≤ seconds := by exact_mod_cast nonneg
  have short_rat : (seconds : ℚ) + 1 ≤ period := by exact_mod_cast short
  have count_rat : (n : ℚ) = seconds + 3 := by exact_mod_cast count
  rw [all, beats_length, count_rat, div_add' _ _ _ positive_rat.ne', le_div_iff₀ positive_rat]
    at within
  have product : (seconds + 1) * (seconds + 1) ≤ ((seconds : ℚ) + 1) * period :=
    mul_le_mul_of_nonneg_left short_rat (by linarith)
  linarith

/-- Whatever the other events, the model is sampled as often as the period allows, exactly for
periods of whole seconds. -/
theorem sampledAtMost_iff [Utils] (settings : Settings) (positive : 0 < settings.sampleFreq) :
    (∀ es : List (Event Update), (timers es).Pairwise (· ≤ ·) →
      AllMet (next mbp) Completes (Strategy.new mbp settings) es →
        SampledAtMost settings.sampleFreq (samples mbp settings es)) ↔
      nanosecondsPerSecond ∣ settings.sampleFreq := by
  have unit : nanosecondsPerSecond = 10 ^ 9 := rfl
  constructor
  · intro bound
    by_contra broken
    have fraction : 0 < settings.sampleFreq % nanosecondsPerSecond := by
      rw [unit] at broken ⊢
      omega
    have step := toSeconds_of_nonneg positive.le
    -- the timer of the first second schedules the first sample
    let first : Strategy Book := ((Strategy.new mbp settings).onTimer (10 ^ 9) true).1
    have taken : next mbp (Strategy.new mbp settings) (.timer (10 ^ 9) true) = some first := rfl
    have scheduled : first.nextSample = 10 ^ 9 + settings.sampleFreq := rfl
    obtain ⟨drifted, completes⟩ := drifts mbp positive
      ((toSeconds settings.sampleFreq).toNat + 3) (s := first) rfl rfl (by omega) (by
        rw [scheduled, unit]
        omega)
    let run : List (Event Update) := ticks (10 ^ 9 :: beats (toSeconds settings.sampleFreq)
      first.nextSample ((toSeconds settings.sampleFreq).toNat + 3))
    have sampled_run : samples mbp settings run = beats (toSeconds settings.sampleFreq)
        first.nextSample ((toSeconds settings.sampleFreq).toNat + 3) := by
      show trace (next mbp) sampled _ (.timer (10 ^ 9) true :: ticks (beats _ _ _)) = _
      rw [trace, taken]
      exact drifted
    have sorted : (timers run).Pairwise (· ≤ ·) := by
      rw [timers_ticks]
      refine List.pairwise_cons.mpr ⟨fun other mem => ?_, beats_sorted (by omega) _ _⟩
      have after := (beats_within (by omega) mem).1
      omega
    have met : AllMet (next mbp) Completes (Strategy.new mbp settings) run :=
      (allMet_cons taken _).mpr ⟨fun _ initialized => (initialized rfl).elim, completes⟩
    have within := bound run sorted met
    rw [sampled_run] at within
    exact drift_exceeds positive fraction _ within
  · intro whole es _ completes
    exact sampledAtMost_of_paced positive whole
      (trace_paced positive whole rfl (Int.dvd_zero _) completes).2

section Examples

open scoped RoqSamples.Client.Documented

/-- With a period of one second a second sample within the same second is not taken. -/
theorem sampledAtMost_default :
    SampledAtMost (10 ^ 9) (samples snapshots {}
      (ticks [10 ^ 9, 2 * 10 ^ 9, 25 * 10 ^ 8, 3 * 10 ^ 9])) :=
  (sampledAtMost_iff snapshots {} (by decide)).mpr (by decide) _ (by decide) (by decide)

/-- With a period of half a second every timer in the second half of a second takes a sample. -/
theorem half_second_exceeds :
    let settings : Settings := { sampleFreq := 5 * 10 ^ 8 }
    let es : List (Event Depth) := ticks [10 ^ 9, 15 * 10 ^ 8, 16 * 10 ^ 8, 17 * 10 ^ 8]
    (timers es).Pairwise (· ≤ ·) ∧
      AllMet (next snapshots) Completes (Strategy.new snapshots settings) es ∧
      samples snapshots settings es = [15 * 10 ^ 8, 16 * 10 ^ 8, 17 * 10 ^ 8] ∧
      ¬ SampledAtMost settings.sampleFreq (samples snapshots settings es) := by
  refine ⟨by decide, by decide, by decide, fun bound => ?_⟩
  have within := bound (15 * 10 ^ 8) (2 * 10 ^ 8) (by decide +kernel)
  revert within
  decide +kernel

/-- When the order for a signal cannot be sent, the sample is taken again. -/
example :
    samples snapshots Strategy.halfWeights (WorkingOrder.Session.opening ++
        Strategy.sample 3 90 91 ++
        [.message 0 (.marketByPriceUpdate "deribit" "BTC-PERPETUAL" (Strategy.levels 100 101)),
          .timer (4 * 10 ^ 9) false, .timer (4 * 10 ^ 9) false]) =
      [2 * 10 ^ 9, 3 * 10 ^ 9, 4 * 10 ^ 9, 4 * 10 ^ 9] := by decide +kernel

end Examples

end RoqSamples.Example3.SampleRate
