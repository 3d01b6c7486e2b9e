/- Maker/QuoteArithmetic
   digest: The targets of the maker are two or three ticks apart around the skewed mid price, and
     a position moves both by one tick. -/
import RoqSamples.Maker.RoundAway
import RoqSamples.Maker.Strategy

set_option autoImplicit false
set_option relaxedAutoImplicit false

namespace RoqSamples.Maker.QuoteArithmetic

open RoqSamples.Arith (Double)
open RoqSamples.Arith.TickGrid
open RoqSamples.Client (Side Utils)

variable {roundAway : Side → Double → Double → Double}

/-- The two targets of a strategy. -/
def targets (s : Strategy) : Double × Double := (s.bid.targetPrice, s.ask.targetPrice)

/-- The strategy without its position. -/
def flat (s : Strategy) : Strategy := { s with shared := { s.shared with position := 0 } }

/-- Targets around a mid price on the grid of a tick. -/
structure Around (mid tick skew bid ask : ℚ) : Prop where
  bid_multiple : bid ∈ multiples tick
  ask_multiple : ask ∈ multiples tick
  width : ask - bid = 2 * tick ∨ ask - bid = 3 * tick
  bid_le : bid ≤ mid + skew - 3 / 4 * tick
  ask_ge : mid + skew + 3 / 4 * tick ≤ ask

/-- The skew of a position. -/
def skewOf (tick position : ℚ) : ℚ :=
  if position = 0 then 0 else if position < 0 then tick else -tick

/-- The greatest multiple not above a price is unique. -/
private theorem roundAway_buy (rounds : RoundsAway roundAway) {tick : ℚ} (pos : 0 < tick) (x : ℚ) :
    roundAway .buy (.num x) (.num tick) = .num (floorTo tick x) := by
  obtain ⟨y, rounded, greatest⟩ := rounds.buy x tick pos
  rw [rounded, greatest.unique (isGreatest_floorTo pos x)]

private theorem roundAway_sell (rounds : RoundsAway roundAway) {tick : ℚ} (pos : 0 < tick)
    (x : ℚ) : roundAway .sell (.num x) (.num tick) = .num (ceilTo tick x) := by
  obtain ⟨y, rounded, least⟩ := rounds.sell x tick pos
  rw [rounded, least.unique (isLeast_ceilTo pos x)]

private theorem skew_eq [Utils] {s : Strategy} {tick position : ℚ}
    (tickSize : s.tickSize = .num tick)
    (holding : s.shared.position = .num position) : s.skew = .num (skewOf tick position) := by
  unfold Strategy.skew skewOf
  rw [tickSize, holding]
  by_cases none : position = 0
  · rw [if_pos none, if_pos ((Utils.isZero_iff _).mpr (by simp [none]))]
    rfl
  · rw [if_neg none, if_neg fun zero => none (Double.num.inj ((Utils.isZero_iff _).mp zero)),
      Double.zero_eq]
    by_cases short : position < 0
    · rw [if_pos short, if_pos ((Double.lt_num _ _).mpr short)]
    · rw [if_neg short, if_neg fun less => short ((Double.lt_num _ _).mp less)]
      rfl

/-- The skew is a whole number of ticks. -/
private theorem skewOf_ticks (tick position : ℚ) : ∃ n : ℤ, skewOf tick position = n * tick := by
  unfold skewOf
  split
  · exact ⟨0, by simp⟩
  split
  · exact ⟨1, by simp⟩
  · exact ⟨-1, by simp⟩

private theorem updateQuotes_targets [Utils] (rounds : RoundsAway roundAway) {s : Strategy}
    {mid tick position : ℚ} (midPrice : s.midPrice = .num mid) (tickSize : s.tickSize = .num tick)
    (pos : 0 < tick) (holding : s.shared.position = .num position) :
    targets (s.updateQuotes roundAway) =
      (.num (floorTo tick (mid + skewOf tick position - 3 / 4 * tick)),
        .num (ceilTo tick (mid + skewOf tick position + 3 / 4 * tick))) := by
  have half : s.halfSpread = .num (3 / 4 * tick) := by
    simp only [Strategy.halfSpread, spread, tickSize, Double.num_mul_num]
    norm_num
  have known : s.midPrice.isNaN = false := by
    rw [midPrice]
    rfl
  have bid : s.bidPrice roundAway =
      .num (floorTo tick (mid + skewOf tick position - 3 / 4 * tick)) := by
    rw [← roundAway_buy rounds pos]
    simp only [Strategy.bidPrice, midPrice, tickSize, half, skew_eq tickSize holding,
      Double.num_add_num, Double.num_sub_num]
  have ask : s.askPrice roundAway =
      .num (ceilTo tick (mid + skewOf tick position + 3 / 4 * tick)) := by
    rw [← roundAway_sell rounds pos]
    simp only [Strategy.askPrice, midPrice, tickSize, half, skew_eq tickSize holding,
      Double.num_add_num]
  unfold Strategy.updateQuotes
  rw [known, if_neg Bool.false_ne_true, bid, ask]
  simp only [targets, Quote.updateTargetPrice_targetPrice]

private theorem around (tick : ℚ) (pos : 0 < tick) (mid skew : ℚ) :
    Around mid tick skew (floorTo tick (mid + skew - 3 / 4 * tick))
      (ceilTo tick (mid + skew + 3 / 4 * tick)) := by
  have greatest := isGreatest_floorTo pos (mid + skew - 3 / 4 * tick)
  have least := isLeast_ceilTo pos (mid + skew + 3 / 4 * tick)
  have width := @ceilTo_sub_floorTo ℚ _ _ _ _ tick (3 / 4 * tick) (by linarith) (by linarith)
    (mid + skew)
  exact ⟨greatest.1.1, least.1.1, width, greatest.1.2, least.1.2⟩

/-- The targets lie around the skewed mid price, two or three ticks apart, and they are those of a
flat position moved by the skew: one tick down for a long position, one tick up for a short one. -/
theorem updateQuotes_around [Utils] (rounds : RoundsAway roundAway) (s : Strategy)
    {mid tick position : ℚ}
    (midPrice : s.midPrice = .num mid) (tickSize : s.tickSize = .num tick) (pos : 0 < tick)
    (holding : s.shared.position = .num position) :
    ∃ skew bid ask, s.skew = .num skew ∧
      targets (s.updateQuotes roundAway) = (.num bid, .num ask) ∧
      Around mid tick skew bid ask ∧
      targets ((flat s).updateQuotes roundAway) = (.num (bid - skew), .num (ask - skew)) ∧
      (position = 0 → skew = 0) ∧ (0 < position → skew = -tick) ∧ (position < 0 → skew = tick) := by
  obtain ⟨n, ticks⟩ := skewOf_ticks tick position
  have level (side : ℚ) : mid + skewOf tick position + side = mid + 0 + side + n * tick := by
    rw [ticks]
    ring
  refine ⟨skewOf tick position, _, _, skew_eq tickSize holding,
    updateQuotes_targets rounds midPrice tickSize pos holding, around tick pos mid _, ?_, ?_, ?_,
    ?_⟩
  · have still : (flat s).shared.position = .num 0 := rfl
    have none : skewOf tick 0 = 0 := if_pos rfl
    rw [updateQuotes_targets rounds (s := flat s) midPrice tickSize pos still, none,
      sub_eq_add_neg (mid + skewOf tick position), level, level, floorTo_add_mul pos,
      ceilTo_add_mul pos, ticks, add_sub_cancel_right, add_sub_cancel_right, ← sub_eq_add_neg]
  · intro none
    exact if_pos none
  · intro long
    unfold skewOf
    rw [if_neg long.ne', if_neg long.not_gt]
  · intro short
    unfold skewOf
    rw [if_neg short.ne, if_pos short]

section Examples

open scoped RoqSamples.Client.Documented

/-- A short position at a mid price of a quarter of a tick. -/
private def short : Strategy where
  shared := { position := .num (-2) }
  tickSize := .num (1 / 2)
  midPrice := .num (801 / 8)

theorem short_around :
    ∃ skew bid ask, short.skew = .num skew ∧
      targets (short.updateQuotes toGrid) = (.num bid, .num ask) ∧
      Around (801 / 8) (1 / 2) skew bid ask ∧
      targets ((flat short).updateQuotes toGrid) = (.num (bid - skew), .num (ask - skew)) ∧
      ((-2 : ℚ) = 0 → skew = 0) ∧ ((0 : ℚ) < -2 → skew = -(1 / 2)) ∧
      ((-2 : ℚ) < 0 → skew = 1 / 2) :=
  updateQuotes_around toGrid_roundsAway short rfl rfl (by norm_num) rfl

example : targets (short.updateQuotes toGrid) = (.num 100, .num 101) := by decide +kernel

end Examples

end RoqSamples.Maker.QuoteArithmetic
