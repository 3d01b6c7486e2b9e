/- Maker/RoundAway
   digest: What the maker relies on when it rounds a price away from the market. -/
import RoqSamples.Arith.TickGrid
import RoqSamples.Client.Messages
import Mathlib.Data.Rat.Floor

set_option autoImplicit false
set_option relaxedAutoImplicit false

namespace RoqSamples.Maker

open RoqSamples.Arith (Double)
open RoqSamples.Arith.TickGrid
open RoqSamples.Client

/-- What `market::round_away` promises for a positive tick: the greatest multiple not above a BUY
price, the least one not below a SELL price. -/
structure RoundsAway (roundAway : Side → Double → Double → Double) : Prop where
  buy : ∀ x tick : ℚ, 0 < tick → ∃ y, roundAway .buy (.num x) (.num tick) = .num y ∧
    IsGreatest {z | z ∈ multiples tick ∧ z ≤ x} y
  sell : ∀ x tick : ℚ, 0 < tick → ∃ y, roundAway .sell (.num x) (.num tick) = .num y ∧
    IsLeast {z | z ∈ multiples tick ∧ x ≤ z} y

/-- The multiples of the tick next to a price. -/
def toGrid : Side → Double → Double → Double
  | .buy, .num x, .num tick => .num (floorTo tick x)
  | .sell, .num x, .num tick => .num (ceilTo tick x)
  | _, _, _ => .nan

theorem toGrid_roundsAway : RoundsAway toGrid where
  buy := fun x _ positive => ⟨_, rfl, isGreatest_floorTo positive x⟩
  sell := fun x _ positive => ⟨_, rfl, isLeast_ceilTo positive x⟩

end RoqSamples.Maker
