/- Client/Utils
   digest: The functions of `utils` that the samples call, as a parameter with what they rely on. -/
import RoqSamples.Client.Messages

set_option autoImplicit false
set_option relaxedAutoImplicit false

namespace RoqSamples.Client

open RoqSamples.Arith (Double)

/-- The library `utils` is not part of the samples: these are the functions they call, and what
they rely on. Its comparisons are those of the numbers, and `updated` tells what `utils::update`
returns. -/
class Utils where
  isOrderComplete : OrderStatus → Bool
  hasRequestFailed : RequestStatus → Bool
  hasRequestSucceeded : RequestStatus → Bool
  hasRequestCompleted : RequestStatus → Bool
  updated {α : Type} [DecidableEq α] (lhs rhs : α) : Bool
  isZero : Double → Bool
  isGreater : Double → Double → Bool
  isGreaterOrEqual : Double → Double → Bool
  isLessOrEqual : Double → Double → Bool
  isOrderComplete_completed : isOrderComplete .completed = true
  hasRequestCompleted_eq (status : RequestStatus) :
    hasRequestCompleted status = (hasRequestFailed status || hasRequestSucceeded status)
  updated_iff {α : Type} [DecidableEq α] (lhs rhs : α) : updated lhs rhs = true ↔ lhs ≠ rhs
  isZero_iff (x : Double) : isZero x = true ↔ x = 0
  isGreater_num (x y : ℚ) : isGreater (.num x) (.num y) = true ↔ y < x
  isGreater_nan (y : Double) : isGreater .nan y = false
  isGreaterOrEqual_num (x y : ℚ) : isGreaterOrEqual (.num x) (.num y) = true ↔ y ≤ x
  isLessOrEqual_num (x y : ℚ) : isLessOrEqual (.num x) (.num y) = true ↔ x ≤ y

namespace Utils

attribute [simp] updated_iff isGreater_num isGreater_nan isGreaterOrEqual_num
  isLessOrEqual_num

variable [Utils]

/-- A value greater than zero is a positive number. -/
theorem isGreater_zero {x : Double} : isGreater x 0 = true ↔ Double.lt 0 x = true := by
  cases x <;> simp [Double.lt]

variable {α : Type} [DecidableEq α]

@[simp] theorem updated_eq_false {lhs rhs : α} : updated lhs rhs = false ↔ lhs = rhs := by
  rw [← Bool.not_eq_true, updated_iff, not_not]

theorem updated_self (value : α) : updated value value = false := updated_eq_false.mpr rfl

end Utils

namespace Documented

/-- The statuses by their names, and comparisons without a tolerance. -/
scoped instance documented : Utils where
  isOrderComplete
    | .completed | .expired | .canceled | .rejected => true
    | _ => false
  hasRequestFailed
    | .rejected | .disconnected | .timeout | .failed => true
    | _ => false
  hasRequestSucceeded
    | .accepted => true
    | _ => false
  hasRequestCompleted
    | .rejected | .disconnected | .timeout | .failed | .accepted => true
    | _ => false
  updated lhs rhs := decide (lhs ≠ rhs)
  isZero x := decide (x = 0)
  isGreater lhs rhs := rhs.lt lhs
  isGreaterOrEqual lhs rhs := rhs.le lhs
  isLessOrEqual lhs rhs := lhs.le rhs
  isOrderComplete_completed := rfl
  hasRequestCompleted_eq status := by cases status <;> rfl
  updated_iff lhs rhs := by simp
  isZero_iff x := by simp
  isGreater_num x y := Double.lt_num y x
  isGreater_nan y := by cases y <;> rfl
  isGreaterOrEqual_num x y := Double.le_num y x
  isLessOrEqual_num x y := Double.le_num x y

end Documented

end RoqSamples.Client
