/- Arith/Double
   digest: Doubles taken as exact rationals together with NaN, which no comparison relates. -/
import Mathlib.Data.Rat.Defs
import Mathlib.Algebra.Order.Ring.Rat

set_option autoImplicit false
set_option relaxedAutoImplicit false

namespace RoqSamples.Arith

/-- A double without rounding, infinities and signed zeroes: NaN or an exact number. -/
inductive Double
  | nan
  | num (x : ℚ)
  deriving DecidableEq

namespace Double

instance : Inhabited Double := ⟨nan⟩

instance {n : Nat} : OfNat Double n := ⟨num n⟩

/-- Arithmetic on numbers; NaN in, NaN out. -/
def map₂ (f : ℚ → ℚ → ℚ) : Double → Double → Double
  | num x, num y => num (f x y)
  | _, _ => nan

instance : Add Double := ⟨map₂ (· + ·)⟩
instance : Sub Double := ⟨map₂ (· - ·)⟩
instance : Mul Double := ⟨map₂ (· * ·)⟩

instance : Neg Double :=
  ⟨fun
    | nan => nan
    | num x => num (-x)⟩

/-- A quotient by zero has no exact value. -/
def div : Double → Double → Double
  | num x, num y => if y = 0 then nan else num (x / y)
  | _, _ => nan

instance : Div Double := ⟨div⟩

def isNaN : Double → Bool
  | nan => true
  | num _ => false

/-- The exact comparison `<`: false as soon as one side is NaN. -/
def lt : Double → Double → Bool
  | num x, num y => decide (x < y)
  | _, _ => false

/-- The exact comparison `<=`: false as soon as one side is NaN. -/
def le : Double → Double → Bool
  | num x, num y => decide (x ≤ y)
  | _, _ => false

/-- The number, with zero in place of NaN. -/
def orZero : Double → ℚ
  | nan => 0
  | num x => x

theorem ofNat_eq (n : Nat) : (OfNat.ofNat n : Double) = num n := rfl

@[simp] theorem zero_eq : (0 : Double) = num 0 := rfl

@[simp] theorem num_add_num (x y : ℚ) : num x + num y = num (x + y) := rfl
@[simp] theorem num_sub_num (x y : ℚ) : num x - num y = num (x - y) := rfl
@[simp] theorem num_mul_num (x y : ℚ) : num x * num y = num (x * y) := rfl
@[simp] theorem neg_num (x : ℚ) : -num x = num (-x) := rfl
@[simp] theorem neg_nan : -nan = nan := rfl
@[simp] theorem nan_add (x : Double) : nan + x = nan := rfl
@[simp] theorem nan_sub (x : Double) : nan - x = nan := rfl
@[simp] theorem nan_mul (x : Double) : nan * x = nan := rfl
@[simp] theorem add_nan (x : Double) : x + nan = nan := by cases x <;> rfl
@[simp] theorem sub_nan (x : Double) : x - nan = nan := by cases x <;> rfl
@[simp] theorem mul_nan (x : Double) : x * nan = nan := by cases x <;> rfl

@[simp] theorem isNaN_nan : isNaN nan = true := rfl
@[simp] theorem isNaN_num (x : ℚ) : isNaN (num x) = false := rfl
@[simp] theorem orZero_num (x : ℚ) : orZero (num x) = x := rfl
@[simp] theorem orZero_nan : orZero nan = 0 := rfl

theorem isNaN_eq_false {x : Double} : isNaN x = false ↔ x ≠ nan := by
  cases x <;> simp

theorem isNaN_eq_true {x : Double} : isNaN x = true ↔ x = nan := by
  cases x <;> simp

theorem exists_num {x : Double} (h : x ≠ nan) : ∃ y, x = num y := by
  cases x with
  | nan => exact (h rfl).elim
  | num y => exact ⟨y, rfl⟩

@[simp] theorem lt_num (x y : ℚ) : lt (num x) (num y) = true ↔ x < y := by
  simp [lt]

@[simp] theorem le_num (x y : ℚ) : le (num x) (num y) = true ↔ x ≤ y := by
  simp [le]

end Double

end RoqSamples.Arith
