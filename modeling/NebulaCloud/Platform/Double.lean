import Mathlib.Algebra.Ring.Int.Defs
import Mathlib.Algebra.Ring.Nat
import Mathlib.Data.Rat.Defs

namespace NebulaCloud.Platform

/-! # Arithmetic on numbers

A finite number of the language is a double.  Every operation takes the exact
rational result to the nearest double.  The exponent is left unbounded: what would
overflow exceeds every safe integer here as well, and what would underflow rounds to
zero. -/

/-- The power of two that leaves 53 bits before the point of a positive fraction. -/
def doubleExponent (numerator denominator : Nat) : Int :=
  let exponent : Int := numerator.log2 - denominator.log2 - 52
  if numerator * 2 ^ (-exponent).toNat < 2 ^ 52 * (denominator * 2 ^ exponent.toNat) then exponent - 1
  else exponent

/-- The nearest natural number, the even one of two. -/
def roundHalfEven (numerator denominator : Nat) : Nat :=
  let below := numerator / denominator
  let rest := 2 * (numerator % denominator)
  if denominator < rest ∨ (rest = denominator ∧ below % 2 = 1) then below + 1 else below

/-- The double nearest to an exact result. -/
def roundDouble (exact : Rat) : Rat :=
  let exponent := doubleExponent exact.num.natAbs exact.den
  let significand := roundHalfEven (exact.num.natAbs * 2 ^ (-exponent).toNat) (exact.den * 2 ^ exponent.toNat)
  mkRat (exact.num.sign * (significand * 2 ^ exponent.toNat)) (2 ^ (-exponent).toNat)

theorem roundHalfEven_one (value : Nat) : roundHalfEven value 1 = value := by
  simp [roundHalfEven, Nat.mod_one]

/-- An integer of 53 bits is a double. -/
theorem roundDouble_natCast {value : Nat} (bounded : value < 2 ^ 53) : roundDouble value = value := by
  rcases Nat.eq_zero_or_pos value with rfl | positive
  · decide +kernel
  have bits : value.log2 < 53 := (Nat.log2_lt positive.ne').mpr bounded
  have low : 2 ^ value.log2 ≤ value := Nat.log2_self_le positive.ne'
  have one : Nat.log2 1 = 0 := by decide
  have size : doubleExponent value 1 = (value.log2 : Int) - 52 := by
    have shifted : (-((value.log2 : Int) - 52)).toNat = 52 - value.log2 := by omega
    have none : ((value.log2 : Int) - 52).toNat = 0 := by omega
    have enough : ¬ value * 2 ^ (52 - value.log2) < 2 ^ 52 := by
      have product := Nat.mul_le_mul_right (2 ^ (52 - value.log2)) low
      rw [← Nat.pow_add, Nat.add_sub_cancel' (by omega)] at product
      omega
    simp only [doubleExponent, one, Int.natCast_zero, Int.sub_zero, shifted, none, Nat.pow_zero, Nat.mul_one,
      if_neg enough]
  have numerator : (value : Rat).num.natAbs = value := by simp
  have denominator : (value : Rat).den = 1 := Rat.den_natCast value
  have sign : (value : Rat).num.sign = 1 := by
    rw [Rat.num_natCast]
    exact Int.sign_eq_one_of_pos (by omega)
  have none : ((value.log2 : Int) - 52).toNat = 0 := by omega
  simp only [roundDouble, numerator, denominator, size, none, Nat.pow_zero, Nat.mul_one, roundHalfEven_one, sign,
    Int.one_mul, Int.natCast_mul]
  have positiveScale : 2 ^ (-((value.log2 : Int) - 52)).toNat ≠ 0 := (Nat.two_pow_pos _).ne'
  generalize 2 ^ (-((value.log2 : Int) - 52)).toNat = scale at positiveScale
  have cancelled : mkRat ((value : Int) * scale) (1 * scale) = mkRat value 1 := Rat.mkRat_mul_right positiveScale
  rw [Nat.one_mul] at cancelled
  rw [Int.pow_zero, Int.mul_one, cancelled, Rat.mkRat_one]
  rfl

namespace Double

def add (left right : Rat) : Rat := roundDouble (left + right)

def sub (left right : Rat) : Rat := roundDouble (left - right)

def mul (left right : Rat) : Rat := roundDouble (left * right)

end Double

/-- `Math.round(value)`: halves go up. -/
def mathRound (value : Rat) : Int := (value + 1 / 2).floor

-- one tenth has no double of its own, and the products beyond 53 bits are rounded
example : roundDouble (1 / 10) = mkRat 3602879701896397 36028797018963968 := by decide +kernel

example : Double.mul 9007199254740993 3 = 27021597764222980 := by decide +kernel

example : mathRound (Double.mul (roundDouble (29 / 100)) 1000000) = 290000 := by decide +kernel

end NebulaCloud.Platform
