/-! # Binary64 numbers as exact numbers

Text is made from the exact value of a number: a natural mantissa times a power
of two, with a sign.
-/

namespace CurveFitting.Numeral

/-- The number `mantissa * 2 ^ exponent`. -/
structure Magnitude where
  mantissa : Nat
  exponent : Int
  deriving DecidableEq

inductive Binary where
  | missing
  | infinite (negative : Bool)
  | finite (negative : Bool) (magnitude : Magnitude)
  deriving DecidableEq

namespace Binary

/-- The sign is the highest bit, then come eleven bits of the exponent and
fifty-two of the mantissa, whose leading one is not stored. -/
def ofBits (bits : UInt64) : Binary :=
  let negative := bits >>> 63 = 1
  let exponent := ((bits >>> 52) &&& 0x7ff).toNat
  let fraction := (bits &&& 0xfffffffffffff).toNat
  if exponent = 0x7ff then
    if fraction = 0 then infinite negative else missing
  else if exponent = 0 then
    finite negative ⟨fraction, -1074⟩
  else
    finite negative ⟨Nat.pow 2 52 + fraction, (exponent : Int) - 1075⟩

def ofFloat (number : Float) : Binary := ofBits number.toBits

example : ofFloat (-6.5) = finite true ⟨13 * 2 ^ 49, -50⟩ := by decide +kernel

end Binary

/-- A positive fraction of natural numbers. -/
structure Ratio where
  numerator : Nat
  denominator : Nat

namespace Magnitude

def ratio (magnitude : Magnitude) : Ratio :=
  ⟨magnitude.mantissa * Nat.pow 2 magnitude.exponent.toNat,
    Nat.pow 2 (-magnitude.exponent).toNat⟩

end Magnitude

namespace Ratio

/-- The ratio times a power of ten. -/
def timesTenPow (ratio : Ratio) (power : Int) : Ratio :=
  ⟨ratio.numerator * Nat.pow 10 power.toNat, ratio.denominator * Nat.pow 10 (-power).toNat⟩

/-- The nearest natural number, and of two equally near ones the even one. -/
def round (ratio : Ratio) : Nat :=
  let quotient := ratio.numerator / ratio.denominator
  let twice := 2 * (ratio.numerator % ratio.denominator)
  if ratio.denominator < twice ∨ ratio.denominator = twice ∧ quotient % 2 = 1 then
    quotient + 1
  else
    quotient

example : (Ratio.mk 5 2).round = 2 ∧ (Ratio.mk 7 2).round = 4 := by decide

end Ratio

/-- The decimal digits of a natural number, the highest first. -/
def digits (number : Nat) : List Char := Nat.toDigits 10 number

namespace Ratio

/-- The power of ten of the leading digit of a positive ratio. -/
def decimalExponent (ratio : Ratio) : Int :=
  if ratio.denominator ≤ ratio.numerator then
    (digits (ratio.numerator / ratio.denominator)).length - 1
  else
    -(digits ((ratio.denominator - 1) / ratio.numerator)).length

example : (Ratio.mk 999 1).decimalExponent = 2 ∧ (Ratio.mk 1 1000).decimalExponent = -3 ∧
    (Ratio.mk 1 1001).decimalExponent = -4 := by decide +kernel

end Ratio

end CurveFitting.Numeral
