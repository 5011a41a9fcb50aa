import CurveFitting.Numeral.Rounded

/-! # Shortest decimals

The decimal with the fewest digits that reads back as a given number, written
without an exponent.
-/

namespace CurveFitting.Numeral

/-- The decimal `digits * 10 ^ exponent`. -/
structure Decimal where
  digits : Nat
  exponent : Int
  deriving DecidableEq

namespace Magnitude

/-- In quarters of the last binary place: how far below a number the reals begin
that round to it. The number below a power of two is only half as far away. -/
def reachBelow (magnitude : Magnitude) : Nat :=
  if magnitude.mantissa = Nat.pow 2 52 ∧ -1074 < magnitude.exponent then 1 else 2

/-- The nearest decimal whose last digit stands for `10 ^ exponent`, if it reads
back as the number. The greater of two equally near ones is taken. -/
def decimalAt? (magnitude : Magnitude) (exponent : Int) : Option Decimal :=
  -- All is measured in a unit that divides the quarters and the power of ten.
  let quarter := Nat.pow 2 (magnitude.exponent - 2).toNat * Nat.pow 10 (-exponent).toNat
  let place := Nat.pow 10 exponent.toNat * Nat.pow 2 (2 - magnitude.exponent).toNat
  let value := 4 * magnitude.mantissa * quarter
  let low := (4 * magnitude.mantissa - magnitude.reachBelow) * quarter
  let high := (4 * magnitude.mantissa + 2) * quarter
  let readsBack (candidate : Nat) : Bool :=
    low < candidate * place && candidate * place < high ||
      magnitude.mantissa % 2 = 0 &&
        (candidate * place = low || candidate * place = high)
  let below := value / place
  let above := below + 1
  if readsBack above && (!readsBack below || above * place - value ≤ value - below * place) then
    some ⟨above, exponent⟩
  else if readsBack below then
    some ⟨below, exponent⟩
  else
    none

/-- Seventeen digits always read back; the number of digits that are tried first
is one. -/
def shortest (magnitude : Magnitude) : Decimal :=
  let exponent := magnitude.ratio.decimalExponent
  ((List.range 17).findSome? fun (more : Nat) =>
    magnitude.decimalAt? (exponent - (more : Int))).getD
    ⟨(magnitude.ratio.timesTenPow (16 - exponent)).round, exponent - 16⟩

/-- Two decimals of seventeen digits are equally near to `2 ^ -25`. -/
example : shortest ⟨2 ^ 52, -77⟩ = ⟨29802322387695313, -24⟩ := by decide +kernel

/-- The number nearest to `10 ^ 23` lies below it. -/
example : shortest ⟨5960464477539062, 24⟩ = ⟨10, 22⟩ := by decide +kernel

end Magnitude

namespace Decimal

/-- The decimal without an exponent, and without zeros at the end of its
fraction. -/
def positional (decimal : Decimal) : List Char :=
  let places := (-decimal.exponent).toNat
  let text := withPoint places
    (Numeral.digits (decimal.digits * Nat.pow 10 decimal.exponent.toNat))
  if places = 0 then
    text
  else
    let trimmed := text.reverse.dropWhile (· = '0')
    (trimmed.dropWhile (· = '.')).reverse

end Decimal

/-- A number with the fewest digits that read back. -/
def shortest : Float → String :=
  withSign fun magnitude =>
    if magnitude.mantissa = 0 then ['0'] else magnitude.shortest.positional

end CurveFitting.Numeral
