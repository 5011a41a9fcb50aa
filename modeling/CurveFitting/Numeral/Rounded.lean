import CurveFitting.Numeral.Binary

/-! # Rounded decimals

Numbers written with a set number of decimal places, either in scientific
notation or in fixed point. The exact value is rounded, and a tie goes to the
even digit.
-/

namespace CurveFitting.Numeral

/-- The text of a number, given the text of its magnitude. -/
def withSign (ofMagnitude : Magnitude → List Char) (number : Float) : String :=
  let signed (negative : Bool) (text : List Char) :=
    String.ofList (if negative then '-' :: text else text)
  match Binary.ofFloat number with
  | .missing => "NaN"
  | .infinite negative => signed negative "inf".toList
  | .finite negative magnitude => signed negative (ofMagnitude magnitude)

/-- Digits with a point before the last `places` of them. There is no point
without places. -/
def withPoint (places : Nat) (text : List Char) : List Char :=
  if places = 0 then
    text
  else
    let padded := List.replicate (places + 1 - text.length) '0' ++ text
    padded.take (padded.length - places) ++ '.' :: padded.drop (padded.length - places)

example : withPoint 2 "5".toList = "0.05".toList := by decide +kernel

/-- A number with a set number of places in fixed point. -/
def fixed (places : Nat) : Float → String :=
  withSign fun magnitude =>
    withPoint places (digits (magnitude.ratio.timesTenPow places).round)

/-- How numbers are written in scientific notation: the number of places after
the point, and whether an exponent that is not negative has a sign. -/
structure Scientific where
  places : Nat
  plusSign : Bool

namespace Scientific

def exponentText (style : Scientific) (exponent : Int) : List Char :=
  if exponent < 0 then
    '-' :: digits exponent.natAbs
  else if style.plusSign then
    '+' :: digits exponent.natAbs
  else
    digits exponent.natAbs

/-- Rounding may carry into a new leading digit, which raises the exponent. -/
def ofMagnitude (style : Scientific) (magnitude : Magnitude) : List Char :=
  let layout (significand : Nat) (exponent : Int) :=
    withPoint style.places (digits significand) ++ 'e' :: style.exponentText exponent
  if magnitude.mantissa = 0 then
    layout 0 0
  else
    let ratio := magnitude.ratio
    let exponent := ratio.decimalExponent
    let significand := (ratio.timesTenPow (style.places - exponent)).round
    if significand = Nat.pow 10 (style.places + 1) then
      layout (Nat.pow 10 style.places) (exponent + 1)
    else
      layout significand exponent

def text (style : Scientific) : Float → String := withSign style.ofMagnitude

end Scientific

end CurveFitting.Numeral
