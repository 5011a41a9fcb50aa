/-! # Reading numbers

The decimal literals that stand for binary64 numbers: an optional sign, then a
name of infinity or of the missing number in any case, or digits with an
optional point and an optional exponent.
-/

namespace CurveFitting.Numeral

/-- The digits at the head of a text, and the rest. -/
def spanDigits (text : List Char) : List Char × List Char := text.span Char.isDigit

/-- The number that decimal digits stand for. -/
def ofDigits (digits : List Char) : Nat :=
  digits.foldl (fun number digit => 10 * number + (digit.toNat - '0'.toNat)) 0

/-- A minus sign is told from no sign or a plus sign. -/
def spanSign : List Char → Bool × List Char
  | '-' :: rest => (true, rest)
  | '+' :: rest => (false, rest)
  | text => (false, text)

/-- A natural number below a bound, with an optional plus sign. -/
def readNatural (bound : Nat) (text : List Char) : Option Nat :=
  let unsigned := match text with
    | '+' :: rest => rest
    | text => text
  if unsigned.isEmpty || !unsigned.all Char.isDigit then
    none
  else
    let number := ofDigits unsigned
    if number < bound then some number else none

/-- The exponent at the end of a decimal. A text without one has exponent zero. -/
def readExponent : List Char → Option Int
  | [] => some 0
  | mark :: rest =>
      if mark = 'e' ∨ mark = 'E' then
        let (negative, unsigned) := spanSign rest
        if unsigned.isEmpty || !unsigned.all Char.isDigit then
          none
        else if negative then
          some (-(ofDigits unsigned : Int))
        else
          some (ofDigits unsigned)
      else
        none

/-- The number nearest to `mantissa * 10 ^ exponent`, the even one of two that
are equally near. A decimal from `10 ^ 310` on is infinite and one below
`10 ^ -330` is zero, whatever its digits. -/
def nearest (mantissa : Nat) (exponent : Int) : Float :=
  let leading := (Nat.toDigits 10 mantissa).length + exponent
  if mantissa = 0 ∨ leading < -330 then
    0
  else if 310 < leading then
    1 / 0
  else if exponent < 0 then
    Float.ofScientific mantissa true exponent.natAbs
  else
    Float.ofScientific mantissa false exponent.natAbs

/-- Digits with an optional point, at least one of them, then the exponent. -/
def readDecimal (text : List Char) : Option Float :=
  let (whole, rest) := spanDigits text
  let (fraction, rest) := match rest with
    | '.' :: rest => spanDigits rest
    | rest => ([], rest)
  if whole.isEmpty && fraction.isEmpty then
    none
  else
    (readExponent rest).map fun exponent =>
      nearest (ofDigits (whole ++ fraction)) (exponent - fraction.length)

def readUnsigned (text : List Char) : Option Float :=
  let name := String.ofList (text.map Char.toLower)
  if name = "inf" ∨ name = "infinity" then
    some (1 / 0)
  else if name = "nan" then
    some (0 / 0)
  else
    readDecimal text

/-- The number that a literal stands for. -/
def read (text : List Char) : Option Float :=
  let (negative, unsigned) := spanSign text
  (readUnsigned unsigned).map fun number => if negative then -number else number

end CurveFitting.Numeral
