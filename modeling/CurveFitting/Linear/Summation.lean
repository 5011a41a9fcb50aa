import CurveFitting.Scalar

/-! # Sums in a fixed order

Rounded addition is not associative, so a sum is a list of terms together with
an order. Two orders occur: one term after the other, and eight at a time.
-/

namespace CurveFitting.Summation

variable {α : Type} [Scalar α]

/-- Adds the terms one after the other to the first of them. -/
def inTurn : List α → α
  | [] => 0
  | first :: rest => rest.foldl (fun total term => term + total) first

/-- Adds every full block of eight terms to eight running sums, one term to
each, and gives the sums together with the terms that fill no block. -/
def lanes (sums : Vector α 8) : List α → Vector α 8 × List α
  | a :: b :: c :: d :: e :: f :: g :: h :: rest =>
      lanes (sums + #v[a, b, c, d, e, f, g, h]) rest
  | rest => (sums, rest)

/-- Joins eight running sums, each of the first four with the one four places
after it. -/
def joinLanes (sums : Vector α 8) : α :=
  (0 : α) + (sums[0] + sums[4]) + (sums[1] + sums[5]) + (sums[2] + sums[6]) +
    (sums[3] + sums[7])

/-- Adds the full blocks of eight terms lane by lane, then the remaining terms
in order. -/
def interleaved (terms : List α) : α :=
  let (sums, rest) := lanes (Vector.replicate 8 0) terms
  rest.foldl (· + ·) (joinLanes sums)

end CurveFitting.Summation
