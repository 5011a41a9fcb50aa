/-! # Scalars

The arithmetic a fit is computed in. Every algorithm of the library is written
once, over any `Scalar`, in a fixed order of operations. Binary64 numbers run
it; other arithmetics give the same algorithm other meanings.
-/

namespace CurveFitting

/-- Numbers with the operations and the tests that a fit uses. The tests are
those of the arithmetic itself: a number need not be comparable to itself. -/
class Scalar (α : Type) extends Zero α, One α, OfScientific α, Add α, Sub α,
    Mul α, Div α, Neg α, LT α, LE α, BEq α where
  [decidableLT : DecidableLT α]
  [decidableLE : DecidableLE α]
  sqrt : α → α
  abs : α → α
  isFinite : α → Bool
  isNaN : α → Bool
  /-- A bound on how many of `1, 1/2, 1/4, …` are at least `floor`. -/
  halvings : (floor : α) → Nat

attribute [reducible, instance] Scalar.decidableLT Scalar.decidableLE

namespace Scalar

variable {α : Type} [Scalar α]

/-- One divided by zero, the arithmetic's mark of overflow. -/
def infinity : α := 1 / 0

/-- Zero divided by zero, the arithmetic's mark of a missing value. -/
def notANumber : α := 0 / 0

def double (value : α) : α := value + value

/-- The larger of two numbers, or the other one where one of them is missing. -/
def larger (left right : α) : α :=
  if right < left then left else if isNaN right then left else right

end Scalar

/-- Binary64 numbers. The halves of one go down to `2^-1074`; the next one is
zero, so at most 1075 of them reach a positive floor. -/
instance : Scalar Float where
  sqrt := Float.sqrt
  abs := Float.abs
  isFinite := Float.isFinite
  isNaN := Float.isNaN
  halvings _ := 1075

end CurveFitting
