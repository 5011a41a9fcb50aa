import CurveFitting.Minimizer.LineSearch
import CurveFitting.Proofs.Sums

/-! # Equal scalars

The equality that an arithmetic decides need not be identity: binary64 numbers have two
zeros, which are equal. Sums, products and comparisons of equal numbers are equal again, so
that a ray from a point, and what is accepted along it, depends on its direction only up to
this equality.
-/

namespace CurveFitting

variable {α : Type} [Scalar α] {n rows columns : Nat}

/-- Two scalars are identical, or equal by their arithmetic. -/
def Scalar.Alike (left right : α) : Prop := left = right ∨ (left == right) = true

/-- Scalars whose arithmetic does not tell apart what it takes for equal. -/
class Scalar.RespectsEquality (α : Type) [Scalar α] : Prop where
  add_alike {left right first second : α} (alike : Alike left right)
    (others : Alike first second) : Alike (left + first) (right + second)
  mul_alike {left right first second : α} (alike : Alike left right)
    (others : Alike first second) : Alike (left * first) (right * second)
  neg_alike {left right : α} (alike : Alike left right) : Alike (-left) (-right)
  isFinite_eq {left right : α} (alike : Alike left right) :
    Scalar.isFinite left = Scalar.isFinite right
  le_iff {left right low high : α} (alike : Alike left right) (bounds : Alike low high) :
    left ≤ low ↔ right ≤ high

open Scalar (Alike)

theorem Scalar.Alike.refl (value : α) : Alike value value := .inl rfl

theorem entrywise_alike_refl (vector : Vector α n) : Entrywise Alike vector vector :=
  fun i => .refl (vector.get i)

/-! ## Vectors and matrices -/

variable [Scalar.RespectsEquality α]

open Scalar.RespectsEquality

namespace Entrywise

variable {left right first second : Vector α n}

private theorem products (entries : Entrywise Alike left right)
    (others : Entrywise Alike first second) :
    Entrywise Alike (Vector.zipWith (· * ·) left first) (Vector.zipWith (· * ·) right second) := by
  intro i
  change Alike (Vector.zipWith (· * ·) left first)[i.val] (Vector.zipWith _ right second)[i.val]
  rw [Vector.getElem_zipWith, Vector.getElem_zipWith]
  exact mul_alike (entries i) (others i)

theorem dot (entries : Entrywise Alike left right) (others : Entrywise Alike first second) :
    Alike (dot left first) (dot right second) :=
  Summation.interleaved_related add_alike (.refl 0) (entries.products others).forall₂_toList

theorem neg (entries : Entrywise Alike left right) : Entrywise Alike (-left) (-right) :=
  entries.map neg_alike

private theorem scaleVector (entries : Entrywise Alike left right) (factor : α) :
    Entrywise Alike (scaleVector left factor) (scaleVector right factor) :=
  entries.map fun alike => mul_alike alike (.refl factor)

theorem mulVector {matrix other : RowMatrix α rows columns} {vector : Vector α columns}
    (entries : Entrywise (Entrywise Alike) matrix other) :
    Entrywise Alike (matrix.mulVector vector) (other.mulVector vector) :=
  entries.map fun row => Summation.inTurn_related add_alike (.refl 0)
    (row.products (entrywise_alike_refl vector)).forall₂_toList

end Entrywise

omit [Scalar.RespectsEquality α] in
theorem RowMatrix.alike_of_beq {matrix other : RowMatrix α rows columns}
    (equal : (matrix == other) = true) : Entrywise (Entrywise Alike) matrix other :=
  fun i j => .inr (entrywise_of_beq (entrywise_of_beq equal i) j)

/-! ## Rays -/

structure Ray.Alike (left right : Ray α n) : Prop where
  origin : left.origin = right.origin
  cost : left.cost = right.cost
  direction : Entrywise Scalar.Alike left.direction right.direction
  slope : Scalar.Alike left.slope right.slope

namespace Ray.Alike

variable {left right : Ray α n}

theorem point (alike : left.Alike right) (step : α) :
    Entrywise Scalar.Alike (left.point step) (right.point step) := by
  have origin : Entrywise Scalar.Alike left.origin right.origin :=
    alike.origin ▸ entrywise_alike_refl left.origin
  exact origin.add add_alike (alike.direction.scaleVector step)

theorem accepts_eq (alike : left.Alike right) (armijo step : α) {value other : α}
    (values : Scalar.Alike value other) :
    left.accepts armijo step value = right.accepts armijo step other := by
  have predicted : Scalar.Alike (left.cost + armijo * step * left.slope)
      (right.cost + armijo * step * right.slope) :=
    add_alike (.inl alike.cost) (mul_alike (.refl _) alike.slope)
  rw [accepts, accepts, isFinite_eq values, decide_eq_decide.mpr (le_iff values predicted)]

end Ray.Alike

end CurveFitting
