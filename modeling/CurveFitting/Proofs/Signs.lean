import CurveFitting.Proofs.Settings
import CurveFitting.Proofs.Sums

/-! # Signs

Rounded numbers do not obey the laws of a field, but their signs are right. That is
enough to tell a direction that points downhill. Binary64 numbers respect signs, and so do
exact ones.
-/

namespace CurveFitting

variable {α : Type} [Scalar α]

/-- Scalars whose operations respect signs. The rules speak of numbers that are not
positive and of numbers that are not negative. A missing value is both. -/
class Scalar.RespectsSigns (α : Type) [Scalar α] : Prop extends Scalar.ComparesPresent α where
  lt_asymm {left right : α} (below : left < right) : ¬right < left
  le_trans {low middle high : α} (below : low ≤ middle) (above : middle ≤ high) : low ≤ high
  one_pos : (0 : α) < 1
  half_pos : (0 : α) < 0.5
  neg_not_pos {value : α} (nonnegative : ¬value < 0) : ¬0 < -value
  neg_not_neg {value : α} (nonpositive : ¬0 < value) : ¬-value < 0
  mul_not_neg {left right : α} (first : ¬left < 0) (second : ¬right < 0) : ¬left * right < 0
  mul_not_neg_of_not_pos {left right : α} (first : ¬0 < left) (second : ¬0 < right) :
    ¬left * right < 0
  mul_not_pos {left right : α} (first : ¬left < 0) (second : ¬0 < right) : ¬0 < left * right
  mul_not_pos_of_not_pos {left right : α} (first : ¬0 < left) (second : ¬right < 0) :
    ¬0 < left * right
  add_not_pos {left right : α} (first : ¬0 < left) (second : ¬0 < right) : ¬0 < left + right
  add_not_neg {left right : α} (first : ¬left < 0) (second : ¬right < 0) : ¬left + right < 0
  add_le {number change : α} (nonpositive : ¬0 < change)
    (present : Scalar.isNaN (number + change) = false) : number + change ≤ number

namespace Scalar.RespectsSigns

variable [Scalar.RespectsSigns α]

theorem lt_irrefl (value : α) : ¬value < value := fun below => lt_asymm below below

theorem not_neg_or_not_pos (value : α) : ¬value < 0 ∨ ¬0 < value := by
  by_cases negative : value < 0
  · exact .inr (lt_asymm negative)
  · exact .inl negative

theorem square_not_neg (value : α) : ¬value * value < 0 := by
  rcases not_neg_or_not_pos value with nonnegative | nonpositive
  · exact mul_not_neg nonnegative nonnegative
  · exact mul_not_neg_of_not_pos nonpositive nonpositive

theorem le_of_le_add {value number change : α} (nonpositive : ¬0 < change)
    (below : value ≤ number + change) : value ≤ number :=
  le_trans below (add_le nonpositive (ComparesPresent.present_of_le below).2)

end Scalar.RespectsSigns

/-! ## Products of vectors -/

theorem mem_products_iff {n : Nat} {left right : Vector α n} {term : α} :
    term ∈ (Vector.zipWith (· * ·) left right).toList ↔ ∃ i, left.get i * right.get i = term := by
  rw [Vector.mem_toList_iff, Vector.mem_iff_getElem]
  constructor
  · intro listed
    rcases listed with ⟨i, within, rfl⟩
    exact ⟨⟨i, within⟩, (Vector.getElem_zipWith ..).symm⟩
  · intro product
    rcases product with ⟨i, rfl⟩
    exact ⟨i, i.isLt, Vector.getElem_zipWith ..⟩

end CurveFitting
