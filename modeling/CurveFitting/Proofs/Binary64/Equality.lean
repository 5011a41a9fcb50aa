import CurveFitting.Proofs.Binary64.Order
import CurveFitting.Proofs.Equality
import CurveFitting.Proofs.Symmetry

/-! # Equal binary64 numbers

Two binary64 numbers are equal if they are stored alike or are both a zero. The sign of a
zero is passed on by sums and products, but only to other zeros.
-/

namespace CurveFitting.Binary64

open Float.Model Float.Model.UnpackedFloat

/-- Two numbers differ at most in the sign of a zero. -/
inductive SameValue : UnpackedFloat → UnpackedFloat → Prop
  | same (number : UnpackedFloat) : SameValue number number
  | zeros (sign other : Sign) : SameValue (.zero sign) (.zero other)

variable {left right first second : UnpackedFloat}

/-! ## Comparing -/

private theorem sameValue_of_compare (equal : left.compare right = some .eq) :
    SameValue left right := by
  cases left with
  | notANumber => cases equal
  | infinity sign =>
      cases right with
      | notANumber => cases sign <;> cases equal
      | infinity other => cases sign <;> cases other <;> first | exact .same _ | cases equal
      | zero => cases sign <;> cases equal
      | finite => cases sign <;> cases equal
  | zero sign =>
      cases right with
      | notANumber => cases equal
      | infinity other => cases other <;> cases equal
      | zero other => exact .zeros sign other
      | finite other => cases other <;> cases equal
  | finite sign mantissa exponent =>
      cases right with
      | notANumber => cases sign <;> cases equal
      | infinity other => cases sign <;> cases other <;> cases equal
      | zero => cases sign <;> cases equal
      | finite other second scale =>
          have digits (matched : (compare exponent scale).then (compare mantissa second) = .eq) :
              exponent = scale ∧ mantissa = second :=
            (Ordering.then_eq_eq.mp matched).imp Int.compare_eq_eq.mp Nat.compare_eq_eq.mp
          cases sign <;> cases other
          · rcases digits (Ordering.swap_eq_eq.mp (Option.some.inj equal)) with ⟨rfl, rfl⟩
            exact .same _
          · cases equal
          · cases equal
          · rcases digits (Option.some.inj equal) with ⟨rfl, rfl⟩
            exact .same _

private theorem SameValue.level_eq (same : SameValue left right) : level left = level right := by
  cases same with
  | same => rfl
  | zeros => rfl

/-! ## Operations -/

private theorem add_zeros (sign other : Sign) :
    ∃ total, UnpackedFloat.add .binary64 (.zero sign) (.zero other) = .zero total := by
  cases sign <;> cases other <;> exact ⟨_, rfl⟩

private theorem sameValue_zero_add (sign other : Sign) (number : UnpackedFloat) :
    SameValue (UnpackedFloat.add .binary64 (.zero sign) number)
      (UnpackedFloat.add .binary64 (.zero other) number) := by
  cases number with
  | zero third =>
      rcases add_zeros sign third with ⟨total, sum⟩
      rcases add_zeros other third with ⟨another, alsoSum⟩
      rw [sum, alsoSum]
      exact .zeros total another
  | _ => exact .same _

private theorem sameValue_zero_mul (sign other : Sign) (number : UnpackedFloat) :
    SameValue (UnpackedFloat.mul .binary64 (.zero sign) number)
      (UnpackedFloat.mul .binary64 (.zero other) number) := by
  cases number with
  | zero => exact .zeros _ _
  | finite => exact .zeros _ _
  | _ => exact .same _

namespace SameValue

private theorem trans {third : UnpackedFloat} (same : SameValue left right)
    (next : SameValue right third) : SameValue left third := by
  cases same with
  | same => exact next
  | zeros sign =>
      cases next with
      | same => exact .zeros _ _
      | zeros => exact .zeros _ _

/-- An operation whose operands may be exchanged, and that passes the sign of a zero on to
zeros only, keeps the value. -/
theorem operate {operation : UnpackedFloat → UnpackedFloat → UnpackedFloat}
    (comm : ∀ left right, operation left right = operation right left)
    (zero : ∀ sign other number,
      SameValue (operation (.zero sign) number) (operation (.zero other) number))
    (same : SameValue left right) (others : SameValue first second) :
    SameValue (operation left first) (operation right second) := by
  have ahead {low high : UnpackedFloat} (change : SameValue low high) (kept : UnpackedFloat) :
      SameValue (operation low kept) (operation high kept) := by
    cases change with
    | same => exact .same _
    | zeros sign other => exact zero sign other kept
  -- One operand is replaced after the other, the second one in the place of the first.
  refine (ahead same first).trans ?_
  rw [comm right first, comm right second]
  exact ahead others right

private theorem add (same : SameValue left right) (others : SameValue first second) :
    SameValue (UnpackedFloat.add .binary64 left first)
      (UnpackedFloat.add .binary64 right second) :=
  operate (unpacked_add_comm _) sameValue_zero_add same others

private theorem mul (same : SameValue left right) (others : SameValue first second) :
    SameValue (UnpackedFloat.mul .binary64 left first)
      (UnpackedFloat.mul .binary64 right second) :=
  operate (unpacked_mul_comm _) sameValue_zero_mul same others

private theorem neg (same : SameValue left right) : SameValue left.neg right.neg := by
  cases same with
  | same => exact .same _
  | zeros => exact .zeros _ _

private theorem isFinite_eq (same : SameValue left right) : left.isFinite = right.isFinite := by
  cases same with
  | same => rfl
  | zeros => rfl

end SameValue

/-! ## Stored numbers -/

variable {number other : Float}

private theorem sameValue_of_alike (alike : Scalar.Alike number other) :
    SameValue number.toModel.unpack other.toModel.unpack := by
  rcases alike with rfl | equal
  · exact .same _
  · change (number.toModel.unpack.compare other.toModel.unpack == some .eq) = true at equal
    exact sameValue_of_compare (beq_iff_eq.mp equal)

private theorem SameValue.alike (same : SameValue left right) :
    Scalar.Alike (Float.ofModel (Float.Model.pack left))
      (Float.ofModel (Float.Model.pack right)) := by
  cases same with
  | same => exact .refl _
  | zeros sign other => cases sign <;> cases other <;> exact .inr (by decide +kernel)

instance : Scalar.RespectsEquality Float where
  add_alike alike others := ((sameValue_of_alike alike).add (sameValue_of_alike others)).alike
  mul_alike alike others := ((sameValue_of_alike alike).mul (sameValue_of_alike others)).alike
  neg_alike alike := (sameValue_of_alike alike).neg.alike
  isFinite_eq alike := (sameValue_of_alike alike).isFinite_eq
  le_iff alike bounds := by
    rw [le_iff, le_iff, AtMost, AtMost, (sameValue_of_alike alike).level_eq,
      (sameValue_of_alike bounds).level_eq]

end CurveFitting.Binary64
