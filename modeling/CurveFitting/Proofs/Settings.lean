import CurveFitting.Minimizer.LineSearch
import CurveFitting.Minimizer.Config
import CurveFitting.Scalar

/-! # Scalars and settings

What fits rely on when they count multipliers and tell missing values from others.
-/

namespace CurveFitting

variable {α : Type} [Scalar α]

/-! ## Multipliers -/

/-- Scalars that leave room for the first multiplier of every valid floor. -/
class Scalar.Halving (α : Type) [Scalar α] : Prop where
  halvings_pos {floor : α} (positive : 0 < floor) (within : floor ≤ 1) :
    0 < Scalar.halvings floor

instance : Scalar.Halving Float where
  halvings_pos _ _ := Nat.succ_pos 1074

theorem LineSearch.multipliers_eq_cons [Scalar.Halving α] {floor : α} (positive : 0 < floor)
    (within : floor ≤ 1) : ∃ rest, multipliers floor = 1 :: rest := by
  rcases Nat.exists_eq_succ_of_ne_zero (Nat.ne_of_gt (Scalar.Halving.halvings_pos positive
      within)) with ⟨count, enough⟩
  rw [multipliers, enough, halvingsFrom, if_pos within]
  exact ⟨_, rfl⟩

theorem Config.multipliers_ne_nil [Scalar.Halving α] (config : Config α) :
    LineSearch.multipliers config.minStep ≠ [] := by
  rcases LineSearch.multipliers_eq_cons config.minStep_positive config.minStep_le_one with
    ⟨rest, given⟩
  exact given ▸ List.cons_ne_nil 1 rest

/-! ## Missing values -/

/-- Scalars that tell the mark of a missing value from every finite value. -/
class Scalar.MarksMissing (α : Type) [Scalar α] : Prop where
  isNaN_notANumber : Scalar.isNaN (Scalar.notANumber : α) = true
  isNaN_of_isFinite {value : α} (finite : Scalar.isFinite value = true) :
    Scalar.isNaN value = false

instance : Scalar.MarksMissing Float where
  isNaN_notANumber := by decide +kernel
  isNaN_of_isFinite {value} finite := by
    change value.toModel.unpack.isFinite = true at finite
    change value.toModel.unpack.isNaN = false
    cases kind : value.toModel.unpack with
    | notANumber =>
        rw [kind] at finite
        cases finite
    | _ => rfl

/-- Scalars whose missing values are neither below nor above any other. -/
class Scalar.ComparesPresent (α : Type) [Scalar α] : Prop extends Scalar.MarksMissing α where
  present_of_le {left right : α} (below : left ≤ right) :
    Scalar.isNaN left = false ∧ Scalar.isNaN right = false

instance : Scalar.ComparesPresent Float where
  present_of_le {left right} below := by
    change decide (left.toModel ≤ right.toModel) = true at below
    have compared : left.toModel.unpack.le right.toModel.unpack = true :=
      of_decide_eq_true below
    change left.toModel.unpack.isNaN = false ∧ right.toModel.unpack.isNaN = false
    cases leftKind : left.toModel.unpack with
    | notANumber =>
        rw [leftKind] at compared
        cases compared
    | _ =>
        rw [leftKind] at compared
        cases rightKind : right.toModel.unpack with
        | notANumber =>
            rw [rightKind] at compared
            cases compared
        | _ => exact ⟨rfl, rfl⟩

end CurveFitting
