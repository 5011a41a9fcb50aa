import CurveFitting.Proofs.Settings

/-! # Halves of one

A line search tries the halves of one from one on, as long as they reach a floor. The
bound on their number is there for the recursion only: where the halves fall below every
positive floor within the bound, it leaves none of them out.
-/

namespace CurveFitting

variable {α : Type} [Scalar α]

def Scalar.halved : (count : Nat) → α
  | 0 => 1
  | count + 1 => halved count * 0.5

/-- Scalars whose halves of one fall, and fall below a positive floor within the bound on
their number. -/
class Scalar.ExhaustsHalves (α : Type) [Scalar α] : Prop extends Scalar.Halving α where
  halves_fall {floor : α} {count : Nat} (reached : floor ≤ Scalar.halved (count + 1)) :
    floor ≤ Scalar.halved count
  halves_exhausted {floor : α} (positive : 0 < floor) :
    ¬floor ≤ Scalar.halved (Scalar.halvings floor)

namespace Scalar.ExhaustsHalves

variable [Scalar.ExhaustsHalves α] {floor : α}

theorem le_halved {first count : Nat} (within : first ≤ count)
    (reached : floor ≤ Scalar.halved count) : floor ≤ Scalar.halved first := by
  induction within with
  | refl => exact reached
  | step _ induction => exact induction (halves_fall reached)

private theorem lt_halvings (positive : 0 < floor) {count : Nat}
    (reached : floor ≤ Scalar.halved count) : count < Scalar.halvings floor := by
  rcases Nat.lt_or_ge count (Scalar.halvings floor) with within | beyond
  · exact within
  · exact absurd (le_halved beyond reached) (halves_exhausted positive)

end Scalar.ExhaustsHalves

namespace LineSearch

open Scalar.ExhaustsHalves

variable {floor : α}

private theorem halvingsFrom_eq_map (floor : α) (count first : Nat) :
    halvingsFrom floor count (Scalar.halved first) =
      (List.range' first (halvingsFrom floor count (Scalar.halved first)).length).map
        Scalar.halved := by
  induction count generalizing first with
  | zero => rfl
  | succ count induction =>
      rw [halvingsFrom]
      split
      · exact congrArg (Scalar.halved first :: ·) (induction (first + 1))
      · rfl

theorem multipliers_eq_map (floor : α) :
    multipliers floor = (List.range (multipliers floor).length).map Scalar.halved := by
  rw [List.range_eq_range']
  exact halvingsFrom_eq_map floor _ 0

variable [Scalar.ExhaustsHalves α]

private theorem lt_length_halvingsFrom (floor : α) (count first index : Nat) :
    index < (halvingsFrom floor count (Scalar.halved first)).length ↔
      index < count ∧ floor ≤ Scalar.halved (first + index) := by
  induction count generalizing first index with
  | zero => simp [halvingsFrom]
  | succ count induction =>
      by_cases reached : floor ≤ Scalar.halved first
      · rw [halvingsFrom, if_pos reached]
        cases index with
        | zero => simp [reached]
        | succ index =>
            rw [List.length_cons, Nat.succ_lt_succ_iff, Nat.succ_lt_succ_iff, ← Nat.add_assoc,
              Nat.add_right_comm]
            exact induction (first + 1) index
      · rw [halvingsFrom, if_neg reached]
        constructor
        · intro within
          exact absurd within (Nat.not_lt_zero index)
        · intro later
          exact absurd (le_halved (Nat.le_add_right first index) later.2) reached

theorem lt_length_multipliers (positive : 0 < floor) {count : Nat} :
    count < (multipliers floor).length ↔ floor ≤ Scalar.halved count := by
  have counted := lt_length_halvingsFrom floor (Scalar.halvings floor) 0 count
  rw [Nat.zero_add] at counted
  exact counted.trans (and_iff_right_of_imp (lt_halvings positive))

end LineSearch

end CurveFitting
