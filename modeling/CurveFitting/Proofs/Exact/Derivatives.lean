import CurveFitting.Differences
import CurveFitting.Proofs.Exact.Linear

/-! # Differences on exact numbers

The derivatives that a fit works with are real numbers, whatever the objective, and
they are the differences of values that the objective has answered.
-/

namespace CurveFitting.Exact

open Differences

variable {σ ε : Type} {n : Nat} {objective : Objective Exact σ ε}

def Answers (objective : Objective Exact σ ε) (point : Fin n → ℝ) (value : ℝ) : Prop :=
  ∃ before after, objective.evaluate (vector point).toList before = (.ok (real value), after)

theorem shift_real (x : Fin n → ℝ) (i : Fin n) (distance : ℝ) :
    shift (vector x) i (real distance) = vector (x + Pi.single i distance) := by
  ext j within
  rw [shift, Vector.getElem_set, get_vector]
  split
  · rename_i equal
    subst equal
    simp
  · rename_i different
    have elsewhere : (⟨j, within⟩ : Fin n) ≠ i := fun equal => different (equal ▸ rfl)
    simp [elsewhere]

/-! ## Perturbations -/

theorem perturbations_real (differences : Differences Exact n) (x : Fin n → ℝ) :
    ∃ h : Fin n → ℝ, (∀ i, 0 < h i) ∧ differences.perturbations (vector x) = vector h := by
  have perturbed (i : Fin n) :
      ∃ h : ℝ, 0 < h ∧ differences.perturbation i (real (x i)) = real h := by
    have resolution : 0 < (1.490116119384765625e-8 : ℝ) * (1 + |x i|) := by positivity
    exact larger_real resolution
  choose h positive equal using perturbed
  refine ⟨h, positive, ?_⟩
  ext i within
  rw [perturbations, Vector.getElem_ofFn, get_vector, equal, getElem_vector]

/-! ## Gradients -/

def IsGradient (objective : Objective Exact σ ε) (x h gradient : Fin n → ℝ) : Prop :=
  ∀ i, ∃ above below, Answers objective (x + Pi.single i (h i)) above ∧
    Answers objective (x + Pi.single i (-h i)) below ∧
    gradient i = (above - below) / (h i + h i)

/-! ## Hessians -/

inductive IsSecondDerivative (objective : Objective Exact σ ε) (x : Fin n → ℝ) (cost : ℝ)
    (h : Fin n → ℝ) : Fin n → Fin n → ℝ → Prop
  | single {i above below}
      (fromAbove : Answers objective (x + Pi.single i (h i)) above)
      (fromBelow : Answers objective (x + Pi.single i (-h i)) below) :
      IsSecondDerivative objective x cost h i i ((above + below - 2 * cost) / (h i * h i))
  | mixed {i j aboveAbove aboveBelow belowAbove belowBelow} (different : i ≠ j)
      (first : Answers objective (x + Pi.single i (h i) + Pi.single j (h j)) aboveAbove)
      (second : Answers objective (x + Pi.single i (h i) + Pi.single j (-h j)) aboveBelow)
      (third : Answers objective (x + Pi.single i (-h i) + Pi.single j (h j)) belowAbove)
      (fourth : Answers objective (x + Pi.single i (-h i) + Pi.single j (-h j)) belowBelow) :
      IsSecondDerivative objective x cost h i j
        ((aboveAbove - aboveBelow - belowAbove + belowBelow) / (2 * (2 * h i) * h j))

/-! ## Objectives that always answer -/

def Total (objective : Objective Exact σ ε) (function : (Fin n → ℝ) → ℝ) : Prop :=
  ∀ point memory, objective.evaluate (vector point).toList memory =
    (.ok (real (function point)), memory)

/-- Every number that the objective answers is the value of a function. -/
def Computes (objective : Objective Exact σ ε) (function : (Fin n → ℝ) → ℝ) : Prop :=
  ∀ point value, Answers objective point value → value = function point

namespace Total

variable {function : (Fin n → ℝ) → ℝ}

theorem computes (total : Total objective function) : Computes objective function := by
  intro point value answers
  rcases answers with ⟨before, after, evaluated⟩
  rw [total point before] at evaluated
  exact (real.inj (Except.ok.inj (Prod.mk.inj evaluated).1)).symm

end Total

end CurveFitting.Exact
