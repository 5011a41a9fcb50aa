import CurveFitting.Proofs.Exact.Secant

/-! # What an approximation learns

On exact numbers an update is that of the textbooks: it projects a symmetric approximation
from both sides and adds a square, so that the new approximation explains the step. Updates
over conjugate steps explain all of them, and turn any approximation into the inverse of the
Hessian.
-/

namespace CurveFitting

open Exact Matrix

variable {α : Type} [Scalar α] {n : Nat}

/-- The approximation after it has learned from steps and the changes of the gradient over
them, one after the other. There is none if it learns nothing from one of them. -/
def InverseHessian.learnEach (inverseHessian : RowMatrix α n n)
    (changes : List (Vector α n × Vector α n)) : Option (RowMatrix α n n) :=
  changes.foldlM (fun current change => update current change.1 change.2) inverseHessian

/-- With a positive curvature, an update replaces a symmetric approximation by one that is
symmetric, takes the change of the gradient back to the step, and is positive definite if
the old one was. Without it there is no update. -/
theorem update_in_product_form {approximation : Matrix (Fin n) (Fin n) ℝ}
    (symmetric : approximation.IsSymm) (s y : Fin n → ℝ) :
    let updated : Option (RowMatrix Exact n n) :=
      InverseHessian.update (matrix approximation) (vector s) (vector y)
    let rho := 1 / (y ⬝ᵥ s)
    let next := (1 - rho • vecMulVec s y) * approximation * (1 - rho • vecMulVec y s) +
      rho • vecMulVec s s
    (0 < y ⬝ᵥ s → updated = some (matrix next) ∧ next.IsSymm ∧ next *ᵥ y = s ∧
      (approximation.PosDef → next.PosDef)) ∧
    (y ⬝ᵥ s ≤ 0 → updated = none) := by
  intro updated rho next
  have product : learned approximation s y = next := learned_eq_projected symmetric
  refine ⟨?_, ?_⟩
  · intro curved
    rw [← product]
    refine ⟨?_, learned_isSymm symmetric, learned_mulVec_self symmetric (ne_of_gt curved),
      fun posDef => learned_posDef posDef curved⟩
    exact (update_real symmetric).trans (if_pos curved)
  · intro flat
    exact (update_real symmetric).trans (if_neg (not_lt.mpr flat))

theorem update_of_identity_explains : ∃ next : Matrix (Fin 2) (Fin 2) ℝ,
    InverseHessian.update (matrix 1) (vector ![1 / 2, -1 / 4]) (vector ![3 / 2, 1 / 4]) =
      some (matrix next) ∧
    next.IsSymm ∧ next *ᵥ ![3 / 2, 1 / 4] = ![1 / 2, -1 / 4] ∧ next.PosDef ∧
    InverseHessian.update (matrix (1 : Matrix (Fin 2) (Fin 2) ℝ)) (vector ![1, 0])
      (vector ![-1, 0]) = none := by
  have curved : (0 : ℝ) < ![3 / 2, 1 / 4] ⬝ᵥ ![1 / 2, -1 / 4] := by
    norm_num
  have falling : (![-1, 0] : Fin 2 → ℝ) ⬝ᵥ ![1, 0] ≤ 0 := by
    norm_num
  rcases (update_in_product_form isSymm_one ![1 / 2, -1 / 4] ![3 / 2, 1 / 4]).1 curved with
    ⟨updated, symmetric, secant, posDef⟩
  exact ⟨_, updated, symmetric, secant, posDef PosDef.one,
    (update_in_product_form isSymm_one ![1, 0] ![-1, 0]).2 falling⟩

/-! ## Conjugate steps -/

section

variable {approximation hessian : Matrix (Fin n) (Fin n) ℝ} {steps : Fin n → Fin n → ℝ}

/-- The steps, each with the change of the gradient over it that a Hessian tells. -/
noncomputable def Exact.changes (hessian : Matrix (Fin n) (Fin n) ℝ)
    (steps : Fin n → Fin n → ℝ) : List (Vector Exact n × Vector Exact n) :=
  List.ofFn fun i => (vector (steps i), (matrix hessian).mulVector (vector (steps i)))

private theorem InverseHessian.learnEach_concat (inverseHessian : RowMatrix α n n)
    (changes : List (Vector α n × Vector α n)) (change : Vector α n × Vector α n) :
    learnEach inverseHessian (changes ++ [change]) =
      (learnEach inverseHessian changes).bind fun current =>
        update current change.1 change.2 := by
  rw [learnEach, List.foldlM_append]
  congr 1
  funext current
  exact bind_pure _

/-- An approximation learns from all conjugate steps, and explains those it has learned
from. -/
theorem Exact.learnEach_take (posDef : approximation.PosDef) (hessianPosDef : hessian.PosDef)
    (conjugate : AreConjugate hessian steps) {count : Nat} (within : count ≤ n) :
    ∃ next, InverseHessian.learnEach (matrix approximation) ((changes hessian steps).take count) =
        some (matrix next) ∧
      Explains next hessian steps count := by
  -- Each update needs a positive definite approximation, and leaves one for the next.
  induction count with
  | zero => exact ⟨approximation, rfl, posDef, fun i before => absurd before (Nat.not_lt_zero i)⟩
  | succ count induction =>
      rcases induction (Nat.le_of_succ_le within) with ⟨current, learns, explains⟩
      let i : Fin n := ⟨count, within⟩
      have explains : Explains current hessian steps i := explains
      have symmetric := isHermitian_iff_isSymm.mp explains.posDef.isHermitian
      have curved := conjugate.change_curved hessianPosDef i
      have inRange : count < (changes hessian steps).length := by
        rwa [changes, List.length_ofFn]
      have longer : (changes hessian steps).take (count + 1) =
          (changes hessian steps).take count ++
            [(vector (steps i), vector (hessian *ᵥ steps i))] := by
        rw [List.take_succ_eq_append_getElem inRange]
        simp [changes, i]
      refine ⟨learned current (steps i) (hessian *ᵥ steps i), ?_,
        explains.learned hessianPosDef conjugate⟩
      rw [longer, InverseHessian.learnEach_concat, learns]
      exact (update_real symmetric).trans (if_pos curved)

end

/-- An approximation that learns from conjugate steps in all directions, over which the
gradient changes as a Hessian tells, accepts each of them, explains those that it has
accepted, and ends as the inverse of the Hessian. -/
theorem conjugate_steps_teach_inverse {approximation hessian : Matrix (Fin n) (Fin n) ℝ}
    {steps : Fin n → Fin n → ℝ} (posDef : approximation.PosDef) (hessianPosDef : hessian.PosDef)
    (conjugate : AreConjugate hessian steps) :
    let after changes := InverseHessian.learnEach (matrix approximation) changes
    (∀ count ≤ n, ∃ next, after ((changes hessian steps).take count) = some (matrix next) ∧
      ∀ i : Fin n, i < count → next *ᵥ hessian *ᵥ steps i = steps i) ∧
    after (changes hessian steps) = some (matrix hessian⁻¹) := by
  intro after
  refine ⟨?_, ?_⟩
  · intro count within
    rcases learnEach_take posDef hessianPosDef conjugate within with ⟨next, learns, explains⟩
    exact ⟨next, learns, explains.secant⟩
  · have all : (changes hessian steps).take n = changes hessian steps :=
      List.take_of_length_le (Nat.le_of_eq List.length_ofFn)
    rcases learnEach_take posDef hessianPosDef conjugate (Nat.le_refl n) with
      ⟨next, learns, explains⟩
    rw [all] at learns
    rwa [conjugate.eq_inv hessianPosDef fun i => explains.secant i i.isLt] at learns

theorem Exact.tilted_posDef : (!![2, 1; 1, 2] : Matrix (Fin 2) (Fin 2) ℝ).PosDef := by
  refine .of_dotProduct_mulVec_pos (isHermitian_iff_isSymm.mpr ?_) ?_
  · ext i j
    fin_cases i <;> fin_cases j <;> rfl
  · intro v nonzero
    have squares : star v ⬝ᵥ !![2, 1; 1, 2] *ᵥ v = v 0 ^ 2 + v 1 ^ 2 + (v 0 + v 1) ^ 2 := by
      simp [dotProduct, mulVec, Fin.sum_univ_two]
      ring
    rw [squares]
    by_cases first : v 0 = 0
    · have second : v 1 ≠ 0 := by
        intro second
        apply nonzero
        ext i
        fin_cases i
        · exact first
        · exact second
      positivity
    · positivity

private theorem Exact.tilted_conjugate :
    AreConjugate (!![2, 1; 1, 2] : Matrix (Fin 2) (Fin 2) ℝ) ![![1, 0], ![1, -2]] where
  nonzero i := by
    fin_cases i <;> simp
  conjugate i j different := by
    fin_cases i <;> fin_cases j <;>
      simp [dotProduct, mulVec, Fin.sum_univ_two] at different ⊢

/-- Two conjugate steps teach the inverse of a Hessian whose axes are not those of the
parameters. -/
theorem two_steps_teach_tilted_inverse :
    InverseHessian.learnEach (matrix 1) (changes !![2, 1; 1, 2] ![![1, 0], ![1, -2]]) =
      some (matrix !![2, 1; 1, 2]⁻¹) :=
  (conjugate_steps_teach_inverse PosDef.one tilted_posDef tilted_conjugate).2

end CurveFitting
