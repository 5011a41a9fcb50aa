import Mathlib.Algebra.BigOperators.Fin
import Mathlib.LinearAlgebra.Matrix.PosDef
import Mathlib.Tactic.Ring
import CurveFitting.Proofs.Exact.Number
import CurveFitting.Minimizer.InverseHessian

/-! # Linear algebra on exact numbers

On vectors and matrices of real numbers the operations of a fit are those of linear
algebra, whatever the order in which they sum.
-/

namespace CurveFitting.Exact

open Matrix

variable {n : Nat}

def vector (entries : Fin n → ℝ) : Vector Exact n := Vector.ofFn fun i => real (entries i)

def matrix (entries : Matrix (Fin n) (Fin n) ℝ) : RowMatrix Exact n n :=
  RowMatrix.ofEntries fun i j => real (entries i j)

@[simp] theorem getElem_vector (entries : Fin n → ℝ) (i : Nat) (within : i < n) :
    (vector entries)[i] = real (entries ⟨i, within⟩) := by
  simp [vector]

@[simp] theorem getElem_matrix (entries : Matrix (Fin n) (Fin n) ℝ) (i : Nat)
    (within : i < n) : (matrix entries)[i] = vector fun j => entries ⟨i, within⟩ j := by
  simp [matrix, vector, RowMatrix.ofEntries]

@[simp] theorem get_vector (entries : Fin n → ℝ) (i : Fin n) :
    (vector entries).get i = real (entries i) := getElem_vector entries i.val i.isLt

@[simp] theorem get_matrix (entries : Matrix (Fin n) (Fin n) ℝ) (i : Fin n) :
    (matrix entries).get i = vector (entries i) := getElem_matrix entries i.val i.isLt

theorem exists_vector {scalars : Vector Exact n} {holds : ℝ → Prop}
    (reals : ∀ i (within : i < n), ∃ value, scalars[i] = real value ∧ holds value) :
    ∃ entries : Fin n → ℝ, scalars = vector entries ∧ ∀ i, holds (entries i) := by
  choose entries equal holding using reals
  refine ⟨fun i => entries i.val i.isLt, ?_, fun i => holding i.val i.isLt⟩
  ext i within
  rw [equal i within, getElem_vector]

/-! ## Entries -/

variable (left right : Fin n → ℝ) (factor : ℝ) (first second : Matrix (Fin n) (Fin n) ℝ)

@[simp] theorem vector_add : vector left + vector right = vector (left + right) := by
  ext i within
  simp

@[simp] theorem vector_sub : vector left - vector right = vector (left - right) := by
  ext i within
  simp

@[simp] theorem vector_neg : -vector left = vector (-left) := by
  ext i within
  simp

@[simp] theorem scaleVector_vector :
    scaleVector (vector left) (real factor) = vector (factor • left) := by
  ext i within
  simp [scaleVector, mul_comm]

@[simp] theorem matrix_add : matrix first + matrix second = matrix (first + second) := by
  ext i within
  simp

@[simp] theorem matrix_sub : matrix first - matrix second = matrix (first - second) := by
  ext i within
  simp

@[simp] theorem outer_vector :
    RowMatrix.outer (vector left) (vector right) = matrix (vecMulVec left right) := by
  simp [RowMatrix.outer, matrix, vecMulVec_apply]

@[simp] theorem transpose_matrix : RowMatrix.transpose (matrix first) = matrix firstᵀ := by
  ext i within
  simp [RowMatrix.transpose, RowMatrix.ofEntries]

@[simp] theorem scale_matrix :
    RowMatrix.scale (matrix first) (real factor) = matrix (factor • first) := by
  ext i within
  simp [RowMatrix.scale]

@[simp] theorem isFinite_matrix : RowMatrix.isFinite (matrix first) = true := by
  simp [RowMatrix.isFinite]

theorem diagonal_vector : RowMatrix.diagonal (vector left) = matrix (Matrix.diagonal left) := by
  unfold RowMatrix.diagonal matrix
  congr 1
  funext i j
  rcases eq_or_ne i j with rfl | different
  · simp
  · simp [different]

theorem symmetrize_matrix (symmetric : first.IsSymm) :
    RowMatrix.symmetrize (matrix first) = matrix first := by
  rw [RowMatrix.symmetrize, transpose_matrix, symmetric, matrix_add, half_eq, scale_matrix,
    ← two_smul ℝ first, smul_smul]
  norm_num

theorem vector_injective : Function.Injective (vector (n := n)) := by
  intro left right equal
  funext i
  have entry := congrArg (·[i]) equal
  simpa using entry

theorem matrix_injective : Function.Injective (matrix (n := n)) := by
  intro first second equal
  funext i
  have row := congrArg (·.get i) equal
  simp only [get_matrix] at row
  exact vector_injective row

/-! ## Sums -/

private theorem foldl_add_real (terms : List ℝ) (start : ℝ) :
    (terms.map real).foldl (· + ·) (real start) = real (start + terms.sum) := by
  induction terms generalizing start with
  | nil => simp
  | cons first rest induction =>
      rw [List.map_cons, List.foldl_cons, add_eq, induction, List.sum_cons, add_assoc]

private theorem inTurn_real (terms : List ℝ) :
    Summation.inTurn (terms.map real) = real terms.sum := by
  cases terms with
  | nil => rfl
  | cons first rest =>
      have flipped : (fun total term : Exact => term + total) = (· + ·) := by
        funext total term
        cases total with
        | missing => cases term <;> rfl
        | real total =>
            cases term with
            | missing => rfl
            | real term => rw [add_eq, add_eq, add_comm]
      rw [List.map_cons, Summation.inTurn, flipped, foldl_add_real, List.sum_cons]

private theorem lanes_real (sums : Fin 8 → ℝ) (terms : List ℝ) :
    ∃ filled rest, Summation.lanes (vector sums) (terms.map real) =
      (vector filled, List.map real rest) ∧
      ∑ i, filled i + rest.sum = ∑ i, sums i + terms.sum := by
  match terms with
  | a :: b :: c :: d :: e :: f :: g :: h :: rest =>
      rcases lanes_real (sums + ![a, b, c, d, e, f, g, h]) rest with ⟨filled, left, equal, total⟩
      have block : #v[real a, real b, real c, real d, real e, real f, real g, real h] =
          vector ![a, b, c, d, e, f, g, h] := rfl
      refine ⟨filled, left, ?_, ?_⟩
      · simp only [List.map_cons]
        rw [Summation.lanes, block, vector_add, equal]
      · rw [total]
        simp [Fin.sum_univ_eight]
        ring
  | [] | [_] | [_, _] | [_, _, _] | [_, _, _, _] | [_, _, _, _, _] | [_, _, _, _, _, _]
  | [_, _, _, _, _, _, _] => exact ⟨sums, _, rfl, rfl⟩

theorem interleaved_real (terms : List ℝ) :
    Summation.interleaved (terms.map real) = real terms.sum := by
  have start : Vector.replicate 8 (0 : Exact) = vector 0 := rfl
  rcases lanes_real 0 terms with ⟨filled, rest, equal, total⟩
  have joined : Summation.joinLanes (vector filled) = real (∑ i, filled i) := by
    simp [Summation.joinLanes, Fin.sum_univ_eight]
    ring
  rw [Summation.interleaved, start, equal]
  simp only
  rw [joined, foldl_add_real, total]
  simp

private theorem products_vector : (Vector.zipWith (· * ·) (vector left) (vector right)).toList =
    (List.ofFn fun i => left i * right i).map real := by
  apply List.ext_getElem
  · simp
  · intro i _ _
    simp

@[simp] theorem dot_vector : dot (vector left) (vector right) = real (left ⬝ᵥ right) := by
  rw [dot, products_vector, interleaved_real, List.sum_ofFn]
  rfl

@[simp] theorem mulVector_matrix :
    (matrix first).mulVector (vector left) = vector (first *ᵥ left) := by
  ext i within
  simp only [RowMatrix.mulVector, Vector.getElem_map, getElem_matrix, getElem_vector]
  rw [products_vector, inTurn_real, List.sum_ofFn]
  rfl

/-! ## Quadratic forms -/

theorem dotProduct_vecMulVec_mulVec (v w : Fin n → ℝ) :
    v ⬝ᵥ vecMulVec left right *ᵥ w = (v ⬝ᵥ left) * (right ⬝ᵥ w) := by
  rw [vecMulVec_mulVec, op_smul_eq_smul, dotProduct_smul, smul_eq_mul, mul_comm]

variable {first}

theorem dotProduct_mulVec_comm (symmetric : first.IsSymm) :
    left ⬝ᵥ first *ᵥ right = right ⬝ᵥ first *ᵥ left := by
  rw [dotProduct_mulVec, ← mulVec_transpose, symmetric, dotProduct_comm]

end CurveFitting.Exact
