import Mathlib.Algebra.BigOperators.Field
import Mathlib.LinearAlgebra.Matrix.Block
import CurveFitting.Proofs.Exact.Linear

/-! # Elimination on exact numbers

On a symmetric matrix of real numbers the elimination finds a triangular factor
exactly where the matrix is positive definite.
-/

namespace CurveFitting.Exact

open Matrix

variable {n count : Nat}

def columns (found : Fin count → Fin n → ℝ) : Vector (Vector Exact n) count :=
  Vector.ofFn fun k => vector (found k)

/-- What the columns found so far leave of a matrix. -/
def residual (entries : Matrix (Fin n) (Fin n) ℝ) (found : Fin count → Fin n → ℝ) :
    Matrix (Fin n) (Fin n) ℝ :=
  entries - ∑ k, vecMulVec (found k) (found k)

/-- The column that clears row and column `j` of what is left. -/
noncomputable def pivotColumn (left : Matrix (Fin n) (Fin n) ℝ) (j i : Fin n) : ℝ :=
  left i j / √(left j j)

variable {entries : Matrix (Fin n) (Fin n) ℝ} {found : Fin count → Fin n → ℝ}

private theorem columns_snoc (column : Fin n → ℝ) :
    columns (Fin.snoc found column) = (columns found).push (vector column) := by
  unfold columns
  rw [Vector.ofFn_succ]
  simp only [Fin.snoc_castSucc]
  exact congrArg _ (congrArg vector (Fin.snoc_last ..))

private theorem residual_snoc (column : Fin n → ℝ) :
    residual entries (Fin.snoc found column) =
      residual entries found - vecMulVec column column := by
  simp [residual, Fin.sum_univ_castSucc, sub_sub]

private theorem residual_isSymm (symmetric : entries.IsSymm) : (residual entries found).IsSymm := by
  unfold residual
  apply symmetric.sub
  ext i j
  simp [Matrix.sum_apply, vecMulVec_apply, mul_comm]

/-- What a part of the elimination has done: the columns form the head of a
triangular factor, and their rows of what is left are zero. -/
structure Eliminated (entries : Matrix (Fin n) (Fin n) ℝ) (found : Fin count → Fin n → ℝ) :
    Prop where
  lower : ∀ (k : Fin count) (i : Fin n), i.val < k.val → found k i = 0
  positive : ∀ (k : Fin count) (i : Fin n), i.val = k.val → 0 < found k i
  cleared : ∀ (i j : Fin n), i.val < count → residual entries found i j = 0

private theorem Eliminated.none : Eliminated entries (Fin.elim0 : Fin 0 → Fin n → ℝ) where
  lower k := k.elim0
  positive k := k.elim0
  cleared _ _ impossible := absurd impossible (Nat.not_lt_zero _)

private theorem pivotColumn_pivot {left : Matrix (Fin n) (Fin n) ℝ} {j : Fin n} :
    pivotColumn left j j = √(left j j) := by
  rw [pivotColumn, Real.div_sqrt]

private theorem Eliminated.next (eliminated : Eliminated entries found) (symmetric : entries.IsSymm)
    {j : Fin n} (position : j.val = count) (pivot : 0 < residual entries found j j) :
    Eliminated entries (Fin.snoc found (pivotColumn (residual entries found) j) :
      Fin (count + 1) → Fin n → ℝ) := by
  -- The new column is zero in the rows that are cleared, which it leaves so.
  have zero {i : Fin n} (before : i.val < count) :
      pivotColumn (residual entries found) j i = 0 := by
    rw [pivotColumn, eliminated.cleared i j before, zero_div]
  constructor
  · intro k i before
    refine Fin.lastCases (fun before => ?_) (fun k before => ?_) k before
    · rw [Fin.snoc_last]
      exact zero before
    · rw [Fin.snoc_castSucc]
      exact eliminated.lower k i before
  · intro k i diagonal
    refine Fin.lastCases (fun diagonal => ?_) (fun k diagonal => ?_) k diagonal
    · rcases Fin.ext (diagonal.trans position.symm) with rfl
      rw [Fin.snoc_last, pivotColumn_pivot]
      exact Real.sqrt_pos.mpr pivot
    · rw [Fin.snoc_castSucc]
      exact eliminated.positive k i diagonal
  · intro i k before
    rw [residual_snoc, Matrix.sub_apply, vecMulVec_apply]
    rcases Nat.lt_succ_iff_lt_or_eq.mp before with earlier | diagonal
    · rw [zero earlier, eliminated.cleared i k earlier, zero_mul, sub_zero]
    · rcases Fin.ext (diagonal.trans position.symm) with rfl
      rw [pivotColumn_pivot, pivotColumn, mul_div_cancel₀ _ (Real.sqrt_ne_zero'.mpr pivot),
        (residual_isSymm symmetric).apply, sub_self]

/-! ## The elimination of the program -/

private theorem foldl_columns (i j : Fin n) (start : ℝ) :
    (columns found).foldl (fun entry column => -column.get j * column.get i + entry) (real start) =
      real (start - ∑ k, found k j * found k i) := by
  induction count generalizing start with
  | zero => simp [columns, Vector.foldl]
  | succ count induction =>
      rw [← Fin.snoc_init_self found, columns_snoc, Vector.foldl_push, induction]
      simp only [Fin.sum_univ_castSucc, Fin.snoc_castSucc, Fin.snoc_last, get_vector,
        neg_eq, mul_eq, add_eq]
      congr 1
      ring

private theorem reduced_real (j : Fin n) :
    Cholesky.reduced (matrix entries) (columns found) j =
      vector fun i => residual entries found i j := by
  ext i within
  rw [Cholesky.reduced, Vector.getElem_ofFn, get_matrix, get_vector, foldl_columns, getElem_vector]
  simp [residual, Matrix.sum_apply, vecMulVec_apply, mul_comm]

private theorem nextColumn_of_pos (eliminated : Eliminated entries found) {j : Fin n}
    (position : j.val = count) (pivot : 0 < residual entries found j j) :
    Cholesky.nextColumn (matrix entries) (columns found) j =
      some (vector (pivotColumn (residual entries found) j)) := by
  have root := Real.sqrt_ne_zero'.mpr pivot
  rw [Cholesky.nextColumn, reduced_real]
  simp only [get_vector, zero_eq, lt_iff]
  rw [if_pos pivot, sqrt_eq (le_of_lt pivot)]
  congr 1
  ext i within
  rw [getElem_vector, Vector.getElem_ofFn]
  split
  · rename_i before
    rw [pivotColumn, eliminated.cleared _ j (by omega), zero_div]
  · split
    · rename_i diagonal
      rw [diagonal, pivotColumn_pivot]
    · rw [div_eq root, pivotColumn]

private theorem nextColumn_of_not_pos {j : Fin n} (pivot : ¬0 < residual entries found j j) :
    Cholesky.nextColumn (matrix entries) (columns found) j = none := by
  rw [Cholesky.nextColumn, reduced_real]
  simp only [get_vector, zero_eq, lt_iff]
  exact if_neg pivot

theorem firstColumns_eq_some (symmetric : entries.IsSymm) {within : count ≤ n}
    {earlier : Vector (Vector Exact n) count}
    (eliminates : Cholesky.firstColumns (matrix entries) count within = some earlier) :
    ∃ found, earlier = columns found ∧ Eliminated entries found := by
  induction count with
  | zero => exact ⟨Fin.elim0, Vector.eq_empty, .none⟩
  | succ count induction =>
      rcases Option.bind_eq_some_iff.mp eliminates with ⟨before, begun, last⟩
      rcases Option.bind_eq_some_iff.mp last with ⟨column, next, rest⟩
      cases rest
      rcases induction begun with ⟨found, rfl, eliminated⟩
      by_cases pivot : 0 < residual entries found ⟨count, within⟩ ⟨count, within⟩
      · rw [nextColumn_of_pos eliminated rfl pivot] at next
        cases next
        exact ⟨_, (columns_snoc _).symm, eliminated.next symmetric rfl pivot⟩
      · rw [nextColumn_of_not_pos pivot] at next
        cases next

/-! ## Positive definite matrices -/

/-- What is left is positive on the vectors that are zero where it has been cleared. -/
def PositiveBeyond (count : Nat) (left : Matrix (Fin n) (Fin n) ℝ) : Prop :=
  ∀ v : Fin n → ℝ, v ≠ 0 → (∀ i, i.val < count → v i = 0) → 0 < v ⬝ᵥ left *ᵥ v

namespace PositiveBeyond

variable {left : Matrix (Fin n) (Fin n) ℝ}

private theorem pivot (positive : PositiveBeyond count left) {j : Fin n}
    (position : j.val = count) :
    0 < left j j := by
  have single := positive (Pi.single j 1) (by simp) fun i before => by
    rw [Pi.single_eq_of_ne (Fin.ne_of_val_ne (by omega))]
  simpa using single

private theorem dotProduct_pivotColumn (symmetric : left.IsSymm) (j : Fin n) (v : Fin n → ℝ) :
    v ⬝ᵥ pivotColumn left j = (left *ᵥ v) j / √(left j j) := by
  rw [dotProduct, mulVec, dotProduct, Finset.sum_div]
  apply Finset.sum_congr rfl
  intro i _
  rw [pivotColumn, symmetric.apply, mul_comm, div_mul_eq_mul_div]

/-- Completing the square at the pivot. -/
theorem quadratic_clear (symmetric : left.IsSymm) {j : Fin n} (pivot : 0 < left j j)
    (v : Fin n → ℝ) :
    let w := v - ((left *ᵥ v) j / left j j) • Pi.single j 1
    w ⬝ᵥ left *ᵥ w =
      v ⬝ᵥ (left - vecMulVec (pivotColumn left j) (pivotColumn left j)) *ᵥ v := by
  intro w
  have cross : v ⬝ᵥ left *ᵥ Pi.single j 1 = (left *ᵥ v) j := by
    rw [dotProduct_mulVec_comm _ _ symmetric, single_one_dotProduct]
  have corner : (left *ᵥ Pi.single j 1) j = left j j := by
    rw [mulVec_single_one, col_apply]
  have square := Real.sq_sqrt (le_of_lt pivot)
  have eliminated : w ⬝ᵥ left *ᵥ w = v ⬝ᵥ left *ᵥ v - (left *ᵥ v) j ^ 2 / left j j := by
    simp only [w, mulVec_sub, mulVec_smul, sub_dotProduct, dotProduct_sub, smul_dotProduct,
      dotProduct_smul, smul_eq_mul, cross, corner, single_one_dotProduct]
    field_simp
    ring
  rw [eliminated, sub_mulVec, dotProduct_sub, dotProduct_vecMulVec_mulVec,
    dotProduct_comm (pivotColumn left j), dotProduct_pivotColumn symmetric, ← sq, div_pow,
    square]

private theorem next (positive : PositiveBeyond count left) (symmetric : left.IsSymm) {j : Fin n}
    (position : j.val = count) :
    PositiveBeyond (count + 1)
      (left - vecMulVec (pivotColumn left j) (pivotColumn left j)) := by
  intro v nonzero supported
  rw [← quadratic_clear symmetric (positive.pivot position)]
  apply positive
  · intro vanishes
    apply nonzero
    funext i
    rcases eq_or_ne i j with rfl | elsewhere
    · exact supported i (by omega)
    · simpa [elsewhere] using congrFun vanishes i
  · intro i before
    have elsewhere : i ≠ j := Fin.ne_of_val_ne (by omega)
    simp [supported i (by omega), elsewhere]

end PositiveBeyond

theorem firstColumns_of_posDef (posDef : entries.PosDef) (within : count ≤ n) :
    ∃ found, Cholesky.firstColumns (matrix entries) count within = some (columns found) ∧
      Eliminated entries found ∧ PositiveBeyond count (residual entries found) := by
  have symmetric := isHermitian_iff_isSymm.mp posDef.isHermitian
  induction count with
  | zero =>
      refine ⟨Fin.elim0, ?_, .none, ?_⟩
      · simp [Cholesky.firstColumns, columns]
      · intro v nonzero _
        simpa [residual] using posDef.dotProduct_mulVec_pos nonzero
  | succ count induction =>
      rcases induction (Nat.le_of_succ_le within) with ⟨found, begun, eliminated, positive⟩
      have pivot := positive.pivot (j := ⟨count, within⟩) rfl
      refine ⟨_, ?_, eliminated.next symmetric rfl pivot, ?_⟩
      · rw [Cholesky.firstColumns, begun, columns_snoc]
        simp [nextColumn_of_pos eliminated rfl pivot]
      · rw [residual_snoc]
        exact positive.next (residual_isSymm symmetric) rfl

end CurveFitting.Exact
