import CurveFitting.Proofs.Exact.Reordering
import CurveFitting.Proofs.FiniteResults
import CurveFitting.Proofs.Symmetry

/-! # Updates that overflow

An update is refused if the corrected approximation is not finite. What it stores is the mean
of that and its transpose. Two mirrored entries may both be finite and their sum not, and
this is the only way in which an update lets something infinite in.
-/

namespace CurveFitting

open Binary64

variable {α : Type} [Scalar α] {n : Nat}

namespace InverseHessian

/-- The approximation with the correction for a step, before it is averaged with its
transpose. -/
def corrected (inverseHessian : RowMatrix α n n) (s y : Vector α n) : RowMatrix α n n :=
  let rho := 1 / dot y s
  let image := inverseHessian.mulVector y
  let cross := RowMatrix.outer s image + RowMatrix.outer image s
  let growth := RowMatrix.scale (RowMatrix.outer s s) (rho * rho * dot y image + rho)
  inverseHessian - RowMatrix.scale cross rho + growth

private theorem update_eq_some_iff {inverseHessian stored : RowMatrix α n n} {s y : Vector α n} :
    update inverseHessian s y = some stored ↔
      (Scalar.isFinite (dot y s) = true ∧ 0 < dot y s) ∧
        (corrected inverseHessian s y).isFinite = true ∧
        (corrected inverseHessian s y).symmetrize = stored := by
  have unfolded : update inverseHessian s y =
      if Scalar.isFinite (dot y s) ∧ 0 < dot y s then
        if (corrected inverseHessian s y).isFinite then
          some (corrected inverseHessian s y).symmetrize
        else none
      else none := rfl
  rw [unfolded]
  split
  · rename_i curved
    split
    · rename_i finite
      simp [curved, finite]
    · rename_i infinite
      simp [infinite]
  · rename_i flat
    simp [flat]

end InverseHessian

namespace Binary64

private theorem halved_one : (Scalar.halved 1 : Float) = 0.5 := by decide +kernel

private theorem isFinite_mul_half_iff {value : Float} :
    Scalar.isFinite (value * 0.5) = true ↔ Scalar.isFinite value = true := by
  constructor
  · exact fun finite => (isFinite_of_mul finite).1
  · intro finite
    rw [← halved_one]
    exact isFinite_mul_halved finite 1

private theorem isFinite_add_of_moderate {left right : Float} (first : Moderate left)
    (second : Moderate right) : Scalar.isFinite (left + right) = true := by
  have fits : Fits largestModerate (944 + 1) := fits_largestModerate (by decide)
  have sum : Within (units largestModerate (944 + 1)) (left + right).toModel.unpack :=
    Within.add fits first.within second.within (isStored _) (isStored _) (by decide)
      (Nat.le_of_eq (units_succ (by decide)).symm)
  exact sum.isFinite (fits.units_lt_top (by decide))

end Binary64

namespace RowMatrix

variable {matrix : RowMatrix Float n n}

/-- An entry of the mean of a matrix and its transpose is finite exactly where the sum of the
two mirrored entries is. -/
theorem isFinite_symmetrize_iff {i j : Fin n} :
    Scalar.isFinite ((matrix.symmetrize.get i).get j) = true ↔
      Scalar.isFinite ((matrix.get i).get j + (matrix.get j).get i) = true := by
  rw [symmetrize, get_scale, get_add, transpose, get_ofEntries]
  exact isFinite_mul_half_iff

def HasFiniteSums (matrix : RowMatrix Float n n) : Prop :=
  ∀ i j, Scalar.isFinite ((matrix.get i).get j) = true →
    Scalar.isFinite ((matrix.get j).get i) = true →
    Scalar.isFinite ((matrix.get i).get j + (matrix.get j).get i) = true

private theorem HasFiniteSums.of_moderate (moderate : ∀ i j, Moderate ((matrix.get i).get j)) :
    matrix.HasFiniteSums :=
  fun i j _ _ => isFinite_add_of_moderate (moderate i j) (moderate j i)

private theorem HasFiniteSums.isFinite_symmetrize (sums : matrix.HasFiniteSums)
    (finite : matrix.isFinite = true) : matrix.symmetrize.isFinite = true := by
  rw [isFinite_iff] at finite ⊢
  intro i j
  exact isFinite_symmetrize_iff.mpr (sums i j (finite i j) (finite j i))

end RowMatrix

/-- An update of a finite approximation is refused if the corrected one is not finite, and
otherwise only made for a finite step and a finite change of the gradient. What it stores is
finite exactly where the sum of the two mirrored entries is. So as long as no such sum
overflows, for one because all entries are moderate, a fit keeps a finite approximation, and
no update is made that would store another one. -/
theorem update_finite_unless_sum_overflows {inverseHessian : RowMatrix Float n n}
    (finite : inverseHessian.isFinite = true) (s y : Vector Float n) :
    let next := InverseHessian.corrected inverseHessian s y
    let updated := InverseHessian.update inverseHessian s y
    (next.isFinite = false → updated = none) ∧
    (∀ stored, updated = some stored →
      (∀ i, Scalar.isFinite (s.get i) = true ∧ Scalar.isFinite (y.get i) = true) ∧
      ∀ i j, Scalar.isFinite ((stored.get i).get j) = true ↔
        Scalar.isFinite ((next.get i).get j + (next.get j).get i) = true) ∧
    (next.HasFiniteSums → (updated.getD inverseHessian).isFinite = true ∧
      (next.symmetrize.isFinite = false → updated = none)) ∧
    ((∀ i j, Moderate ((next.get i).get j)) → next.HasFiniteSums) := by
  intro next updated
  have stores {stored : RowMatrix Float n n} (accepted : updated = some stored) :
      (Scalar.isFinite (dot y s) = true ∧ 0 < dot y s) ∧ next.isFinite = true ∧
        next.symmetrize = stored :=
    InverseHessian.update_eq_some_iff.mp accepted
  refine ⟨?_, ?_, ?_, RowMatrix.HasFiniteSums.of_moderate⟩
  · intro infinite
    rcases accepted : updated with _ | stored
    · rfl
    · cases infinite.symm.trans (stores accepted).2.1
  · intro stored accepted
    rcases stores accepted with ⟨⟨curvature, _⟩, _, rfl⟩
    exact ⟨fun i => (isFinite_of_dot curvature i).symm,
      fun i j => RowMatrix.isFinite_symmetrize_iff⟩
  · intro sums
    rcases accepted : updated with _ | stored
    · exact ⟨finite, fun _ => rfl⟩
    · rcases stores accepted with ⟨_, checked, rfl⟩
      have mean := sums.isFinite_symmetrize checked
      refine ⟨mean, ?_⟩
      intro infinite
      cases infinite.symm.trans mean

/-- A step whose square overflows teaches nothing, a short one something finite. -/
theorem update_of_one_finite :
    InverseHessian.update #v[#v[1]] #v[(1e200 : Float)] #v[1e-200] = none ∧
    ∃ stored, InverseHessian.update #v[#v[1]] #v[(1 : Float)] #v[2] = some stored ∧
      stored.isFinite = true := by
  have finite : RowMatrix.isFinite (#v[#v[1]] : RowMatrix Float 1 1) = true := by decide +kernel
  have infinite : (InverseHessian.corrected #v[#v[1]] #v[(1e200 : Float)] #v[1e-200]).isFinite =
      false := by decide +kernel
  have moderate (i j : Fin 1) :
      Moderate (((InverseHessian.corrected #v[#v[1]] #v[(1 : Float)] #v[2]).get i).get j) := by
    rw [Subsingleton.elim i 0, Subsingleton.elim j 0]
    exact ⟨by decide +kernel, by decide +kernel⟩
  have learned : (InverseHessian.update #v[#v[1]] #v[(1 : Float)] #v[2]).isSome = true := by
    decide +kernel
  refine ⟨(update_finite_unless_sum_overflows finite _ _).1 infinite, ?_⟩
  rcases Option.isSome_iff_exists.mp learned with ⟨stored, updated⟩
  rcases update_finite_unless_sum_overflows finite #v[(1 : Float)] #v[2] with
    ⟨_, _, kept, sums⟩
  have stays := (kept (sums moderate)).1
  rw [updated] at stays
  exact ⟨stored, updated, stays⟩

/-- A step whose square is finite, but not twice its square, lets infinity into a finite
approximation. -/
theorem update_of_one_overflows :
    RowMatrix.isFinite (#v[#v[1]] : RowMatrix Float 1 1) = true ∧
    ∃ stored, InverseHessian.update #v[#v[1]] #v[(1e154 : Float)] #v[1e-154] = some stored ∧
      stored.isFinite = false := by
  have finite : RowMatrix.isFinite (#v[#v[1]] : RowMatrix Float 1 1) = true := by decide +kernel
  have overflowed : (InverseHessian.update #v[#v[1]] #v[(1e154 : Float)] #v[1e-154]).map
      RowMatrix.isFinite = some false := by decide +kernel
  exact ⟨finite, Option.map_eq_some_iff.mp overflowed⟩

end CurveFitting
