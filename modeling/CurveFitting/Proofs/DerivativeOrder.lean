import CurveFitting.Proofs.Run.Consistency
import CurveFitting.Proofs.Run.Estimates
import CurveFitting.Scalar

/-! # The order of central differences

A gradient and a Hessian stop at the first probe without a finite value. Both take the second
derivative by one parameter from the same two probes, so for an objective without memory
they agree on it.
-/

namespace CurveFitting

variable {α σ ε : Type} [Scalar α] {n : Nat}

private theorem Differences.gradient_of_hessian {differences : Differences α n}
    {objective : Objective α σ ε} {function : List α → Except ε α}
    (computes : objective.Computes function) {x : Vector α n} {cost : α} {memory after : σ}
    {estimate : HessianEstimate α n}
    (estimated : differences.hessian objective x cost memory = (.ok estimate, after)) :
    ∃ values : Probe n → α,
      estimate = hessianOf cost (differences.perturbations x) values ∧ ∀ other, ∃ final,
        differences.gradient objective x cost other =
          (.ok (gradientOf cost (differences.perturbations x) values), final) := by
  let h := differences.perturbations x
  rcases hessian_eq_ok estimated with ⟨values, answered, equal⟩
  refine ⟨values, equal, fun other => ?_⟩
  have samples (probe : Probe n) (member : probe ∈ Probe.ofGradient n) :
      Computation.Ensures (fun _ => True) (fun _ => False) (· = values probe)
        (sample objective probe.index (probe.point x h)) := by
    rcases answered probe (Probe.ofGradient_subset n member) with ⟨⟨_, _, known⟩, finite⟩
    refine ⟨id, fun _ sampled => ?_, fun _ failed => ?_⟩
    · have again := (computes.eq (sample_eq_ok sampled).1).symm.trans (computes.eq known)
      exact Except.ok.inj again
    · rcases sample_eq_error failed with ⟨answer, evaluates, faulty⟩
      rw [← computes.eq evaluates, computes.eq known, Probe.fault?, if_pos finite] at faulty
      cases faulty
  rcases gradient_of_values trivial samples with ⟨final, found, -⟩
  exact ⟨final, found⟩

open Probe in
/-- A gradient has two probes for each parameter, and a Hessian two or four for each pair of
parameters. Without other threads they are evaluated in turn, up to the first answer that is not
a finite value. On any threads the Hessian of a function of the point is symmetric, and its
diagonal is the curvature. -/
theorem derivatives_sample_in_turn (differences : Differences α n)
    (objective : Objective α σ ε) (x : Vector α n) (cost : α) (memory : σ) :
    let h := differences.perturbations x
    ((∀ i l up, ((single i up).point x h).get l =
        if l = i then x.get i + offset h i up else x.get l) ∧
      ∀ i j, i ≠ j → ∀ l iUp jUp, ((corner i j iUp jUp).point x h).get l =
        if l = i then x.get i + offset h i iUp
        else if l = j then x.get j + offset h j jUp
        else x.get l) ∧
    (differences.parallel = false →
      Differences.SamplesInTurn objective x h memory (ofGradient n)
        (Differences.gradientOf cost h) (fun objective => differences.gradient objective x cost) ∧
      Differences.SamplesInTurn objective x h memory (ofHessian n)
        (Differences.hessianOf cost h) (fun objective => differences.hessian objective x cost)) ∧
    (∀ values, (Differences.gradientOf cost h values).calls = (ofGradient n).length ∧
      (Differences.hessianOf cost h values).calls = (ofHessian n).length) ∧
    (ofGradient n).length = 2 * n ∧
    (ofHessian n).length = 2 * n + 2 * (n * (n - 1)) ∧ (ofHessian n).length = 2 * (n * n) ∧
    ∀ function, objective.Computes function → ∀ estimate after,
      differences.hessian objective x cost memory = (.ok estimate, after) →
        estimate.hessian.transpose = estimate.hessian ∧
        ∀ other, ∃ first final,
          differences.gradient objective x cost other = (.ok first, final) ∧
          ∀ i, (estimate.hessian.get i).get i = first.curvature.get i := by
  intro h
  have gradientLength := length_ofGradient n
  have hessianLength := length_ofHessian n
  have gradientInTurn (inOrder : differences.parallel = false) := Differences.Samples.inTurn
    (fun objective => Differences.gradient_samples inOrder objective x cost)
    (nodup_ofGradient n) objective memory
  have hessianInTurn (inOrder : differences.parallel = false) := Differences.Samples.inTurn
    (fun objective => Differences.hessian_samples inOrder objective x cost)
    (nodup_ofHessian n) objective memory
  refine ⟨⟨get_single x h, fun i j different => get_corner x h different⟩,
    fun inOrder => ⟨gradientInTurn inOrder, hessianInTurn inOrder⟩,
    fun values => ⟨gradientLength.symm, hessianLength.symm⟩, gradientLength,
    hessianLength.trans (Differences.hessian_charge n).symm, hessianLength, ?_⟩
  intro function computes estimate after estimated
  rcases Differences.gradient_of_hessian computes estimated with ⟨values, rfl, graded⟩
  refine ⟨Differences.transpose_hessianOf cost h values, fun other => ?_⟩
  rcases graded other with ⟨final, computed⟩
  exact ⟨_, final, computed, Differences.diagonal_hessianOf cost h values⟩

/-- A cost that has no value where the second parameter is above two. -/
def walledCost : List Float → Float
  | [first, second] => if 2 < second then Scalar.notANumber else first * first + first * second
  | _ => 0

def unitDifferences : Differences Float 2 where
  steps := Vector.replicate 2 1
  relativeStep := 1

open Probe in
/-- Next to the wall the gradient fails at its third probe, for the second parameter. The
Hessian comes to a corner first, which is reported for the first one. Away from the wall
there is an estimate, and it agrees with the curvature. -/
theorem walledCost_ends_samples :
    let objective : Objective Float Unit Empty := .ofFunction walledCost 1
    objective.Evaluates [[1, 2], [-1, 2], [0, 3]] ()
      (fun objective => unitDifferences.gradient objective #v[0, 2] 0)
      (.error (.nonFinite 1 Scalar.notANumber)) ∧
    objective.Evaluates [[1, 2], [-1, 2], [1, 3]] ()
      (fun objective => unitDifferences.hessian objective #v[0, 2] 0)
      (.error (.nonFinite 0 Scalar.notANumber)) ∧
    ∃ estimate first,
      (unitDifferences.hessian objective #v[0, 0] 0 ()).1 = .ok estimate ∧
      estimate.hessian.transpose = estimate.hessian ∧
      (unitDifferences.gradient objective #v[0, 0] 0 ()).1 = .ok first ∧
      ∀ i, (estimate.hessian.get i).get i = first.curvature.get i := by
  intro objective
  let x : Vector Float 2 := #v[0, 2]
  let h := unitDifferences.perturbations x
  rcases derivatives_sample_in_turn unitDifferences objective #v[0, 2] 0 () with
    ⟨-, inTurn, -⟩
  rcases derivatives_sample_in_turn unitDifferences objective #v[0, 0] 0 () with
    ⟨-, inside, -, -, -, -, agree⟩
  rcases inTurn rfl with ⟨gradient, hessian⟩
  have gradientPoints : points x h ((ofGradient 2).take 3) = [[1, 2], [-1, 2], [0, 3]] := by
    decide +kernel
  have hessianPoints : points x h ((ofHessian 2).take 3) = [[1, 2], [-1, 2], [1, 3]] := by
    decide +kernel
  have missing : ¬Scalar.isFinite (Scalar.notANumber : Float) = true := by decide +kernel
  have gradientAnswer : answerTo objective x h (ofGradient 2) () 2 (by decide) =
      .ok Scalar.notANumber := congrArg Except.ok (by decide +kernel)
  have hessianAnswer : answerTo objective x h (ofHessian 2) () 2 (by decide) =
      .ok Scalar.notANumber := congrArg Except.ok (by decide +kernel)
  have gradientFails := gradient.failed 2 (by decide) (.nonFinite 1 Scalar.notANumber)
    (by decide +kernel) (by rw [gradientAnswer, fault?, if_neg missing]; rfl)
  have hessianFails := hessian.failed 2 (by decide) (.nonFinite 0 Scalar.notANumber)
    (by decide +kernel) (by rw [hessianAnswer, fault?, if_neg missing]; rfl)
  rw [gradientPoints] at gradientFails
  rw [hessianPoints] at hessianFails
  refine ⟨gradientFails, hessianFails, ?_⟩
  rcases (inside rfl).2.finished (by decide +kernel) with ⟨values, -, estimated⟩
  rcases agree (fun point => .ok (walledCost point)) (fun _ _ => rfl) _ _ estimated.answers with
    ⟨symmetric, graded⟩
  rcases graded () with ⟨first, final, computed, diagonal⟩
  exact ⟨_, first, congrArg Prod.fst estimated.answers, symmetric, congrArg Prod.fst computed,
    diagonal⟩

end CurveFitting
