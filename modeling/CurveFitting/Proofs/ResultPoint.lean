import CurveFitting.Proofs.Limits
import CurveFitting.Proofs.Run.Consistency

/-! # The point of a result

A result describes one point, that of the last step told, with the cost and the gradient
there. Its parameters are those of the fit, in order, and each is found by its name.
-/

namespace CurveFitting

variable {α σ ω ε : Type} [Scalar α] {n : Nat}

/-! ## Parameters of a result -/

omit [Scalar α] in
theorem FittedParameter.find?_name {entries : List (FittedParameter α)}
    (distinct : (entries.map (·.name)).Nodup) {entry : FittedParameter α}
    (member : entry ∈ entries) : entries.find? (·.name == entry.name) = some entry := by
  induction entries with
  | nil => cases member
  | cons head tail induction =>
      rw [List.map_cons, List.nodup_cons] at distinct
      rcases List.mem_cons.mp member with rfl | later
      · exact List.find?_cons_of_pos (beq_self_eq_true entry.name)
      · have different : head.name ≠ entry.name := fun same =>
          distinct.1 (List.mem_map.mpr ⟨entry, later, same.symm⟩)
        rw [List.find?_cons_of_neg (by simpa using different)]
        exact induction distinct.2 later

private theorem ParameterSet.get_nameVector (set : ParameterSet α) (i : Fin set.size) :
    set.nameVector.get i = (set.entries.get i).name :=
  List.getElem_map Parameter.name

namespace Problem

variable (problem : Problem α σ ε n) (status : Status) (state : State α n)

theorem get_parameters_result (i : Fin n) :
    (problem.result status state).parameters.get i =
      ⟨problem.names.get i, state.x.get i,
        (problem.result status state).covariance.map (·.error i)⟩ :=
  Vector.getElem_ofFn i.isLt

theorem names_result :
    (problem.result status state).parameters.toList.map (·.name) = problem.names.toList := by
  rw [← Vector.toList_map]
  congr 1
  ext i within
  rw [result, Vector.getElem_map, Vector.getElem_ofFn]
  rfl

theorem name_result (i : Fin n) :
    ((problem.result status state).parameters.get i).name = problem.names.get i := by
  rw [get_parameters_result]

private theorem parameter?_result (distinct : problem.names.toList.Nodup) (i : Fin n) :
    (problem.result status state).parameter? (problem.names.get i) =
      some ((problem.result status state).parameters.get i) := by
  rw [← problem.names_result status state] at distinct
  rw [← problem.name_result status state i, Minimum.parameter?]
  exact FittedParameter.find?_name distinct (Vector.mem_toList_iff.mpr (Vector.getElem_mem i.isLt))

private theorem errors_result (i : Fin n) :
    ((problem.result status state).parameters.get i).error =
      (problem.result status state).errors.map (·.get i) := by
  have same (covariance : Covariance α n) : covariance.errors.get i = covariance.error i :=
    Vector.getElem_ofFn i.isLt
  simp only [get_parameters_result, Minimum.errors, Option.map_map, Function.comp_def, same]

end Problem

/-! ## Minimization -/

section

variable {objective : Objective α σ ε} {parameters : ParameterSet α} {config : Config α}
  {observer : Observer α ω} {origin final : Session α σ ω}
  {minimum : Minimum α parameters.size}

namespace Minimizes

variable
  (minimizes : Minimizes objective parameters config observer origin (.ok minimum) final)

include minimizes

private theorem last_point (untold : origin.events = #[]) :
    (final.events.toList.filterMap Event.point?).getLast?.getD
      (parameters.values.toList, minimum.cost) = (minimum.values.toList, minimum.cost) := by
  cases minimizes with
  | ended prepared ran =>
      rw [Minimum.values, Problem.values_result]
      exact (Problem.run_latest untold ran :)

private theorem consistent {function : List α → Except ε α}
    (computes : objective.Computes function) :
    let differences : Differences α parameters.size :=
      { steps := parameters.steps, relativeStep := config.relativeStep }
    function minimum.values.toList = .ok minimum.cost ∧
      (differences.IsGradient function minimum.values minimum.gradient ∨
        minimum.status = .numericalFailure ∧ minimum.iterations = 0 ∧
          minimum.edm = Scalar.infinity ∧ (Scalar.isFinite minimum.cost = false ∨
            differences.MeetsNonFinite function minimum.values)) := by
  cases minimizes with
  | ended prepared ran =>
      rcases (Problem.prepare_eq_ok_iff.mp prepared).2.2.2 with rfl
      rw [Minimum.values, Problem.values_result]
      refine (Problem.run_consistent computes ran).imp_right (Or.imp_right fun fails => ?_)
      exact ⟨fails.status, fails.iterations, fails.edm, fails.reason⟩

private theorem parameter (i : Fin parameters.size) :
    (minimum.parameters.get i).name = (parameters.entries.get i).name ∧
      minimum.parameter? (parameters.entries.get i).name = some (minimum.parameters.get i) ∧
      (minimum.parameters.get i).error = minimum.errors.map (·.get i) := by
  cases minimizes with
  | @ended problem ending _ prepared ran =>
      rcases (Problem.prepare_eq_ok_iff.mp prepared).2.2.2 with rfl
      rw [← parameters.get_nameVector]
      have distinct : parameters.nameVector.toList.Nodup := parameters.distinct
      exact ⟨Problem.name_result .., Problem.parameter?_result _ _ _ distinct i,
        Problem.errors_result ..⟩

end Minimizes

end

/-- A result describes the point of the last step told, or the starting values if there
was none: it has the cost that the objective computes there and, unless the fit has
failed at its start, the gradient of central differences. Each of its parameters has its own
name, by which it is found, and the error of the covariance. -/
theorem result_describes_last_point (objective : Objective α σ ε)
    (function : List α → Except ε α) (parameters : ParameterSet α) (config : Config α)
    (observer : Observer α ω) (objectiveMemory : σ) (observerMemory : ω)
    (computes : objective.Computes function) :
    let differences : Differences α parameters.size :=
      { steps := parameters.steps, relativeStep := config.relativeStep }
    let outcome := minimize objective parameters config observer
      (Session.start objectiveMemory observerMemory)
    let points := outcome.2.events.toList.filterMap Event.point?
    ∀ minimum, outcome.1 = .ok minimum →
      (∀ point, points.getLast? = some point →
        point = (minimum.values.toList, minimum.cost)) ∧
      (points = [] → minimum.values = parameters.values) ∧
      function minimum.values.toList = .ok minimum.cost ∧
      (differences.IsGradient function minimum.values minimum.gradient ∨
        minimum.status = .numericalFailure ∧ minimum.iterations = 0 ∧
          minimum.edm = Scalar.infinity ∧ (Scalar.isFinite minimum.cost = false ∨
            differences.MeetsNonFinite function minimum.values)) ∧
      minimum.gradient.toList.length = parameters.size ∧
      minimum.parameters.toList.length = parameters.size ∧
      (∀ errors, minimum.errors = some errors → errors.toList.length = parameters.size) ∧
      ∀ i : Fin parameters.size,
        (minimum.parameters.get i).name = (parameters.entries.get i).name ∧
        minimum.parameter? (parameters.entries.get i).name =
          some (minimum.parameters.get i) ∧
        (minimum.parameters.get i).error = minimum.errors.map (·.get i) ∧
        ((minimum.parameters.get i).error = none ↔ minimum.covariance = none) := by
  intro differences outcome points minimum answered
  have minimizes := minimizes_minimize objective parameters config observer
    (Session.start objectiveMemory observerMemory)
  change Minimizes _ _ _ _ _ outcome.1 outcome.2 at minimizes
  rw [answered] at minimizes
  have last : points.getLast?.getD (parameters.values.toList, minimum.cost) =
      (minimum.values.toList, minimum.cost) := minimizes.last_point rfl
  rcases minimizes.consistent computes with ⟨cost, gradient⟩
  refine ⟨?_, ?_, cost, gradient, Vector.length_toList, Vector.length_toList,
    fun _ _ => Vector.length_toList, fun i => ?_⟩
  · intro point told
    rwa [told] at last
  · intro untold
    rw [untold] at last
    exact Vector.toList_inj.mp (Prod.mk.inj last).1.symm
  · rcases minimizes.parameter i with ⟨name, found, error⟩
    refine ⟨name, found, error, ?_⟩
    rw [error, Minimum.errors, Option.map_map, Option.map_eq_none_iff]

/-- The flat cost is zero at the point of its fit, whose parameter is found by its name. -/
theorem flatCost_result_describes_point :
    let outcome := minimize flatCost oneParameter Config.default Observer.silent
      (Session.start () ())
    ∃ minimum, outcome.1 = .ok minimum ∧ minimum.cost = 0 ∧
      minimum.parameter? "a" = some (minimum.parameters.get ⟨0, Nat.one_pos⟩) := by
  intro outcome
  have fitted : outcome.1.toOption.isSome = true := by decide +kernel
  rcases answered : outcome.1 with cause | minimum
  · rw [answered] at fitted
    cases fitted
  · rcases result_describes_last_point flatCost (fun _ => .ok 0) oneParameter Config.default
      Observer.silent () () (fun _ _ => rfl) minimum answered with
      ⟨_, _, cost, _, _, _, _, parameter⟩
    exact ⟨minimum, rfl, (Except.ok.inj cost).symm, (parameter ⟨0, Nat.one_pos⟩).2.1⟩

end CurveFitting
