import CurveFitting.Proofs.Binary64.Equality
import CurveFitting.Proofs.Binary64.Halves
import CurveFitting.Proofs.Endings
import CurveFitting.Proofs.ReportedDistance
import CurveFitting.Proofs.Symmetry

/-! # Stalls

A fit gives up for want of a lower cost only after its last line search, along the
direction of the seed, has rejected every multiplier. So what the approximation has learned
is not to blame. The approximation of that search is the seed, or equals it by a test that
takes the two zeros for equal.
-/

namespace CurveFitting

variable {α σ ω ε : Type} [Scalar α] {n : Nat}

open Scalar (Alike)

/-! ## Line searches -/

private theorem Ray.accepts_eq_false_iff {ray : Ray α n} {armijo step value : α} :
    ray.accepts armijo step value = false ↔
      ¬(Scalar.isFinite value = true ∧ value ≤ ray.cost + armijo * step * ray.slope) := by
  rw [← Bool.not_eq_true, accepts, Bool.and_eq_true, decide_eq_true_iff]

def Ray.RejectsAll (ray : Ray α n) (config : Config α) (function : List α → Except ε α) : Prop :=
  ∀ count, config.minStep ≤ Scalar.halved count →
    ∃ value, function (ray.point (Scalar.halved count)).toList = .ok value ∧
      ray.accepts config.armijo (Scalar.halved count) value = false

private theorem LineSearch.Tries.rejects {objective : Objective α σ ε} {ray : Ray α n} {armijo : α}
    {callLimit calls : Nat} {steps : List α} {memory after : σ} {found : Result α n ε}
    (tries : Tries objective ray armijo callLimit steps calls memory found after)
    (stalled : found.outcome = .ok .stalled) : ∀ step ∈ steps, ∃ value before later,
      objective.evaluate (ray.point step).toList before = (.ok value, later) ∧
        ray.accepts armijo step value = false := by
  induction tries with
  | stalled => exact nofun
  | outOfCalls => cases stalled
  | refused => cases stalled
  | accepted => cases stalled
  | rejected _ evaluates rejects _ induction =>
      exact List.forall_mem_cons.mpr ⟨⟨_, _, _, evaluates, rejects⟩, induction stalled⟩

namespace Problem

variable {problem : Problem α σ ε n} {function : List α → Except ε α} {state next : State α n}
  {memory after : σ}

/-- From the point of a state no multiplier leads to a lower cost along the direction of an
approximation that equals the seed. -/
def Exhausted (problem : Problem α σ ε n) (function : List α → Except ε α)
    (state : State α n) : Prop :=
  ∃ inverseHessian, Entrywise (Entrywise Alike) inverseHessian problem.seed ∧
    (State.ray { state with inverseHessian := inverseHessian }).RejectsAll problem.config function

private theorem Exhausted.of_samePoint (exhausted : problem.Exhausted function state)
    (same : state.SamePoint next) : problem.Exhausted function next := by
  rcases exhausted with ⟨inverseHessian, seeded, rejects⟩
  refine ⟨inverseHessian, seeded, ?_⟩
  simp only [State.ray, same.x, same.cost, same.gradient] at rejects ⊢
  exact rejects

section

variable [Scalar.ExhaustsHalves α] (computes : problem.objective.Computes function)
  (positive : 0 < problem.config.minStep)

include computes positive

private theorem lineSearch_exhausted {searched : State α n}
    (search : problem.lineSearch state memory = (.ok (.stalled searched), after))
    (seeded : Entrywise (Entrywise Alike) state.inverseHessian problem.seed) :
    problem.Exhausted function searched := by
  rcases lineSearch_eq_ok search with ⟨outcome, answered, equal, _⟩
  cases outcome with
  | accepted => cases equal
  | outOfCalls => cases equal
  | stalled =>
      cases equal
      refine ⟨state.inverseHessian, seeded, fun count reached => ?_⟩
      have tried : Scalar.halved count ∈ LineSearch.multipliers problem.config.minStep := by
        rw [LineSearch.multipliers_eq_map]
        have within := (LineSearch.lt_length_multipliers positive).mpr reached
        exact List.mem_map_of_mem (List.mem_range.mpr within)
      rcases (problem.tries_found state memory).rejects answered _ tried with
        ⟨value, _, _, evaluated, rejected⟩
      exact ⟨value, computes.eq evaluated, rejected⟩

/-- A search for a lower cost fails only once the direction of the seed has been tried. -/
theorem descend_exhausted {searched : State α n}
    (search : problem.descend state memory = (.ok (.stalled searched), after)) :
    problem.Exhausted function searched := by
  have seeded (given : State α n) :
      Entrywise (Entrywise Alike) (problem.reset given).inverseHessian problem.seed :=
    fun i => entrywise_alike_refl _
  have descends := problem.descends_descend state memory
  rw [search] at descends
  cases descends with
  | uphill _ search => exact lineSearch_exhausted computes positive search (seeded state)
  | direct _ search settled =>
      -- No reset here: the approximation itself passes for the seed.
      have kept : searched.inverseHessian = state.inverseHessian :=
        inverseHessian_of_lineSearch search
      have equal := RowMatrix.alike_of_beq (settled searched rfl)
      exact lineSearch_exhausted computes positive search (kept ▸ equal)
  | retried _ _ _ second => exact lineSearch_exhausted computes positive second (seeded _)

private theorem iterate_exhausted {searched : State α n}
    (stepped : problem.iterate state memory = (.ok (.stalled searched), after)) :
    problem.Exhausted function searched := by
  have iterates := problem.iterates_iterate state memory
  rw [stepped] at iterates
  cases iterates with
  | stalled descent => exact descend_exhausted computes positive descent

/-! ## Runs -/

variable {observer : Observer α ω} {x : Vector α n} {session final origin : Session α σ ω}
  {ending : Ending α n}

omit [Scalar.ExhaustsHalves α] computes positive in
private theorem Checks.not_aboveMaxEdm {answer : Except (FitError α ε) (Check α n)}
    (checks : problem.Checks observer state session answer final)
    (ended : answer.map problem.convergeIfClose = .ok (.ended ending)) :
    ending.status ≠ .aboveMaxEdm := by
  cases checks with
  | noRoom =>
      cases ended
      exact nofun
  | refused => cases ended
  | failed =>
      cases ended
      exact nofun
  | stopped =>
      cases ended
      exact nofun
  | passed =>
      rcases convergeIfClose_eq_ended (Except.ok.inj ended) with ⟨_, rfl⟩
      exact nofun

/-- A turn that ends above the tolerance has tried the direction of the seed. A check that
came after it has not moved the fit. -/
theorem Episode.exhausted {answer : Except (FitError α ε) (Check α n)}
    (episode : problem.Episode observer state session answer final)
    (ended : answer = .ok (.ended ending)) (status : ending.status = .aboveMaxEdm) :
    problem.Exhausted function ending.state := by
  cases episode with
  | refused => cases ended
  | @quiet step _ _ _ stepped ends =>
      cases ended
      cases step with
      | advanced => exact ends.elim
      | stalled searched =>
          rcases ends with ⟨_, rfl⟩ | ⟨_, _, rfl⟩
          · exact iterate_exhausted computes positive stepped
          · cases status
      | outOfCalls =>
          rcases ends with rfl
          cases status
      | failed =>
          rcases ends with rfl
          cases status
  | @settled searched memory given last notes step _ _ checks =>
      cases given with
      | error => cases ended
      | ok check =>
          -- The check may have replaced the approximation, but not the point.
          have left := congrArg Check.state (Except.ok.inj ended)
          rw [state_settleCheck] at left
          have same : searched.SamePoint check.state := checks.samePoint rfl
          rw [left] at same
          exact (iterate_exhausted computes positive step).of_samePoint same
  | stopped =>
      cases ended
      cases status
  | unchecked =>
      rcases convergeIfClose_eq_ended (Except.ok.inj ended) with ⟨_, rfl⟩
      cases status
  | checked _ _ _ checks => exact absurd status (checks.not_aboveMaxEdm ended)

theorem run_exhausted (ran : problem.run observer x origin = (.ok ending, final))
    (status : ending.status = .aboveMaxEdm) : problem.Exhausted function ending.state := by
  have ends := problem.ends_run observer x origin
  rw [ran] at ends
  cases ends with
  | failedStart => cases status
  | limit => cases status
  | @ended remaining state session _ _ head _ turned =>
      have episode := problem.episode_turn observer state session
      rw [turned] at episode
      exact episode.exhausted computes positive rfl status

end

end Problem

/-! ## Results -/

def AnswersAlike (function : List α → Except ε α) : Prop :=
  ∀ {point other}, List.Forall₂ Alike point other → ∀ {value}, function point = .ok value →
    ∃ another, function other = .ok another ∧ Alike value another

private theorem State.ray_alike [Scalar.RespectsEquality α] (state : State α n)
    {inverseHessian other : RowMatrix α n n}
    (entries : Entrywise (Entrywise Alike) inverseHessian other) :
    (State.ray { state with inverseHessian := inverseHessian }).Alike
      (State.ray { state with inverseHessian := other }) where
  origin := rfl
  cost := rfl
  direction := entries.mulVector.neg
  slope := (entrywise_alike_refl state.gradient).dot entries.mulVector.neg

private theorem Problem.Exhausted.rejects [Scalar.RespectsEquality α] {problem : Problem α σ ε n}
    {function : List α → Except ε α} {state : State α n}
    (exhausted : problem.Exhausted function state) {count : Nat}
    (reached : problem.config.minStep ≤ Scalar.halved count) :
    let ray := (problem.reset state).ray
    let step := Scalar.halved count
    (∃ point value, Entrywise Alike point (ray.point step) ∧ function point.toList = .ok value ∧
      ray.accepts problem.config.armijo step value = false) ∧
    (AnswersAlike function → ∃ value, function (ray.point step).toList = .ok value ∧
      ray.accepts problem.config.armijo step value = false) := by
  intro ray step
  rcases exhausted with ⟨inverseHessian, seeded, rejects⟩
  have alike : (State.ray { state with inverseHessian := inverseHessian }).Alike ray :=
    state.ray_alike seeded
  rcases rejects count reached with ⟨value, evaluated, rejected⟩
  have points := alike.point step
  refine ⟨⟨_, value, points, evaluated, ?_⟩, fun respects => ?_⟩
  · rw [← alike.accepts_eq _ _ (.refl value)]
    exact rejected
  · rcases respects points.forall₂_toList evaluated with ⟨other, alsoEvaluated, values⟩
    refine ⟨other, alsoEvaluated, ?_⟩
    rw [← alike.accepts_eq _ _ values]
    exact rejected

def Minimum.seedRay (minimum : Minimum α n) (steps : Vector α n) : Ray α n :=
  let direction := -((InverseHessian.seed steps).mulVector minimum.gradient)
  { origin := minimum.values
    cost := minimum.cost
    direction := direction
    slope := dot minimum.gradient direction }

private theorem Problem.seedRay_result (problem : Problem α σ ε n) (status : Status)
    (state : State α n) :
    (problem.result status state).seedRay problem.steps = (problem.reset state).ray := by
  rw [Minimum.seedRay, Minimum.values, values_result]
  rfl

/-- A fit that ends above the tolerance has no lower cost along the direction of the seed.
For every half of one that reaches the floor, the cost was evaluated at the point that lies
as far along this direction, up to the signs of zeros, and was not finite or did not fall
by enough. -/
theorem stalled_fit_exhausts_seed [Scalar.ExhaustsHalves α] [Scalar.RespectsEquality α]
    (objective : Objective α σ ε) (function : List α → Except ε α)
    (computes : objective.Computes function) (parameters : ParameterSet α) (config : Config α)
    (observer : Observer α ω) (objectiveMemory : σ) (observerMemory : ω) :
    let outcome := minimize objective parameters config observer
      (Session.start objectiveMemory observerMemory)
    ∀ minimum, outcome.1 = .ok minimum → minimum.status = .aboveMaxEdm →
      let direction := -((InverseHessian.seed parameters.steps).mulVector minimum.gradient)
      let slope := dot minimum.gradient direction
      ∀ count, config.minStep ≤ Scalar.halved count →
        let step : α := Scalar.halved count
        let target := minimum.values + scaleVector direction step
        let falls (value : α) : Prop := Scalar.isFinite value = true ∧
          value ≤ minimum.cost + config.armijo * step * slope
        (∃ point value, Entrywise Alike point target ∧
          function point.toList = .ok value ∧ ¬falls value) ∧
        (AnswersAlike function →
          ∃ value, function target.toList = .ok value ∧ ¬falls value) := by
  intro outcome minimum answered status direction slope count reached step target falls
  have minimizes : Minimizes objective parameters config observer
      (Session.start objectiveMemory observerMemory) outcome.1 outcome.2 :=
    minimizes_minimize objective parameters config observer _
  rw [answered] at minimizes
  generalize outcome.2 = final at minimizes
  cases minimizes with
  | @ended problem ending _ prepared ran =>
      rcases (Problem.prepare_eq_ok_iff.mp prepared).2.2.2 with rfl
      have exhausted := Problem.run_exhausted computes config.minStep_positive ran status
      have rejects := exhausted.rejects reached
      rw [← Problem.seedRay_result _ ending.status] at rejects
      simp only [Ray.accepts_eq_false_iff] at rejects
      exact rejects

/-- The fit that gives up next to a kink has tried the direction of the seed down to the
smallest multiplier, which is still too large. -/
theorem kinkedCost_exhausts_seed :
    let outcome := minimize kinkedCost kinkParameter Config.default Observer.silent
      (Session.start () ())
    ∃ minimum, outcome.1 = .ok minimum ∧ minimum.status = .aboveMaxEdm ∧
      let ray := minimum.seedRay kinkParameter.steps
      ∃ point value, Entrywise Alike point (ray.point (Scalar.halved 33)) ∧
        (kinkedCost.evaluate point.toList ()).1 = .ok value ∧
        ¬(Scalar.isFinite value = true ∧
          value ≤ minimum.cost + 1e-4 * Scalar.halved 33 * ray.slope) := by
  have ended : (minimize kinkedCost kinkParameter Config.default Observer.silent
      (Session.start () ())).1.toOption.map (·.status) = some .aboveMaxEdm := by decide +kernel
  have reached : (1e-10 : Float) ≤ Scalar.halved 33 := by decide +kernel
  rcases Computation.ok_of_toOption_map ended with ⟨minimum, answered, status⟩
  have exhausted := stalled_fit_exhausts_seed kinkedCost
    (fun point => (kinkedCost.evaluate point ()).1) (fun _ _ => rfl) kinkParameter
    Config.default Observer.silent () () minimum answered status 33 reached
  exact ⟨minimum, answered, status, exhausted.1⟩

end CurveFitting
