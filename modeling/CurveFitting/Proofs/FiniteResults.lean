import CurveFitting.Objective.Expression
import CurveFitting.Proofs.Binary64.Range
import CurveFitting.Proofs.FallingCosts
import CurveFitting.Proofs.ResultPoint
import CurveFitting.Proofs.Run.Estimates
import CurveFitting.Proofs.Run.Reach

/-! # Finite results

A fit checks the values of its objective, and not what it computes from them. Still every
cost it reports is finite. A component of a gradient may overflow, but only where the
objective has a value beyond `1e300`, and no step is ever accepted from there.
-/

namespace CurveFitting

/-! ## Terms of a sum -/

namespace Summation

variable {α : Type} [Scalar α] {holds : α → Prop} {terms : List α}
  (parts : ∀ left right, holds (left + right) → holds left ∧ holds right)

include parts

private theorem lanes_parts (sums : Vector α 8) (terms : List α)
    (filled : ∀ i (within : i < 8), holds (lanes sums terms).1[i])
    (left : ∀ term ∈ (lanes sums terms).2, holds term) :
    (∀ i (within : i < 8), holds sums[i]) ∧ ∀ term ∈ terms, holds term := by
  fun_induction lanes sums terms with
  | case1 sums a b c d e f g h rest induction =>
      rcases induction filled left with ⟨added, later⟩
      have split (i : Nat) (within : i < 8) :
          holds sums[i] ∧ holds #v[a, b, c, d, e, f, g, h][i] := by
        have sum := added i within
        rw [Vector.getElem_add] at sum
        exact parts _ _ sum
      refine ⟨fun i within => (split i within).1, fun term member => ?_⟩
      change term ∈ #v[a, b, c, d, e, f, g, h].toList ++ rest at member
      rcases List.mem_append.mp member with block | beyond
      · rcases Vector.mem_iff_getElem.mp (Vector.mem_toList_iff.mp block) with ⟨i, within, rfl⟩
        exact (split i within).2
      · exact later term beyond
  | case2 => exact ⟨filled, left⟩

private theorem foldl_parts (start : α) (total : holds (terms.foldl (· + ·) start)) :
    holds start ∧ ∀ term ∈ terms, holds term := by
  induction terms generalizing start with
  | nil => exact ⟨total, fun _ member => absurd member List.not_mem_nil⟩
  | cons first rest induction =>
      rcases induction (start + first) total with ⟨sum, later⟩
      rcases parts _ _ sum with ⟨before, here⟩
      exact ⟨before, List.forall_mem_cons.mpr ⟨here, later⟩⟩

private theorem interleaved_parts (total : holds (interleaved terms)) :
    ∀ term ∈ terms, holds term := by
  rcases foldl_parts parts _ total with ⟨joined, left⟩
  rcases parts _ _ joined with ⟨joined, fourth⟩
  rcases parts _ _ joined with ⟨joined, third⟩
  rcases parts _ _ joined with ⟨joined, second⟩
  rcases parts _ _ joined with ⟨_, first⟩
  refine (lanes_parts parts (Vector.replicate 8 0) terms ?_ left).2
  intro i within
  interval_cases i
  · exact (parts _ _ first).1
  · exact (parts _ _ second).1
  · exact (parts _ _ third).1
  · exact (parts _ _ fourth).1
  · exact (parts _ _ first).2
  · exact (parts _ _ second).2
  · exact (parts _ _ third).2
  · exact (parts _ _ fourth).2

end Summation

/-! ## Accepted steps -/

section

variable {α σ ε : Type} [Scalar α] {n : Nat}

private theorem Scalar.halved_not_neg [Scalar.RespectsSigns α] (count : Nat) :
    ¬(Scalar.halved count : α) < 0 := by
  induction count with
  | zero => exact Scalar.RespectsSigns.lt_asymm Scalar.RespectsSigns.one_pos
  | succ count induction =>
      exact Scalar.RespectsSigns.mul_not_neg induction
        (Scalar.RespectsSigns.lt_asymm Scalar.RespectsSigns.half_pos)

private theorem Problem.lineSearch_accepted {problem : Problem α σ ε n} {state searched : State α n}
    {trial : Trial α n} {memory after : σ}
    (search : problem.lineSearch state memory = (.ok (.accepted trial searched), after)) :
    ∃ count, trial.x = state.ray.point (Scalar.halved count) ∧
      state.ray.accepts problem.config.armijo (Scalar.halved count) trial.cost = true := by
  rcases lineSearch_eq_ok search with ⟨outcome, answered, equal, _⟩
  cases outcome with
  | stalled => cases equal
  | outOfCalls => cases equal
  | accepted found =>
      cases equal
      rcases (problem.tries_found state memory).of_accepted answered with
        ⟨member, point, accepts, _⟩
      rw [LineSearch.multipliers_eq_map] at member
      rcases List.mem_map.mp member with ⟨count, _, step⟩
      rw [← step] at point accepts
      exact ⟨count, point, accepts⟩

end

open Scalar.RespectsSigns Binary64

variable {σ ω ε : Type} {n : Nat}

private theorem Ray.isFinite_slope {ray : Ray Float n} {armijo step value : Float}
    (falling : ¬0 < ray.slope) (positive : 0 < armijo) (nonnegative : ¬step < 0)
    (finite : Scalar.isFinite ray.cost = true)
    (accepts : ray.accepts armijo step value = true) : Scalar.isFinite ray.slope = true := by
  rcases Bool.and_eq_true_iff.mp accepts with ⟨valueFinite, low⟩
  have below : value ≤ ray.cost + armijo * step * ray.slope := of_decide_eq_true low
  have share : ¬armijo * step < 0 :=
    mul_not_neg (Scalar.RespectsSigns.lt_asymm positive) nonnegative
  have above : ray.cost + armijo * step * ray.slope ≤ ray.cost :=
    add_le (mul_not_pos share falling) (Scalar.ComparesPresent.present_of_le below).2
  have line := isFinite_of_between below above valueFinite finite
  exact (isFinite_of_mul (isFinite_of_add line).2).2

theorem isFinite_of_dot {left right : Vector Float n}
    (finite : Scalar.isFinite (dot left right) = true) (i : Fin n) :
    Scalar.isFinite (left.get i) = true ∧ Scalar.isFinite (right.get i) = true := by
  have terms : ∀ term ∈ (Vector.zipWith (· * ·) left right).toList,
      Scalar.isFinite term = true :=
    Summation.interleaved_parts (fun _ _ => isFinite_of_add) finite
  exact isFinite_of_mul (terms _ (mem_products_iff.mpr ⟨i, rfl⟩))

private theorem Ray.point_present {ray : Ray Float n}
    (finite : ∀ i, Scalar.isFinite (ray.direction.get i) = true)
    (present : ∀ i, Scalar.isNaN (ray.origin.get i) = false) (count : Nat) (i : Fin n) :
    Scalar.isNaN ((ray.point (Scalar.halved count)).get i) = false := by
  have moved : (ray.point (Scalar.halved count)).get i =
      ray.origin.get i + ray.direction.get i * Scalar.halved count := by
    change (ray.origin + scaleVector ray.direction _)[i.val] = _
    rw [Vector.getElem_add, scaleVector, Vector.getElem_map]
    rfl
  rw [moved]
  exact add_present (present i) (isFinite_mul_halved (finite i) count)

namespace Problem

variable {problem : Problem Float σ ε n} {state searched : State Float n} {trial : Trial Float n}
  {memory after : σ} (positive : 0 < problem.config.armijo)
  (finite : Scalar.isFinite state.cost = true)

include positive finite

/-- A line search only accepts a point if the gradient it starts with is finite, and the
point is there if the one before was. -/
theorem lineSearch_finite (falling : ¬0 < state.ray.slope)
    (search : problem.lineSearch state memory = (.ok (.accepted trial searched), after)) :
    (∀ i, Scalar.isFinite (state.gradient.get i) = true) ∧
      ((∀ i, Scalar.isNaN (state.x.get i) = false) →
        ∀ i, Scalar.isNaN (trial.x.get i) = false) := by
  rcases lineSearch_accepted search with ⟨count, point, accepts⟩
  have slope : Scalar.isFinite state.ray.slope = true :=
    Ray.isFinite_slope falling positive (Scalar.halved_not_neg count) finite accepts
  change Scalar.isFinite (dot state.gradient state.ray.direction) = true at slope
  refine ⟨fun i => (isFinite_of_dot slope i).1, fun present => ?_⟩
  rw [point]
  exact Ray.point_present (fun i => (isFinite_of_dot slope i).2) present count

private theorem descend_finite
    (search : problem.descend state memory = (.ok (.accepted trial searched), after)) :
    (∀ i, Scalar.isFinite (state.gradient.get i) = true) ∧
      ((∀ i, Scalar.isNaN (state.x.get i) = false) →
        ∀ i, Scalar.isNaN (trial.x.get i) = false) := by
  have descends := problem.descends_descend state memory
  rw [search] at descends
  cases descends with
  | uphill _ second =>
      have finite : Scalar.isFinite (problem.reset state).cost = true := finite
      exact (lineSearch_finite positive finite (problem.slope_reset_not_pos state) second :)
  | direct falling first => exact lineSearch_finite positive finite falling first
  | @retried stalled _ _ _ _ first _ second =>
      have stands : state.Stands stalled := lineSearch_stands first
      have finite : Scalar.isFinite (problem.reset stalled).cost = true :=
        stands.cost.symm ▸ finite
      rw [← stands.gradient, ← stands.x]
      exact (lineSearch_finite positive finite (problem.slope_reset_not_pos stalled) second :)

end Problem

/-! ## States -/

namespace Problem

variable {problem : Problem Float σ ε n} {observer : Observer Float ω} {x : Vector Float n}
  {state next : State Float n} {memory after : σ}

/-- What the checks of a fit guarantee of its states. The cost is finite, the point is there,
and the gradient consists of central differences of finite answers. -/
structure Sound (problem : Problem Float σ ε n) (state : State Float n) : Prop where
  cost : Scalar.isFinite state.cost = true
  answered : problem.objective.Answers state.x.toList state.cost
  present : ∀ i, Scalar.isNaN (state.x.get i) = false
  gradient : ∀ i, ∃ above below,
    problem.differences.Spans problem.objective state.x i above below (state.gradient.get i)

private theorem Sound.of_samePoint (sound : problem.Sound state) (same : state.SamePoint next) :
    problem.Sound next := by
  constructor
  · rw [same.cost]
    exact sound.cost
  · rw [same.x, same.cost]
    exact sound.answered
  · rw [same.x]
    exact sound.present
  · rw [same.x, same.gradient]
    exact sound.gradient

private theorem gradient?_spans {calls : Nat} {cost : Float} {estimate : GradientEstimate Float n}
    (found : problem.gradient? calls x cost memory = (.ok (some estimate), after)) (i : Fin n) :
    ∃ above below,
      problem.differences.Spans problem.objective x i above below (estimate.gradient.get i) := by
  rcases Differences.gradient_spans (Differences.finiteOnly_eq_some found) i with
    ⟨above, below, spans⟩
  exact ⟨above, below, spans.withSchedule problem.config.parallel .inOrder⟩

private theorem start_sound (present : ∀ i, Scalar.isNaN (x.get i) = false)
    (started : problem.start x memory = (.ok (.ready state), after)) : problem.Sound state := by
  have starts := problem.starts_start memory x
  rw [started] at starts
  cases starts with
  | ready value finite gradient =>
      exact ⟨finite, ⟨_, _, value⟩, present, gradient?_spans gradient⟩

private theorem Sound.iterate (sound : problem.Sound state) (positive : 0 < problem.config.armijo)
    {multiplier : Float} {updated : Bool}
    (stepped : problem.iterate state memory = (.ok (.advanced next multiplier updated), after)) :
    (∀ i, Scalar.isFinite (state.gradient.get i) = true) ∧ problem.Sound next := by
  rcases iterate_eq_advanced stepped with
    ⟨trial, searched, middle, estimate, descent, gradient, rfl⟩
  rcases descend_accepted descent with ⟨finite, answered⟩
  rcases descend_finite positive sound.cost descent with ⟨steady, present⟩
  exact ⟨steady, finite, answered, present sound.present, gradient?_spans gradient⟩

variable (positive : 0 < problem.config.armijo) (present : ∀ i, Scalar.isNaN (x.get i) = false)

include positive present

theorem Reaches.sound (reaches : problem.Reaches x state) : problem.Sound state := by
  induction reaches with
  | started started => exact start_sound present started
  | searched _ search induction =>
      exact induction.of_samePoint (lineSearch_stands search).toSamePoint
  | reset _ induction => exact induction.of_samePoint (problem.stands_reset _).toSamePoint
  | @iterated _ _ step _ _ iteration induction =>
      have stands := iterate_standsAt iteration
      -- only a step that advances leaves the point
      cases step with
      | advanced => exact (induction.iterate positive iteration).2
      | stalled => exact induction.of_samePoint stands.toSamePoint
      | outOfCalls => exact induction.of_samePoint stands.toSamePoint
      | failed => exact induction.of_samePoint stands.toSamePoint
  | refined _ refinement induction => exact induction.of_samePoint (refine_samePoint refinement)

/-- A turn from an overflowed gradient ends the fit, and where it is. -/
theorem Reaches.turn_ends {session final : Session Float σ ω} {check : Check Float n}
    (reaches : problem.Reaches x state)
    (overflowed : ∃ i, Scalar.isFinite (state.gradient.get i) = false)
    (turned : problem.turn observer state session = (.ok check, final)) :
    ∃ ending, check = .ended ending ∧ state.SamePoint ending.state := by
  rcases overflowed with ⟨i, infinite⟩
  have stays {moved : State Float n} {multiplier : Float} {updated : Bool} {later : σ}
      (stepped : problem.iterate state session.objectiveMemory =
        (.ok (.advanced moved multiplier updated), later)) : False := by
    have steady := ((reaches.sound positive present).iterate positive stepped).1 i
    rw [infinite] at steady
    cases steady
  cases check with
  | passed next =>
      rcases turn_eq_passed turned with ⟨_, _, _, _, stepped, _⟩
      exact (stays stepped).elim
  | ended ending =>
      rcases turn_samePoint turned with same | ⟨_, _, _, _, stepped, _⟩
      · exact ⟨ending, rfl, same⟩
      · exact (stays stepped).elim

private theorem sound_of_run {origin final : Session Float σ ω} {ending : Ending Float n}
    (ran : problem.run observer x origin = (.ok ending, final))
    (unfailed : ending.status ≠ .numericalFailure) : problem.Sound ending.state := by
  have ends := problem.ends_run observer x origin
  rw [ran] at ends
  cases ends with
  | failedStart => exact absurd rfl unfailed
  | limit head => exact head.reaches.sound positive present
  | ended head _ turned => exact (head.reaches.turned turned).sound positive present

end Problem

private theorem Differences.Spans.isFinite {differences : Differences Float n}
    {objective : Objective Float σ ε} {x : Vector Float n} {i : Fin n} {above below slope : Float}
    (spans : differences.Spans objective x i above below slope)
    (present : Scalar.isNaN (x.get i) = false) (first : Moderate above) (second : Moderate below) :
    Scalar.isFinite slope = true := by
  rw [spans.slope_eq]
  exact isFinite_centralDifference differences i first second present

private theorem Minimizes.describes {α : Type} [Scalar α] {objective : Objective α σ ε}
    {parameters : ParameterSet α} {config : Config α} {observer : Observer α ω}
    {origin final : Session α σ ω} {minimum : Minimum α parameters.size}
    (minimizes : Minimizes objective parameters config observer origin (.ok minimum) final) :
    ∃ problem ending last, Problem.prepare objective parameters config = .ok problem ∧
      problem.run observer parameters.values origin = (.ok ending, last) ∧
      minimum.status = ending.status ∧ minimum.values = ending.state.x ∧
      minimum.cost = ending.state.cost ∧ minimum.gradient = ending.state.gradient := by
  cases minimizes with
  | ended prepared ran =>
      exact ⟨_, _, _, prepared, ran, rfl, Problem.values_result .., rfl, rfl⟩

private theorem ParameterSet.isFinite_values (parameters : ParameterSet Float)
    (i : Fin parameters.size) :
    Scalar.isFinite (parameters.values.get i) = true := by
  have value : parameters.values.get i = (parameters.entries.get i).value := List.getElem_map ..
  rw [value]
  exact (parameters.entries.get i).value_finite

/-- Unless it has failed, a fit ends with a finite cost, and each component of its gradient is
finite or has overflowed. What has overflowed is a central difference of two finite answers
of the objective, one of which is beyond `1e300`. So all components are finite where the
objective has no such values. Wherever a fit comes to a gradient that is not finite, its next
turn ends it at that point. -/
theorem finite_unless_overflowed (objective : Objective Float σ ε)
    (parameters : ParameterSet Float) (config : Config Float) (observer : Observer Float ω)
    (objectiveMemory : σ) (observerMemory : ω) :
    let origin := Session.start objectiveMemory observerMemory
    let outcome := minimize objective parameters config observer origin
    let differences : Differences Float parameters.size :=
      { steps := parameters.steps, relativeStep := config.relativeStep }
    (∀ minimum, outcome.1 = .ok minimum → minimum.status ≠ .numericalFailure →
      Scalar.isFinite minimum.cost = true ∧
      objective.Answers minimum.values.toList minimum.cost ∧
      (∀ i, ∃ above below,
        differences.Spans objective minimum.values i above below (minimum.gradient.get i) ∧
        (Moderate above → Moderate below →
          Scalar.isFinite (minimum.gradient.get i) = true)) ∧
      ((∀ point value, objective.Answers point value → Scalar.isFinite value = true →
          Moderate value) →
        ∀ i, Scalar.isFinite (minimum.gradient.get i) = true)) ∧
    ∀ problem, Problem.prepare objective parameters config = .ok problem →
      ∀ remaining state session check final,
        problem.AtHead observer parameters.values origin remaining state session →
        (∃ i, Scalar.isFinite (state.gradient.get i) = false) →
        problem.turn observer state session = (.ok check, final) →
          ∃ ending, check = .ended ending ∧ state.SamePoint ending.state := by
  intro origin outcome differences
  have positive {problem : Problem Float σ ε parameters.size}
      (prepared : Problem.prepare objective parameters config = .ok problem) :
      0 < problem.config.armijo := by
    rw [(Problem.prepare_eq_ok prepared).1]
    exact config.armijo_positive
  have present (i : Fin parameters.size) : Scalar.isNaN (parameters.values.get i) = false :=
    present_of_isFinite (parameters.isFinite_values i)
  refine ⟨?_, ?_⟩
  · intro minimum answered unfailed
    have minimizes : Minimizes objective parameters config observer origin outcome.1 outcome.2 :=
      minimizes_minimize objective parameters config observer origin
    rw [answered] at minimizes
    rcases minimizes.describes with
      ⟨problem, ending, last, prepared, ran, status, values, cost, gradient⟩
    rw [status] at unfailed
    have sound := Problem.sound_of_run (positive prepared) present ran unfailed
    rcases (Problem.prepare_eq_ok_iff.mp prepared).2.2.2 with rfl
    rw [values, cost, gradient]
    refine ⟨sound.cost, sound.answered, ?_, ?_⟩
    · intro i
      rcases sound.gradient i with ⟨above, below, spans⟩
      exact ⟨above, below, spans.withSchedule false .inOrder, spans.isFinite (sound.present i)⟩
    · intro moderate i
      rcases sound.gradient i with ⟨above, below, spans⟩
      exact spans.isFinite (sound.present i)
        (moderate _ _ spans.above_answered spans.above_finite)
        (moderate _ _ spans.below_answered spans.below_finite)
  · intro problem prepared remaining state session check final head overflowed turned
    exact head.reaches.turn_ends (positive prepared) present overflowed turned

/-- A cost that falls from a height to its negative where the parameter becomes negative. -/
def cliff (height : Float) : Objective Float Unit Empty :=
  Expression.objective (.ifLess (.parameter 0) (.constant 0) (.neg (.constant height))
    (.constant height)) 1

private theorem edgeValue_isFinite : Scalar.isFinite (0 : Float) = true := by decide +kernel

private theorem edgeStep_isFinite : Scalar.isFinite (0.125 : Float) = true := by decide +kernel

private theorem edgeStep_pos : (0 : Float) < 0.125 := by decide +kernel

def edgeParameter : ParameterSet Float where
  entries := [{
    name := "a"
    value := 0
    step := 0.125
    bounds := Bounds.unlimited
    value_finite := edgeValue_isFinite
    step_finite := edgeStep_isFinite
    step_positive := edgeStep_pos
    bounds_ordered := Bounds.ordered_unlimited
    value_within := Bounds.contains_unlimited _ }]
  distinct := by decide

private theorem cliff_moderate {point : List Float} {value : Float}
    (answered : (cliff 1e300).Answers point value) : Moderate value := by
  have high : Moderate 1e300 := ⟨by decide +kernel, by decide +kernel⟩
  have low : Moderate (-1e300) := ⟨by decide +kernel, by decide +kernel⟩
  rcases answered with ⟨_, _, evaluated⟩
  rw [← Except.ok.inj (Prod.mk.inj evaluated).1]
  change Moderate (Expression.value point (.ifLess (.parameter 0) (.constant 0)
    (.neg (.constant 1e300)) (.constant 1e300)))
  rw [Expression.value]
  split
  · exact low
  · exact high

/-- At a cliff so high that the difference of its two sides is infinite, a fit starts with a
gradient that has overflowed. -/
theorem cliff_head_overflowed : ∃ problem remaining state session check final,
    Problem.prepare (cliff 1e308) edgeParameter Config.default = .ok problem ∧
    problem.AtHead Observer.silent edgeParameter.values (Session.start () ()) remaining state
      session ∧
    Scalar.isFinite (state.gradient.get ⟨0, Nat.one_pos⟩) = false ∧
    problem.turn Observer.silent state session = (.ok check, final) := by
  let problem : Problem Float Unit Empty edgeParameter.size :=
    ⟨cliff 1e308, Config.default, edgeParameter.nameVector, edgeParameter.steps, 1⟩
  have prepared : Problem.prepare (cliff 1e308) edgeParameter Config.default = .ok problem :=
    Problem.prepare_eq_ok_iff.mpr ⟨rfl, by decide +kernel, rfl, rfl⟩
  have reported : ((problem.run Observer.silent edgeParameter.values
      (Session.start () ())).1.toOption.map fun ending =>
        (ending.status, ending.state.iterations,
          Scalar.isFinite (ending.state.gradient.get ⟨0, Nat.one_pos⟩))) =
      some (.aboveMaxEdm, 0, false) := by decide +kernel
  have ends := problem.ends_run Observer.silent edgeParameter.values (Session.start () ())
  generalize problem.run Observer.silent edgeParameter.values (Session.start () ()) = outcome
    at reported ends
  rcases outcome with ⟨cause | ending, last⟩
  · cases reported
  · rcases Prod.mk.inj (Option.some.inj reported) with ⟨status, rest⟩
    rcases Prod.mk.inj rest with ⟨iterations, gradient⟩
    cases ends with
    | failedStart => cases status
    | limit => cases status
    | ended head _ turned =>
        rcases Problem.turn_samePoint turned with same | ⟨moved, _, _, _, stepped, same⟩
        · have kept : ending.state.gradient = _ := same.gradient
          exact ⟨problem, _, _, _, _, _, prepared, head, kept ▸ gradient, turned⟩
        · have advanced := Problem.iterate_iterations stepped
          have kept : ending.state.iterations = _ := same.iterations
          omega

/-- At a cliff of moderate height the gradient is steep, and finite. A higher one ends the
fit at once. -/
theorem cliff_gradient_finite :
    (∃ minimum, (minimize (cliff 1e300) edgeParameter Config.default Observer.silent
        (Session.start () ())).1 = .ok minimum ∧
      minimum.status ≠ .numericalFailure ∧ Scalar.isFinite minimum.cost = true ∧
        Scalar.isFinite (minimum.gradient.get ⟨0, Nat.one_pos⟩) = true) ∧
    ∃ problem state session ending final,
      Problem.prepare (cliff 1e308) edgeParameter Config.default = .ok problem ∧
      Scalar.isFinite (state.gradient.get ⟨0, Nat.one_pos⟩) = false ∧
      problem.turn Observer.silent state session = (.ok (.ended ending), final) ∧
      state.SamePoint ending.state := by
  refine ⟨?_, ?_⟩
  · let outcome := minimize (cliff 1e300) edgeParameter Config.default Observer.silent
      (Session.start () ())
    have ended : outcome.1.toOption.map (·.status) = some .aboveMaxEdm := by decide +kernel
    rcases answered : outcome.1 with cause | minimum
    · rw [answered] at ended
      cases ended
    · rw [answered] at ended
      have status : minimum.status = .aboveMaxEdm := Option.some.inj ended
      have unfailed : minimum.status ≠ .numericalFailure := by
        rw [status]
        decide
      rcases (finite_unless_overflowed (cliff 1e300) edgeParameter Config.default
        Observer.silent () ()).1 minimum answered unfailed with ⟨cost, _, _, gradient⟩
      exact ⟨minimum, rfl, unfailed, cost, gradient (fun _ _ given _ => cliff_moderate given) _⟩
  · rcases cliff_head_overflowed with
      ⟨problem, remaining, state, session, check, final, prepared, head, overflowed, turned⟩
    rcases (finite_unless_overflowed (cliff 1e308) edgeParameter Config.default
      Observer.silent () ()).2 problem prepared remaining state session check final head
        ⟨_, overflowed⟩ turned with ⟨ending, rfl, same⟩
    exact ⟨problem, state, session, ending, final, prepared, overflowed, turned, same⟩

/-- At a cliff so high that the difference of its two sides is infinite, the gradient
overflows, but the fit does not fail. -/
theorem cliff_gradient_overflows : ∃ minimum,
    (minimize (cliff 1e308) edgeParameter Config.default Observer.silent
      (Session.start () ())).1 = .ok minimum ∧
    minimum.status = .aboveMaxEdm ∧ Scalar.isFinite minimum.cost = true ∧
      Scalar.isFinite (minimum.gradient.get ⟨0, Nat.one_pos⟩) = false := by
  let outcome := minimize (cliff 1e308) edgeParameter Config.default Observer.silent
    (Session.start () ())
  have reported : (outcome.1.toOption.map fun minimum =>
      (minimum.status, Scalar.isFinite minimum.cost,
        Scalar.isFinite (minimum.gradient.get ⟨0, Nat.one_pos⟩))) =
      some (.aboveMaxEdm, true, false) := by decide +kernel
  rcases answered : outcome.1 with cause | minimum
  · rw [answered] at reported
    cases reported
  · rw [answered] at reported
    rcases Prod.mk.inj (Option.some.inj reported) with ⟨status, rest⟩
    rcases Prod.mk.inj rest with ⟨cost, gradient⟩
    exact ⟨minimum, rfl, status, cost, gradient⟩

end CurveFitting
