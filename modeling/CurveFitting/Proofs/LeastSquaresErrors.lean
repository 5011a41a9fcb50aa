import CurveFitting.Model.LeastSquares
import CurveFitting.Proofs.Run.Invariants
import CurveFitting.Proofs.Run.Recording

/-! # Errors of a least-squares fit

A least-squares cost answers wherever the number of parameters is right and there is data.
Both are checked before the first evaluation. After that nothing can refuse a fit, as a fit
never evaluates at a vector of another length.
-/

namespace CurveFitting

variable {α σ ω ε : Type}

/-! ## Recording -/

private def Pairing.recording : Pairing (List (List α) × σ) σ where
  together memory copied := memory.2 = copied
  apart _ _ := False

private theorem Objective.recorded_followedBy (objective : Objective α σ ε) :
    objective.recorded.FollowedBy objective .recording ⟨id, fun _ => False⟩
      (fun memory => memory.1.length) fun _ => true where
  counted _ _ := List.length_append
  evaluate point memory := {
    along := by
      rintro _ rfl
      exact .same_errors _ rfl
    alone := False.elim }
  hears _ := rfl
  misses := False.elim
  validate number := by
    change objective.validate number = (objective.validate number).mapError id
    cases objective.validate number <;> rfl
  errorDefinition := rfl

variable [Scalar α]

theorem minimize_recorded (objective : Objective α σ ε) (parameters : ParameterSet α)
    (config : Config α) (observer : Observer α ω) (objectiveMemory : σ) (observerMemory : ω) :
    let fit := minimize objective parameters config observer
      (Session.start objectiveMemory observerMemory)
    let recorded := minimize objective.recorded parameters config observer
      (Session.start ([], objectiveMemory) observerMemory)
    recorded.1 = fit.1 ∧ recorded.2.events = fit.2.events ∧ recorded.2.notes = fit.2.notes ∧
      recorded.2.observerMemory = fit.2.observerMemory ∧
      recorded.2.objectiveMemory.2 = fit.2.objectiveMemory := by
  intro fit recorded
  have follows := objective.recorded_followedBy.minimize parameters config (.inr fun _ _ => id)
    observer (.start ([], objectiveMemory) observerMemory) rfl
  have ends := follows.along (.start rfl observerMemory)
  change Pairing.Ends _ _ recorded fit at ends
  generalize recorded = ending, fit = copied at ends ⊢
  cases ends with
  | same answer together =>
      refine ⟨?_, together.events.symm, together.notes.symm, together.observerMemory.symm,
        together.objectiveMemory⟩
      rcases answer with (_ | _ | _ | _) | minimum <;> rfl
  | refused _ apart => exact apart.objectiveMemory.elim

omit [Scalar α] in
private theorem Objective.recorded_keeps {objective : Objective α σ ε} {n : Nat}
    {allowed : ε → Prop} (keeps : objective.Keeps n (fun _ => True) allowed) :
    objective.recorded.Keeps n (fun memory => ∀ point ∈ memory.1, point.length = n) allowed := by
  intro point
  refine ⟨?_, fun _ _ => trivial, ?_⟩
  · intro memory recorded
    change ∀ vector ∈ memory.1 ++ [point.toList], vector.length = n
    rw [List.forall_mem_append]
    exact ⟨recorded, List.forall_mem_singleton.mpr Vector.length_toList⟩
  · intro memory cause final _ fails
    have refused : (objective.evaluate point.toList memory.2).1 = .error cause :=
      (Prod.mk.inj fails).1
    exact (keeps point).errors trivial (Prod.ext refused rfl)

/-! ## Refusals -/

/-- Why a fit of some parameters is refused. Of several reasons it is the first. -/
inductive Objective.Refuses (objective : Objective α σ ε) (count : Nat) : FitError α ε → Prop
  | noParameters (none : count = 0) : Refuses objective count .noParameters
  | errorDefinition (some : 0 < count)
      (invalid : ¬(Scalar.isFinite objective.errorDefinition = true ∧
        0 < objective.errorDefinition)) :
      Refuses objective count (.errorDefinition objective.errorDefinition)
  | configuration {cause} (some : 0 < count)
      (valid : Scalar.isFinite objective.errorDefinition = true ∧ 0 < objective.errorDefinition)
      (refused : objective.validate count = .error cause) :
      Refuses objective count (.configuration cause)

theorem Problem.prepare_eq_error_iff {objective : Objective α σ ε} {parameters : ParameterSet α}
    {config : Config α} {cause : FitError α ε} :
    Problem.prepare objective parameters config = .error cause ↔
      objective.Refuses parameters.size cause := by
  have empty : parameters.isEmpty = true ↔ parameters.size = 0 :=
    List.isEmpty_iff_length_eq_zero
  unfold Problem.prepare
  constructor
  · intro failed
    split at failed
    · rename_i none
      cases failed
      exact .noParameters (empty.mp none)
    · rename_i nonempty
      have some : 0 < parameters.size := Nat.pos_of_ne_zero (empty.not.mp nonempty)
      split at failed
      · rename_i valid
        split at failed
        · rename_i refused
          cases failed
          exact .configuration some valid refused
        · cases failed
      · rename_i invalid
        cases failed
        exact .errorDefinition some invalid
  · intro refuses
    cases refuses with
    | noParameters none => exact if_pos (empty.mpr none)
    | errorDefinition some invalid =>
        rw [if_neg (empty.not.mpr (Nat.ne_of_gt some)), if_neg invalid]
    | configuration some valid refused =>
        rw [if_neg (empty.not.mpr (Nat.ne_of_gt some)), if_pos valid, refused]

private theorem Objective.Refuses.of_same {τ : Type} {objective : Objective α σ ε}
    {other : Objective α τ ε} {count : Nat} {cause : FitError α ε}
    (definition : objective.errorDefinition = other.errorDefinition)
    (validates : objective.validate = other.validate) (refuses : objective.Refuses count cause) :
    other.Refuses count cause := by
  cases refuses with
  | noParameters none => exact .noParameters none
  | errorDefinition some invalid =>
      rw [definition] at invalid ⊢
      exact .errorDefinition some invalid
  | configuration some valid refused =>
      rw [definition] at valid
      rw [validates] at refused
      exact .configuration some valid refused

private theorem Objective.refuses_recorded_iff (objective : Objective α σ ε) {count : Nat}
    {cause : FitError α ε} :
    objective.recorded.Refuses count cause ↔ objective.Refuses count cause :=
  ⟨.of_same rfl rfl, .of_same rfl rfl⟩

/-! ## Least squares -/

namespace LeastSquares

variable {problem : LeastSquares α} {n : Nat}

/-- Why a least-squares fit of some parameters is refused. Of several reasons it is the
first. -/
inductive Refuses (problem : LeastSquares α) (count : Nat) :
    FitError α LeastSquaresError → Prop
  | noParameters (none : count = 0) : Refuses problem count .noParameters
  | errorDefinition (some : 0 < count)
      (invalid : ¬(Scalar.isFinite problem.errorDefinition = true ∧
        0 < problem.errorDefinition)) :
      Refuses problem count (.errorDefinition problem.errorDefinition)
  | emptyDataset (some : 0 < count)
      (valid : Scalar.isFinite problem.errorDefinition = true ∧ 0 < problem.errorDefinition)
      (empty : problem.points = []) :
      Refuses problem count (.configuration .emptyDataset)
  | parameterCount (some : 0 < count)
      (valid : Scalar.isFinite problem.errorDefinition = true ∧ 0 < problem.errorDefinition)
      (filled : problem.points ≠ []) (different : count ≠ problem.model.parameterCount) :
      Refuses problem count
        (.configuration (.parameterCount problem.model.parameterCount count))

theorem refuses_iff {cause : FitError α LeastSquaresError} :
    problem.objective.Refuses n cause ↔ problem.Refuses n cause := by
  constructor
  · intro refuses
    cases refuses with
    | noParameters none => exact .noParameters none
    | errorDefinition some invalid => exact .errorDefinition some invalid
    | configuration some valid refused =>
        rcases validate_eq_error_iff.mp refused with ⟨empty, rfl⟩ | ⟨filled, different, rfl⟩
        · exact .emptyDataset some valid empty
        · exact .parameterCount some valid filled different
  · intro refuses
    cases refuses with
    | noParameters none => exact .noParameters none
    | errorDefinition some invalid => exact .errorDefinition some invalid
    | emptyDataset some valid empty =>
        exact .configuration some valid (validate_eq_error_iff.mpr (.inl ⟨empty, rfl⟩))
    | parameterCount some valid filled different =>
        exact .configuration some valid
          (validate_eq_error_iff.mpr (.inr ⟨filled, different, rfl⟩))

/-- Once the number of parameters has been accepted, every evaluation at as many is answered. -/
theorem objective_keeps (valid : problem.validate n = .ok ()) :
    problem.objective.Keeps n (fun _ => True) (fun _ => False) := by
  intro point
  refine ⟨fun _ => trivial, fun _ _ => trivial, ?_⟩
  intro memory cause final _ fails
  have refused : problem.cost point.toList = .error cause := (Prod.mk.inj fails).1
  rw [cost, Vector.length_toList, valid] at refused
  cases refused

private theorem recorded_answers {parameters : ParameterSet α} {config : Config α}
    {ready : Problem α (List (List α) × Unit) LeastSquaresError parameters.size}
    (prepared : Problem.prepare problem.objective.recorded parameters config = .ok ready)
    (observer : Observer α ω) (observerMemory : ω) :
    let recorded := minimize problem.objective.recorded parameters config observer
      (Session.start ([], ()) observerMemory)
    (∃ minimum, recorded.1 = .ok minimum) ∧
      ∀ point ∈ recorded.2.objectiveMemory.1, point.length = parameters.size := by
  intro recorded
  have valid : problem.validate parameters.size = .ok () := Problem.validate_of_prepare prepared
  have keeps := Objective.recorded_keeps (objective_keeps valid)
  have begun : ∀ point ∈ ([] : List (List α)), point.length = parameters.size := nofun
  exact ⟨keeps.answers prepared observer begun, (keeps.minimize prepared observer).memory begun⟩

end LeastSquares

/-- A polynomial fit by least squares gives a result, unless it has no parameters, its error
definition is not finite and positive, it has no data, or the number of parameters is not
that of the coefficients. The first of these reasons is the error, and the fit has made no
evaluation and told no event by then. All its evaluations are at vectors with an entry for
each parameter. -/
theorem polynomial_fit_refused_only_at_once (degree : Nat) (points : List (DataPoint α))
    (errorDefinition : α) (parameters : ParameterSet α) (config : Config α)
    (observer : Observer α ω) (observerMemory : ω) :
    let problem : LeastSquares α := ⟨polynomialModel degree, points, errorDefinition⟩
    let outcome := minimize problem.objective parameters config observer
      (Session.start () observerMemory)
    let recorded := minimize problem.objective.recorded parameters config observer
      (Session.start ([], ()) observerMemory)
    (∀ cause, outcome.1 = .error cause ↔ problem.Refuses parameters.size cause) ∧
    (∀ cause, outcome.1 = .error cause →
      outcome.2 = Session.start () observerMemory ∧
        recorded.2 = Session.start ([], ()) observerMemory) ∧
    (∀ cause, outcome.1 ≠ .error (.objective cause)) ∧
    recorded.1 = outcome.1 ∧ recorded.2.events = outcome.2.events ∧
    ∀ point ∈ recorded.2.objectiveMemory.1, point.length = parameters.size := by
  intro problem outcome recorded
  rcases minimize_recorded problem.objective parameters config observer () observerMemory with
    ⟨sameAnswer, sameEvents, _⟩
  change recorded.1 = outcome.1 at sameAnswer
  have failed {cause : FitError α LeastSquaresError}
      (refuses : problem.Refuses parameters.size cause) :
      Problem.prepare problem.objective.recorded parameters config = .error cause :=
    Problem.prepare_eq_error_iff.mpr
      (problem.objective.refuses_recorded_iff.mpr (LeastSquares.refuses_iff.mpr refuses))
  rcases prepared : Problem.prepare problem.objective.recorded parameters config with
    early | ready
  · have refuses : problem.objective.Refuses parameters.size early :=
      problem.objective.refuses_recorded_iff.mp (Problem.prepare_eq_error_iff.mp prepared)
    have refused : outcome = (.error early, Session.start () observerMemory) :=
      minimize_of_prepare_error (Problem.prepare_eq_error_iff.mpr refuses)
    have refusedRecorded : recorded = (.error early, Session.start ([], ()) observerMemory) :=
      minimize_of_prepare_error prepared
    rw [refused, refusedRecorded]
    refine ⟨?_, fun _ _ => ⟨rfl, rfl⟩, ?_, rfl, rfl, nofun⟩
    · intro cause
      constructor
      · intro equal
        cases equal
        exact LeastSquares.refuses_iff.mp refuses
      · intro other
        cases prepared.symm.trans (failed other)
        rfl
    · intro cause equal
      cases equal
      cases refuses
  · rcases LeastSquares.recorded_answers prepared observer observerMemory with
      ⟨⟨minimum, result⟩, lengths⟩
    change recorded.1 = .ok minimum at result
    have answered (cause : FitError α LeastSquaresError) : outcome.1 ≠ .error cause := by
      rw [← sameAnswer, result]
      intro equal
      cases equal
    refine ⟨?_, fun cause equal => absurd equal (answered cause), fun cause => answered _,
      sameAnswer, sameEvents, lengths⟩
    intro cause
    refine ⟨fun equal => absurd equal (answered cause), fun refuses => ?_⟩
    cases prepared.symm.trans (failed refuses)

end CurveFitting
