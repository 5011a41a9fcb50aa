import CurveFitting.Objective.Fault
import CurveFitting.Proofs.Run.ComparedFits

/-! # The evaluations a fit reports

The calls that a fit reports, in its events and in its result, are evaluations that it
has made. To count them changes nothing in a fit. When an event is told is seen from
outside: an objective that refuses to answer past some number of evaluations lets the
fit tell just what it tells by then.
-/

namespace CurveFitting

variable {α σ ω ε : Type} [Scalar α]

/-! ## Counting -/

private def Pairing.counting : Pairing (Nat × σ) σ where
  together memory copied := memory.2 = copied
  apart _ _ := False

/-- A counted memory and the same one, as long as the count keeps to a limit. -/
private def Pairing.countingUpTo (answered : Nat) : Pairing (Nat × σ) (Nat × σ) where
  together memory copied := memory = copied ∧ memory.1 ≤ answered
  apart memory _ := answered < memory.1

omit [Scalar α] in
private theorem Session.Together.eq_counted {heard : Nat → Bool} {session : Session α (Nat × σ) ω}
    {copied : Session α σ ω} (together : Together .counting heard session copied) :
    session = { copied with
      objectiveMemory := (session.objectiveMemory.1, copied.objectiveMemory) } := by
  rcases session with ⟨⟨made, memory⟩, _, _, _⟩
  rcases copied with ⟨copiedMemory, _, _, _⟩
  rcases together with ⟨same, observed, told, noted, _⟩
  have equal : memory = copiedMemory := same
  cases equal
  cases observed
  cases told
  cases noted
  rfl

namespace Objective

variable (objective : Objective α σ ε)

theorem withFaults_countedBy (plan : FaultPlan) :
    (objective.withFaults plan).CountedBy Prod.fst := by
  intro point memory
  simp only [withFaults]
  repeat' split
  all_goals rfl

private theorem withFaults_of_room {answered : Nat} {point : List α} {memory : Nat × σ}
    (room : memory.1 < answered) :
    (objective.withFaults ⟨some answered, none⟩).evaluate point memory =
      (objective.withFaults ⟨none, none⟩).evaluate point memory := by
  simp [withFaults, Nat.not_le_of_lt room]

private theorem withFaults_of_full {answered : Nat} {point : List α} {memory : Nat × σ}
    (full : answered ≤ memory.1) :
    (objective.withFaults ⟨some answered, none⟩).evaluate point memory =
      (.error .refused, memory.1 + 1, memory.2) := by
  simp [withFaults, full]

private theorem withFaults_followedBy :
    (objective.withFaults ⟨none, none⟩).FollowedBy objective
      .counting ⟨.inner, fun _ => False⟩ Prod.fst fun _ => true where
  counted := objective.withFaults_countedBy _
  evaluate point memory := {
    along := by
      rintro _ rfl
      exact .same (objective.evaluate point memory.2).1 rfl
    alone := False.elim }
  hears _ := rfl
  misses := False.elim
  validate _ := rfl
  errorDefinition := rfl

private theorem withFaults_followedBy_limited (answered : Nat) :
    (objective.withFaults ⟨none, none⟩).FollowedBy (objective.withFaults ⟨some answered, none⟩)
      (.countingUpTo answered) ⟨id, fun cause => cause = .refused⟩ Prod.fst
      fun calls => calls ≤ answered where
  counted := objective.withFaults_countedBy _
  evaluate point memory := {
    along := by
      rintro _ ⟨rfl, within⟩
      rcases Nat.lt_or_eq_of_le within with room | full
      · rw [objective.withFaults_of_room room]
        exact .same_errors _ ⟨rfl, room⟩
      · rw [objective.withFaults_of_full (Nat.le_of_eq full.symm)]
        exact .refused rfl (Nat.lt_succ_of_le (Nat.le_of_eq full.symm))
    alone := by
      intro _ beyond
      exact Nat.lt_succ_of_lt beyond }
  hears together := decide_eq_true together.2
  misses beyond := decide_eq_false (Nat.not_le_of_lt beyond)
  validate number := by
    simp only [withFaults]
    cases objective.validate number <;> rfl
  errorDefinition := rfl

end Objective

/-! ## Minimization -/

theorem minimize_accounts {objective : Objective α σ ε} {count : σ → Nat}
    {parameters : ParameterSet α} {config : Config α} {observer : Observer α ω}
    {origin final : Session α σ ω} {minimum : Minimum α parameters.size}
    (counted : objective.CountedBy count) (fresh : count origin.objectiveMemory = 0)
    (answered : minimize objective parameters config observer origin = (.ok minimum, final)) :
    (minimum.status ≠ .numericalFailure → minimum.calls = count final.objectiveMemory) ∧
      (minimum.status = .numericalFailure →
        Overcharges (2 * (parameters.size * parameters.size) - 1)
          (count final.objectiveMemory) minimum.calls) := by
  have minimizes := minimizes_minimize objective parameters config observer origin
  rw [answered] at minimizes
  cases minimizes with
  | ended prepared ran =>
      rcases Problem.prepare_eq_ok prepared with ⟨_, rfl, _⟩
      have accounts := Problem.run_accounts counted fresh ran
      exact ⟨accounts.exact, accounts.overcharges⟩

section

variable (objective : Objective α σ ε) (parameters : ParameterSet α) (config : Config α)
  (observer : Observer α ω) (objectiveMemory : σ) (observerMemory : ω)

theorem minimize_counting :
    let fit := minimize objective parameters config observer
      (Session.start objectiveMemory observerMemory)
    let counted := minimize (objective.withFaults ⟨none, none⟩) parameters config observer
      (Session.start (0, objectiveMemory) observerMemory)
    counted = (fit.1.mapError (.mapCause .inner),
      { fit.2 with objectiveMemory := (counted.2.objectiveMemory.1, fit.2.objectiveMemory) }) := by
  intro fit counted
  have follows := objective.withFaults_followedBy.minimize parameters config
    (.inr fun _ _ => id) observer (.start (0, objectiveMemory) observerMemory) rfl
  have ends := follows.along (.start rfl observerMemory)
  change Pairing.Ends _ _ counted fit at ends
  generalize counted = ending, fit = copied at ends ⊢
  cases ends with
  | same answer together => exact Prod.ext rfl together.eq_counted
  | refused _ apart => exact apart.objectiveMemory.elim

theorem minimize_limited (inOrder : config.parallel = false) (answered : Nat) :
    (minimize (objective.withFaults ⟨some answered, none⟩) parameters config observer
      (Session.start (0, objectiveMemory) observerMemory)).2.events.toList =
    (minimize (objective.withFaults ⟨none, none⟩) parameters config observer
      (Session.start (0, objectiveMemory) observerMemory)).2.events.toList.filter
        (·.calls ≤ answered) := by
  have follows := (objective.withFaults_followedBy_limited answered).minimize parameters config
    (.inl inOrder) observer (.start (0, objectiveMemory) observerMemory) rfl
  have together : (Pairing.countingUpTo answered).together (0, objectiveMemory)
      (0, objectiveMemory) := ⟨rfl, Nat.zero_le _⟩
  exact (follows.along (.start together observerMemory)).told

end

/-- To count the evaluations of a fit changes nothing in it. In order, the calls of every event
are the evaluations made when it is told: where the objective refuses to answer after some
number of evaluations, the observer is told just the events that report no more. The calls
of a result are the evaluations made in the whole fit, unless a value was not finite. Then
they count the rest of the gradient or Hessian that was broken off, too. -/
theorem minimize_reports_evaluations (objective : Objective α σ ε)
    (parameters : ParameterSet α) (config : Config α) (observer : Observer α ω)
    (objectiveMemory : σ) (observerMemory : ω) :
    let fit := minimize objective parameters config observer
      (Session.start objectiveMemory observerMemory)
    let counted (answered : Option Nat) :=
      minimize (objective.withFaults ⟨answered, none⟩) parameters config observer
        (Session.start (0, objectiveMemory) observerMemory)
    let made := (counted none).2.objectiveMemory.1
    counted none = (fit.1.mapError (.mapCause .inner),
      { fit.2 with objectiveMemory := (made, fit.2.objectiveMemory) }) ∧
    (config.parallel = false → ∀ answered, (counted (some answered)).2.events.toList =
      fit.2.events.toList.filter (·.calls ≤ answered)) ∧
    (∀ minimum, fit.1 = .ok minimum → minimum.status ≠ .numericalFailure →
      minimum.calls = made) ∧
    ∀ minimum, fit.1 = .ok minimum → minimum.status = .numericalFailure →
      made ≤ minimum.calls ∧
        minimum.calls ≤ made + (2 * (parameters.size * parameters.size) - 1) := by
  intro fit counted made
  have counting : counted none = (fit.1.mapError (.mapCause .inner),
      { fit.2 with objectiveMemory := (made, fit.2.objectiveMemory) }) :=
    minimize_counting objective parameters config observer objectiveMemory observerMemory
  have answers {minimum} (answered : fit.1 = .ok minimum) :
      counted none = (.ok minimum, (counted none).2) := by
    have mapped := congrArg Prod.fst counting
    rw [answered] at mapped
    exact Prod.ext mapped rfl
  have reports {minimum} (answered : fit.1 = .ok minimum) :=
    minimize_accounts (objective.withFaults_countedBy _) rfl (answers answered)
  refine ⟨counting, ?_, fun minimum answered => (reports answered).1, ?_⟩
  · intro inOrder answered
    have told : (counted none).2.events = fit.2.events := by rw [counting]
    rw [← told]
    exact minimize_limited objective parameters config observer objectiveMemory observerMemory
      inOrder answered
  · intro minimum answered failed
    have overcharges := (reports answered).2 failed
    exact ⟨overcharges.le, overcharges.excess_le⟩

end CurveFitting
