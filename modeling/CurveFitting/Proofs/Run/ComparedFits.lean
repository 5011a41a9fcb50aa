import CurveFitting.Proofs.Run.Comparison

/-! # Runs of two objectives

The comparison of two objectives carried on to whole fits. While the fits go along, both
observers have been shown the same events and both logs have the same entries. Where the
copy has been refused, it has told just those events of the first fit that report a
number of evaluations up to the refusal.
-/

namespace CurveFitting

variable {α σ τ ω ε κ : Type}

namespace Session

variable (pairing : Pairing σ τ) (heard : Nat → Bool)

/-- The sessions of a fit and its copy agree, and the copy has told of all evaluations. -/
structure Together (session : Session α σ ω) (copied : Session α τ ω) : Prop where
  objectiveMemory : pairing.together session.objectiveMemory copied.objectiveMemory
  observerMemory : copied.observerMemory = session.observerMemory
  events : copied.events = session.events
  notes : copied.notes = session.notes
  heard : ∀ event ∈ session.events.toList, heard event.calls = true

/-- The copy has been refused, and the events that it has told are those that it could. -/
structure Apart (session : Session α σ ω) (copied : Session α τ ω) : Prop where
  objectiveMemory : pairing.apart session.objectiveMemory copied.objectiveMemory
  events : copied.events.toList = session.events.toList.filter fun event => heard event.calls

variable {pairing heard}

private theorem Together.told {session : Session α σ ω} {copied : Session α τ ω}
    (together : Together pairing heard session copied) :
    copied.events.toList = session.events.toList.filter fun event => heard event.calls := by
  rw [together.events, List.filter_eq_self.mpr together.heard]

theorem Together.start {objectiveMemory : σ} {copied : τ}
    (together : pairing.together objectiveMemory copied) (observerMemory : ω) :
    Together (α := α) pairing heard (.start objectiveMemory observerMemory)
      (.start copied observerMemory) where
  objectiveMemory := together
  observerMemory := rfl
  events := rfl
  notes := rfl
  heard _ member := absurd member List.not_mem_nil

end Session

def Pairing.sessions (pairing : Pairing σ τ) (heard : Nat → Bool) :
    Pairing (Session α σ ω) (Session α τ ω) where
  together := Session.Together pairing heard
  apart := Session.Apart pairing heard

theorem Pairing.Ends.told {value cause copyCause : Type} {pairing : Pairing σ τ}
    {heard : Nat → Bool} {translation : Translation copyCause cause}
    {ending : Except cause value × Session α σ ω}
    {copied : Except copyCause value × Session α τ ω}
    (ends : (pairing.sessions heard).Ends translation ending copied) :
    copied.2.events.toList = ending.2.events.toList.filter fun event => heard event.calls := by
  cases ends with
  | same _ together => exact together.told
  | refused _ apart => exact apart.events

def FitError.mapCause (translate : κ → ε) : FitError α κ → FitError α ε
  | .noParameters => .noParameters
  | .errorDefinition value => .errorDefinition value
  | .configuration cause => .configuration (translate cause)
  | .objective cause => .objective (translate cause)

def Translation.fits (translation : Translation κ ε) :
    Translation (FitError α κ) (FitError α ε) where
  apply := FitError.mapCause translation.apply
  refusal error := ∃ cause, error = .objective cause ∧ translation.refusal cause

/-- Notes an event and tells the observer, whose answer decides between two results. -/
def Run.tell {value : Type} (observer : Observer α ω) (entry : Note α) (event : Event α)
    (stopped passed : value) : Run α σ ω ε value := do
  Run.note entry
  let answer ← Run.emit observer event
  if answer = some .stopEarly then return stopped else return passed

namespace Follows

variable {value : Type} {pairing : Pairing σ τ} {translation : Translation κ ε}
  {heard : Nat → Bool} {session : Session α σ ω}

private theorem evaluates {full : Evaluation σ ε value} {copy : Evaluation τ κ value}
    (follows : Follows pairing translation full copy session.objectiveMemory) :
    Follows (pairing.sessions heard) translation.fits (Run.evaluate full : Run α σ ω ε value)
      (Run.evaluate copy) session where
  along {copied} together := by
    have ends := follows.along together.objectiveMemory
    rw [Run.evaluate, Run.evaluate]
    generalize full session.objectiveMemory = ending at ends
    generalize copy copied.objectiveMemory = copyEnding at ends
    cases ends with
    | same answer after =>
        have mapped : (answer.mapError translation.apply).mapError FitError.objective =
            (answer.mapError FitError.objective).mapError
              (translation.fits (α := α)).apply := by
          cases answer <;> rfl
        dsimp only
        rw [mapped]
        exact .same _ { together with objectiveMemory := after }
    | refused refusal after =>
        exact .refused ⟨_, rfl, refusal⟩ ⟨after, together.told⟩
  alone apart := ⟨follows.alone apart.objectiveMemory, apart.events⟩

private theorem note (entry : Note α) :
    Follows (pairing.sessions heard) translation.fits (Run.note entry : Run α σ ω ε Unit)
      (Run.note entry) session where
  along together := .same (.ok ()) { together with notes := congrArg (·.push entry) together.notes }
  alone apart := ⟨apart.objectiveMemory, apart.events⟩

private theorem noted (entry : Note α) (given : value) :
    Follows (pairing.sessions heard) translation.fits
      (do Run.note entry; return given : Run α σ ω ε value) (do Run.note entry; return given)
      session :=
  .bind (note entry) fun _ _ _ => .pure given

/-- Where an event reports the evaluations made, it is told of just where they are heard of. -/
theorem emit {observer : Observer α ω} {event : Event α}
    (hears : ∀ {copied}, pairing.together session.objectiveMemory copied →
      heard event.calls = true)
    (misses : ∀ {copied}, pairing.apart session.objectiveMemory copied →
      heard event.calls = false) :
    Follows (pairing.sessions heard) translation.fits
      (Run.emit observer event : Run α σ ω ε (Option Action)) (Run.emit observer event)
      session where
  along {copied} together := by
    rw [Run.emit, Run.emit, together.observerMemory]
    refine .same (.ok _) ⟨together.objectiveMemory, rfl, ?_, ?_, ?_⟩
    · rw [together.events]
    · rw [together.notes]
    · intro told member
      rw [Array.toList_push, List.mem_append, List.mem_singleton] at member
      rcases member with earlier | rfl
      · exact together.heard told earlier
      · exact hears together.objectiveMemory
  alone {copied} apart := by
    refine ⟨apart.objectiveMemory, ?_⟩
    change _ = (session.events.push event).toList.filter _
    rw [Array.toList_push, List.filter_append, List.filter_singleton,
      misses apart.objectiveMemory, apart.events]
    simp

end Follows

namespace Objective.FollowedBy

variable [Scalar α] {n : Nat} {problem : Problem α σ ε n} {copy : Objective α τ κ}
  {pairing : Pairing σ τ} {translation : Translation κ ε} {count : σ → Nat} {heard : Nat → Bool}
  {state : State α n} {session : Session α σ ω}
  (followed : problem.objective.FollowedBy copy pairing translation count heard)
  (observer : Observer α ω)

include followed

private theorem emit {event : Event α} (aligned : count session.objectiveMemory = event.calls) :
    Follows (pairing.sessions heard) translation.fits
      (Run.emit observer event : Run α σ ω ε (Option Action)) (Run.emit observer event)
      session := by
  apply Follows.emit
  · intro copied together
    rw [← aligned]
    exact followed.hears together
  · intro copied apart
    rw [← aligned]
    exact followed.misses apart

private theorem tell {value : Type} {event : Event α} (entry : Note α) {stopped passed : value}
    (aligned : count session.objectiveMemory = event.calls) :
    Follows (pairing.sessions heard) translation.fits
      (Run.tell observer entry event stopped passed : Run α σ ω ε value)
      (Run.tell observer entry event stopped passed) session := by
  apply Follows.bind (.note _)
  intro _ noted equal
  cases equal
  refine Follows.bind (followed.emit observer ?_) ?_
  · exact aligned
  · intro answer middle _
    exact .ite (fun _ => .pure _) (fun _ => .pure _)

private theorem check (orderly : problem.config.parallel = false ∨ pairing.Lossless)
    (aligned : count session.objectiveMemory = state.calls) :
    Follows (pairing.sessions heard) translation.fits (problem.check observer state)
      ((problem.facing copy).check observer state) session := by
  apply Follows.ite
  · exact fun _ => .noted _ _
  · intro _
    apply Follows.bind (followed.refine orderly state session.objectiveMemory).evaluates
    intro refinement middle evaluated
    rcases Run.evaluate_eq_ok evaluated with ⟨memory, refined, rfl⟩
    have accounts := Problem.refine_accounts followed.counted aligned refined
    cases refinement with
    | failed => exact .noted _ _
    | checked next positiveDefinite =>
        have made : count memory = next.calls := accounts
        apply Follows.ite
        · intro _
          apply Follows.bind (.note _)
          intro _ noted equal
          cases equal
          exact followed.tell observer _ made
        · exact fun _ => followed.tell observer _ made

private theorem afterStep (orderly : problem.config.parallel = false ∨ pairing.Lossless)
    (multiplier : α) (updated : Bool) (aligned : count session.objectiveMemory = state.calls) :
    Follows (pairing.sessions heard) translation.fits
      (problem.afterStep observer state multiplier updated)
      ((problem.facing copy).afterStep observer state multiplier updated) session := by
  apply Follows.bind (.note _)
  intro _ noted equal
  cases equal
  apply Follows.bind (followed.emit observer aligned)
  intro answer told equal
  cases equal
  apply Follows.ite
  · exact fun _ => .pure _
  · intro _
    apply Follows.ite
    · exact fun _ => followed.check observer orderly aligned
    · exact fun _ => .pure _

private theorem settle (orderly : problem.config.parallel = false ∨ pairing.Lossless)
    (aligned : count session.objectiveMemory = state.calls) :
    Follows (pairing.sessions heard) translation.fits (problem.settle observer state)
      ((problem.facing copy).settle observer state) session := by
  refine Follows.ite (fun _ => .bind (followed.check observer orderly aligned) ?_)
    (fun _ => .bind (.pure _) ?_)
  all_goals
    intro check middle _
    cases check with
    | ended => exact .pure _
    | passed next =>
        apply Follows.ite
        · exact fun _ => .pure _
        · exact fun _ => .noted _ _

theorem search (orderly : problem.config.parallel = false ∨ pairing.Lossless) (remaining : Nat)
    (aligned : count session.objectiveMemory = state.calls) :
    Follows (pairing.sessions heard) translation.fits (problem.search observer remaining state)
      ((problem.facing copy).search observer remaining state) session := by
  induction remaining generalizing state session with
  | zero => exact .noted _ _
  | succ remaining induction =>
      apply Follows.ite
      · exact fun _ => .noted _ _
      · intro _
        apply Follows.bind (followed.iterate orderly state session.objectiveMemory).evaluates
        intro step middle evaluated
        rcases Run.evaluate_eq_ok evaluated with ⟨memory, stepped, rfl⟩
        have accounts := Problem.iterate_accounts followed.counted aligned stepped
        cases step with
        | stalled => exact followed.settle observer orderly accounts
        | outOfCalls => exact .noted _ _
        | failed => exact .noted _ _
        | advanced next multiplier updated =>
            have made : count memory = next.calls := accounts
            apply Follows.bind (followed.afterStep observer orderly multiplier updated made)
            intro check last followedUp
            have later := Problem.afterStep_accounts followed.counted made followedUp
            cases check with
            | ended => exact .pure _
            | passed passed =>
                apply Follows.ite
                · exact fun _ => .pure _
                · exact fun _ => induction later

theorem run (orderly : problem.config.parallel = false ∨ pairing.Lossless) (x : Vector α n)
    (fresh : count session.objectiveMemory = 0) :
    Follows (pairing.sessions heard) translation.fits (problem.run observer x)
      ((problem.facing copy).run observer x) session := by
  apply Follows.bind (followed.start orderly x session.objectiveMemory).evaluates
  intro start middle evaluated
  rcases Run.evaluate_eq_ok evaluated with ⟨memory, started, rfl⟩
  have accounts := Problem.start_accounts followed.counted fresh started
  cases start with
  | failed => exact .noted _ _
  | ready state =>
      apply Follows.bind (.note _)
      intro _ noted equal
      cases equal
      exact followed.search observer orderly _ accounts

end Objective.FollowedBy

/-! ## Minimization -/

namespace Objective.FollowedBy

variable [Scalar α] {full : Objective α σ ε} {copy : Objective α τ κ} {pairing : Pairing σ τ}
  {translation : Translation κ ε} {count : σ → Nat} {heard : Nat → Bool}
  (followed : full.FollowedBy copy pairing translation count heard)

include followed

private theorem prepare (parameters : ParameterSet α) (config : Config α) :
    (∃ problem, Problem.prepare full parameters config = .ok problem ∧
      Problem.prepare copy parameters config = .ok (problem.facing copy)) ∨
    ∃ cause, Problem.prepare full parameters config = .error (translation.fits.apply cause) ∧
      Problem.prepare copy parameters config = .error cause := by
  unfold Problem.prepare
  rw [followed.validate, followed.errorDefinition]
  split
  · exact .inr ⟨.noParameters, rfl, rfl⟩
  · split
    · rcases copy.validate parameters.size with cause | _
      · exact .inr ⟨.configuration cause, rfl, rfl⟩
      · exact .inl ⟨_, rfl, rfl⟩
    · exact .inr ⟨.errorDefinition _, rfl, rfl⟩

theorem minimize (parameters : ParameterSet α) (config : Config α)
    (orderly : config.parallel = false ∨ pairing.Lossless) (observer : Observer α ω)
    (origin : Session α σ ω) (fresh : count origin.objectiveMemory = 0) :
    Follows (pairing.sessions heard) translation.fits
      (CurveFitting.minimize full parameters config observer)
      (CurveFitting.minimize copy parameters config observer) origin := by
  unfold CurveFitting.minimize
  rcases followed.prepare parameters config with
    ⟨problem, prepared, copyPrepared⟩ | ⟨cause, failed, copyFailed⟩
  · rcases Problem.prepare_eq_ok prepared with ⟨rfl, rfl, _⟩
    rw [prepared, copyPrepared]
    change Follows _ _ (problem.run observer parameters.values >>= _)
      ((problem.facing copy).run observer parameters.values >>= _) _
    apply Follows.bind (followed.run observer orderly parameters.values fresh)
    intro ending final _
    exact .noted _ _
  · rw [failed, copyFailed]
    exact .throw cause

end Objective.FollowedBy

end CurveFitting
