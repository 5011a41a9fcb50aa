import Mathlib.Data.List.Infix
import CurveFitting.Proofs.Pools
import CurveFitting.Proofs.Run.Events
import CurveFitting.Proofs.Settings
import CurveFitting.Objective.Expression

/-! # Limits only cut a fit short

Two fits that differ only in their limits go the same way until the shorter one is
stopped. So its events are the first ones of the longer fit, and a fit that no
limit stopped comes out the same under any limits that leave room for it.
-/

namespace CurveFitting

variable {α σ ω ε : Type} {n : Nat}

def Config.withLimits [Scalar α] (config : Config α) (maxIterations : Nat)
    (maxCalls : Option Nat) : Config α :=
  { config with maxIterations := maxIterations, maxCalls := maxCalls }

def Problem.withLimits [Scalar α] (problem : Problem α σ ε n) (maxIterations : Nat)
    (maxCalls : Option Nat) : Problem α σ ε n :=
  { problem with config := problem.config.withLimits maxIterations maxCalls }

/-- An ending for want of evaluations or of iterations. -/
def Ending.Limited (ending : Ending α n) : Prop := ending.status = .reachedCallLimit

/-- A limit of `other` leaves room for what was done under `limit`: it is no lower, or
no lower than the calls that the answer reports. -/
def Covers {β ε : Type} (limit other : Nat) (answer : Except ε β) (calls : β → Nat) : Prop :=
  limit ≤ other ∨ ∃ value, answer = .ok value ∧ calls value ≤ other

namespace Covers

variable {β γ ε δ : Type} {limit other : Nat} {answer : Except ε β} {calls : β → Nat}
  {first : Except δ γ} {earlier : γ → Nat}

private theorem part (covers : Covers limit other answer calls)
    (le : ∀ value, answer = .ok value → ∃ begun, first = .ok begun ∧ earlier begun ≤ calls value) :
    Covers limit other first earlier := by
  rcases covers with wider | ⟨value, answered, room⟩
  · exact .inl wider
  · rcases le value answered with ⟨begun, started, before⟩
    exact .inr ⟨begun, started, Nat.le_trans before room⟩

private theorem of_error {cause : ε} (covers : Covers limit other (.error cause) calls) :
    Covers limit other first earlier := covers.part nofun

private theorem of_ok {value : β} {begun : γ}
    (covers : Covers limit other (.ok value : Except ε β) calls)
    (le : earlier begun ≤ calls value) :
    Covers limit other (.ok begun : Except δ γ) earlier := by
  apply covers.part
  intro value equal
  cases equal
  exact ⟨begun, rfl, le⟩

private theorem lt (covers : Covers limit other answer calls) {spent : Nat} (room : spent < limit)
    (lt : ¬limit ≤ other → ∀ value, answer = .ok value → spent < calls value) :
    spent < other := by
  by_cases wider : limit ≤ other
  · exact Nat.lt_of_lt_of_le room wider
  · rcases covers with wide | ⟨value, answered, enough⟩
    · exact absurd wide wider
    · exact Nat.lt_of_lt_of_le (lt wider value answered) enough

private theorem le (covers : Covers limit other answer calls) {spent : Nat} (room : spent ≤ limit)
    (le : ∀ value, answer = .ok value → spent ≤ calls value) : spent ≤ other := by
  rcases covers with wider | ⟨value, answered, enough⟩
  · exact Nat.le_trans room wider
  · exact Nat.le_trans (le value answered) enough

end Covers

variable [Scalar α]

/-! ## Steps -/

private theorem LineSearch.Tries.tryEach_eq {objective : Objective α σ ε} {ray : Ray α n}
    {armijo : α} {limit other : Nat} {steps : List α} {calls : Nat} {memory after : σ}
    {found : Result α n ε}
    (tries : Tries objective ray armijo limit steps calls memory found after)
    (unlimited : found.outcome ≠ .ok .outOfCalls)
    (covers : Covers limit other found.outcome fun _ => found.calls) :
    tryEach objective ray armijo other steps calls memory = (found, after) := by
  induction tries with
  | stalled => rfl
  | outOfCalls => exact absurd rfl unlimited
  | refused room fails =>
      have free := covers.lt room nofun
      exact tryEach_of_error free fails
  | accepted room evaluates accepts =>
      have free := covers.lt room fun _ _ _ => Nat.lt_succ_self _
      rw [tryEach_of_ok free evaluates, if_pos accepts]
  | rejected room evaluates rejects rest induction =>
      have free := covers.lt room fun _ _ _ => rest.spends.le
      rw [tryEach_of_ok free evaluates, if_neg (Bool.eq_false_iff.mp rejects)]
      exact induction unlimited covers

namespace Problem

variable {problem : Problem α σ ε n} {maxIterations : Nat} {maxCalls : Option Nat}
  {observer : Observer α ω} {state : State α n} {memory after : σ}
  {session final : Session α σ ω}

private theorem lineSearch_withLimits {answer : Except ε (Descent α n)}
    (search : problem.lineSearch state memory = (answer, after))
    (unlimited : ∀ searched, answer ≠ .ok (.outOfCalls searched))
    (covers : Covers problem.callLimit (problem.withLimits maxIterations maxCalls).callLimit
      answer fun descent => descent.state.calls) :
    (problem.withLimits maxIterations maxCalls).lineSearch state memory =
      (answer, after) := by
  rw [lineSearch_apply] at search ⊢
  have tries := problem.tries_found state memory
  rcases found : problem.found state memory with ⟨⟨calls, outcome⟩, last⟩
  rw [found] at search tries
  have same : (problem.withLimits maxIterations maxCalls).found state memory =
      (⟨calls, outcome⟩, last) := by
    apply tries.tryEach_eq
    · intro equal
      subst equal
      cases search
      exact unlimited _ rfl
    · apply covers.part
      intro descent answered
      rcases outcome with cause | outcome
      · cases search
        cases answered
      · cases search
        cases answered
        exact ⟨_, rfl, Nat.le_of_eq (by rw [Descent.state_ofOutcome])⟩
  rw [same]
  exact search

private theorem descend_withLimits {answer : Except ε (Descent α n)}
    (search : problem.descend state memory = (answer, after))
    (unlimited : ∀ searched, answer ≠ .ok (.outOfCalls searched))
    (covers : Covers problem.callLimit (problem.withLimits maxIterations maxCalls).callLimit
      answer fun descent => descent.state.calls) :
    (problem.withLimits maxIterations maxCalls).descend state memory =
      (answer, after) := by
  have descends := problem.descends_descend state memory
  rw [search] at descends
  unfold descend
  cases descends with
  | uphill rising search =>
      rw [if_pos rising]
      exact lineSearch_withLimits search unlimited covers
  | direct falling search settled =>
      rw [if_neg falling]
      have same := lineSearch_withLimits search unlimited covers
      rcases answer with cause | trial | stalled | searched
      · exact Computation.bind_of_error same
      · exact Computation.bind_of_ok same
      · rw [Computation.bind_of_ok same]
        simp only [Computation.if_apply]
        exact if_pos (settled _ rfl)
      · exact absurd rfl (unlimited _)
  | retried falling first differs second =>
      rw [if_neg falling]
      have same : (problem.withLimits maxIterations maxCalls).lineSearch state memory = _ :=
        lineSearch_withLimits first nofun (covers.part ?_)
      · rw [Computation.bind_of_ok same]
        simp only [Computation.if_apply]
        refine (if_neg (Bool.eq_false_iff.mp differs)).trans ?_
        exact lineSearch_withLimits second unlimited covers
      · intro descent equal
        subst equal
        exact ⟨_, rfl, (lineSearch_spends second : Spends _ (problem.reset _).calls _).le⟩

private theorem iterate_withLimits {answer : Except ε (Step α n)}
    (stepped : problem.iterate state memory = (answer, after))
    (unlimited : ∀ searched, answer ≠ .ok (.outOfCalls searched))
    (covers : Covers problem.callLimit (problem.withLimits maxIterations maxCalls).callLimit
      answer fun step => step.state.calls) :
    (problem.withLimits maxIterations maxCalls).iterate state memory =
      (answer, after) := by
  have iterates := problem.iterates_iterate state memory
  rw [stepped] at iterates
  unfold iterate
  cases iterates with
  | refused descent =>
      exact Computation.bind_of_error (descend_withLimits descent nofun covers.of_error)
  | stalled descent =>
      rw [Computation.bind_of_ok (descend_withLimits descent nofun
        (covers.of_ok (Nat.le_refl _)))]
      rfl
  | outOfCalls => exact absurd rfl (unlimited _)
  | gradientRefused descent gradient =>
      rw [Computation.bind_of_ok (descend_withLimits descent nofun covers.of_error)]
      exact Computation.bind_of_error gradient
  | failed descent gradient =>
      rw [Computation.bind_of_ok (descend_withLimits descent nofun
        (covers.of_ok (Nat.le_add_right _ _)))]
      exact Computation.bind_of_ok gradient
  | advanced descent gradient =>
      rw [Computation.bind_of_ok (descend_withLimits descent nofun
        (covers.of_ok (Nat.le_add_right _ _)))]
      exact Computation.bind_of_ok gradient

/-! ## Checks -/

private theorem check_withLimits {answer : Except (FitError α ε) (Check α n)}
    (checked : problem.check observer state session = (answer, final))
    (unlimited : ∀ ending, answer = .ok (.ended ending) → ¬ending.Limited)
    (covers : Covers problem.callLimit (problem.withLimits maxIterations maxCalls).callLimit
      answer fun check => check.state.calls) :
    (problem.withLimits maxIterations maxCalls).check observer state session =
      (answer, final) := by
  by_cases full : problem.callLimit < state.calls + 2 * (n * n)
  · rcases check_of_full observer session full with ⟨notes, ended⟩
    cases ended.symm.trans checked
    exact absurd rfl (unlimited _ rfl)
  · have room := Nat.le_of_not_lt full
    have free := covers.le room fun check answered =>
      Nat.le_of_eq (check_calls room (answered ▸ checked)).symm
    rw [check, if_neg full] at checked
    rw [check, if_neg (Nat.not_lt_of_le free)]
    exact checked

private theorem settle_of_check
    (same : (problem.isClose state && problem.config.refineHessian) = true →
      (problem.withLimits maxIterations maxCalls).check observer state session =
        problem.check observer state session) :
    (problem.withLimits maxIterations maxCalls).settle observer state session =
      problem.settle observer state session := by
  unfold settle
  simp only [Computation.bind_apply, Computation.if_apply]
  by_cases needed : (problem.isClose state && problem.config.refineHessian) = true
  · rw [if_pos needed, ← same needed]
    exact if_pos needed
  · rw [if_neg needed]
    exact if_neg needed

private theorem settle_withLimits {answer : Except (FitError α ε) (Ending α n)}
    (settled : problem.settle observer state session = (answer, final))
    (unlimited : ∀ ending, answer = .ok ending → ¬ending.Limited)
    (covers : Covers problem.callLimit (problem.withLimits maxIterations maxCalls).callLimit
      answer fun ending => ending.state.calls) :
    (problem.withLimits maxIterations maxCalls).settle observer state session =
      (answer, final) := by
  rw [← settled]
  apply settle_of_check
  intro needed
  rw [Bool.and_eq_true] at needed
  have settles := problem.settles_settle observer state session
  rw [settled] at settles
  cases settles with
  | unchecked _ trusting => cases needed.2.symm.trans trusting
  | far far => cases needed.1.symm.trans far
  | refused _ _ checked =>
      rw [checked]
      exact check_withLimits checked nofun covers.of_error
  | ended _ _ checked =>
      rw [checked]
      refine check_withLimits checked ?_ (covers.of_ok (Nat.le_refl _))
      intro _ equal
      cases equal
      exact unlimited _ rfl
  | confirmed _ _ checked =>
      rw [checked]
      exact check_withLimits checked nofun (covers.of_ok (Nat.le_refl _))
  | refuted _ _ checked =>
      rw [checked]
      exact check_withLimits checked nofun (covers.of_ok (Nat.le_refl _))

/-! ## Turns -/

private theorem afterStep_withLimits {multiplier : α} {updated : Bool}
    {answer : Except (FitError α ε) (Check α n)}
    (followed : problem.afterStep observer state multiplier updated session =
      (answer, final))
    (unlimited : ∀ ending, answer = .ok (.ended ending) → ¬ending.Limited)
    (covers : Covers problem.callLimit (problem.withLimits maxIterations maxCalls).callLimit
      answer fun check => check.state.calls) :
    (problem.withLimits maxIterations maxCalls).afterStep observer state multiplier updated
        session = (answer, final) := by
  unfold afterStep at followed ⊢
  simp only [Computation.bind_apply, Run.note_apply, Run.emit_apply, Computation.if_apply]
    at followed ⊢
  split at followed
  · rename_i stop
    exact (if_pos stop).trans followed
  · rename_i goOn
    refine (if_neg goOn).trans ?_
    split at followed
    · rename_i needed
      refine (if_pos needed).trans ?_
      exact check_withLimits followed unlimited covers
    · rename_i quiet
      exact (if_neg quiet).trans followed

private theorem turn_withLimits {answer : Except (FitError α ε) (Check α n)}
    (turned : problem.turn observer state session = (answer, final))
    (unlimited : ∀ ending, answer = .ok (.ended ending) → ¬ending.Limited)
    (covers : Covers problem.callLimit (problem.withLimits maxIterations maxCalls).callLimit
      answer fun check => check.state.calls) :
    (problem.withLimits maxIterations maxCalls).turn observer state session =
      (answer, final) := by
  rcases step : problem.iterate state session.objectiveMemory with
    ⟨cause | ⟨next, multiplier, updated⟩ | searched | searched | searched, memory⟩
  · rw [turn_of_error step] at turned
    cases turned
    exact turn_of_error (iterate_withLimits step nofun covers.of_error)
  · rw [turn_of_advanced step] at turned
    rcases followed : problem.afterStep observer next multiplier updated
      { session with objectiveMemory := memory } with ⟨cause | check, last⟩
    · rw [Computation.bind_of_error followed] at turned
      cases turned
      rw [turn_of_advanced (iterate_withLimits step nofun covers.of_error)]
      exact Computation.bind_of_error (afterStep_withLimits followed nofun covers.of_error)
    · rw [Computation.bind_of_ok followed] at turned
      cases turned
      have later : next.calls ≤ (problem.convergeIfClose check).state.calls := by
        rw [state_convergeIfClose]
        exact afterStep_le followed
      rw [turn_of_advanced (iterate_withLimits step nofun (covers.of_ok later))]
      refine Computation.bind_of_ok (afterStep_withLimits followed ?_ (covers.of_ok ?_))
      · intro _ equal
        cases equal
        exact unlimited _ rfl
      · rw [state_convergeIfClose]
  · rw [turn_of_stalled step] at turned
    rcases settled : problem.settle observer searched
      { session with objectiveMemory := memory } with ⟨cause | ending, last⟩
    · rw [Computation.bind_of_error settled] at turned
      cases turned
      rw [turn_of_stalled (iterate_withLimits step nofun covers.of_error)]
      exact Computation.bind_of_error (settle_withLimits settled nofun covers.of_error)
    · rw [Computation.bind_of_ok settled] at turned
      cases turned
      rw [turn_of_stalled (iterate_withLimits step nofun (covers.of_ok (settle_le settled)))]
      refine Computation.bind_of_ok
        (settle_withLimits settled ?_ (covers.of_ok (Nat.le_refl _)))
      intro _ equal
      cases equal
      exact unlimited _ rfl
  · rw [turn_of_outOfCalls step] at turned
    cases turned
    exact absurd rfl (unlimited _ rfl)
  · rw [turn_of_failed step] at turned
    cases turned
    exact turn_of_failed (iterate_withLimits step nofun (covers.of_ok (Nat.le_refl _)))

/-! ## The rest of a fit -/

theorem search_le {remaining : Nat} {ending : Ending α n}
    (searched : problem.search observer remaining state session = (.ok ending, final)) :
    state.calls ≤ ending.state.calls := by
  induction remaining generalizing state session with
  | zero =>
      cases searched
      exact Nat.le_refl _
  | succ remaining induction =>
      rw [search_succ] at searched
      split at searched
      · cases searched
        exact Nat.le_refl _
      · rcases turned : problem.turn observer state session with
          ⟨cause | next | last, middle⟩
        · rw [turned] at searched
          cases searched
        · rw [turned] at searched
          exact Nat.le_trans (turn_le turned) (induction searched)
        · rw [turned] at searched
          cases searched
          exact turn_le turned

/-- A fit that no limit stops comes out the same under limits that leave room. -/
theorem search_withLimits {remaining more : Nat} {answer : Except (FitError α ε) (Ending α n)}
    (given : ¬problem.callLimit ≤ (problem.withLimits maxIterations maxCalls).callLimit →
      LineSearch.multipliers problem.config.minStep ≠ []) (enough : remaining ≤ more)
    (searched : problem.search observer remaining state session = (answer, final))
    (unlimited : ∀ ending, answer = .ok ending → ¬ending.Limited)
    (covers : Covers problem.callLimit (problem.withLimits maxIterations maxCalls).callLimit
      answer fun ending => ending.state.calls) :
    (problem.withLimits maxIterations maxCalls).search observer more state session =
      (answer, final) := by
  induction remaining generalizing state session more with
  | zero =>
      cases searched
      exact absurd rfl (unlimited _ rfl)
  | succ remaining induction =>
      rcases Nat.exists_eq_succ_of_ne_zero (by omega : more ≠ 0) with ⟨more, rfl⟩
      rw [search_succ] at searched ⊢
      by_cases full : problem.callLimit ≤ state.calls
      · rw [if_pos full] at searched
        cases searched
        exact absurd rfl (unlimited _ rfl)
      · have room := Nat.lt_of_not_le full
        rw [if_neg full] at searched
        rcases turned : problem.turn observer state session with
          ⟨cause | next | last, middle⟩
        · rw [turned] at searched
          cases searched
          have free := covers.lt room nofun
          rw [if_neg (Nat.not_le_of_lt free), turn_withLimits turned nofun covers.of_error]
        · rw [turned] at searched
          -- A limit that covers the calls of the end covers those at every head before it.
          have later : ∀ ending, answer = .ok ending → next.calls ≤ ending.state.calls := by
            intro _ equal
            subst equal
            exact search_le searched
          have free := covers.lt room fun narrower ending answered =>
            Nat.lt_of_lt_of_le (turn_lt (given narrower) room turned) (later ending answered)
          rw [if_neg (Nat.not_le_of_lt free),
            turn_withLimits turned nofun (covers.part fun ending answered =>
              ⟨_, rfl, later ending answered⟩)]
          exact induction (Nat.le_of_succ_le_succ enough) searched
        · rw [turned] at searched
          cases searched
          have free := covers.lt room
            (by intro narrower _ equal; cases equal; exact turn_lt (given narrower) room turned)
          rw [if_neg (Nat.not_le_of_lt free),
            turn_withLimits turned ?_ (covers.of_ok (Nat.le_refl _))]
          intro _ equal
          cases equal
          exact unlimited _ rfl

/-! ## The events of a fit that a limit stops -/

private theorem check_limited_events {ending : Ending α n} (limited : ending.Limited)
    (checked : problem.check observer state session = (.ok (.ended ending), final)) :
    final.events = session.events := by
  have checks := problem.checks_check observer state session
  rw [checked] at checks
  cases checks with
  | noRoom => rfl
  | failed => cases limited
  | stopped => cases limited

private theorem settle_limited_events {ending : Ending α n} (limited : ending.Limited)
    (settled : problem.settle observer state session = (.ok ending, final)) :
    final.events = session.events := by
  have settles := problem.settles_settle observer state session
  rw [settled] at settles
  cases settles with
  | unchecked => cases limited
  | far => cases limited
  | ended _ _ checked => exact check_limited_events limited checked
  | confirmed => cases limited
  | refuted => cases limited

private theorem afterStep_limited_events {multiplier : α} {updated : Bool} {ending : Ending α n}
    (limited : ending.Limited)
    (followed : problem.afterStep observer state multiplier updated session =
      (.ok (.ended ending), final)) :
    final.events = session.events.push (state.iteratedEvent multiplier updated) := by
  have follows := problem.follows_afterStep observer state session multiplier updated
  rw [followed] at follows
  cases follows with
  | stopped => cases limited
  | checked telling _ checked =>
      subst telling
      exact check_limited_events limited checked

private theorem turn_tells_step {next : State α n} {multiplier : α} {updated : Bool}
    (step : problem.iterate state session.objectiveMemory =
      (.ok (.advanced next multiplier updated), memory)) :
    (session.events.push (next.iteratedEvent multiplier updated)).toList <+:
      (problem.turn observer state session).2.events.toList := by
  rw [turn_of_advanced step, Computation.bind_apply]
  rcases followed : problem.afterStep observer next multiplier updated
    { session with objectiveMemory := memory } with ⟨cause | check, last⟩
  · exact (afterStep_tells followed).grows
  · exact (afterStep_tells followed).grows

private theorem turn_limited_grows {ending : Ending α n} (limited : ending.Limited)
    (wider : problem.callLimit ≤ (problem.withLimits maxIterations maxCalls).callLimit)
    (turned : problem.turn observer state session = (.ok (.ended ending), final)) :
    final.events.toList <+: ((problem.withLimits maxIterations maxCalls).turn observer state
      session).2.events.toList := by
  have turns := problem.turns_turn observer state session
  rw [turned] at turns
  have grows :=
    (problem.withLimits maxIterations maxCalls).turn_grows observer state session
  generalize answered : (.ok (.ended ending) : Except (FitError α ε) (Check α n)) = answer
    at turns
  cases turns with
  | refused => cases answered
  | refusedStalled => cases answered
  | stalled _ settled =>
      cases answered
      have kept : final.events = session.events := (settle_limited_events limited settled :)
      rw [kept]
      exact grows
  | outOfCalls => exact grows
  | failed =>
      cases answered
      cases limited
  | refusedAdvanced => cases answered
  | advanced step followed =>
      -- A limit reached at the check of a step ends the turn after the step has been told.
      rename_i check
      rcases check with passed | last
      · rw [convergeIfClose] at answered
        split at answered
        · cases answered
          cases limited
        · cases answered
      · cases answered
        have told : final.events = session.events.push _ :=
          (afterStep_limited_events limited followed :)
        rw [told]
        refine turn_tells_step (iterate_withLimits step ?_ (.inl wider))
        intro _ equal
        cases equal

/-- The events of a fit are the first ones of the fit with wider limits. -/
theorem search_events_withLimits {remaining more : Nat} (enough : remaining ≤ more)
    (wider : problem.callLimit ≤ (problem.withLimits maxIterations maxCalls).callLimit) :
    (problem.search observer remaining state session).2.events.toList <+:
      ((problem.withLimits maxIterations maxCalls).search observer more state
        session).2.events.toList := by
  induction remaining generalizing state session more with
  | zero => exact search_grows more state session
  | succ remaining induction =>
      rcases Nat.exists_eq_succ_of_ne_zero (by omega : more ≠ 0) with ⟨more, rfl⟩
      by_cases full : problem.callLimit ≤ state.calls
      · rw [search_succ, if_pos full]
        exact search_grows (more + 1) state session
      · have room := Nat.lt_of_not_le full
        have free := Nat.lt_of_lt_of_le room wider
        rw [search_succ, if_neg full, search_succ, if_neg (Nat.not_le_of_lt free)]
        rcases turned : problem.turn observer state session with
          ⟨cause | next | ending, middle⟩
        · rw [turn_withLimits turned nofun (.inl wider)]
        · rw [turn_withLimits turned nofun (.inl wider)]
          exact induction (Nat.le_of_succ_le_succ enough)
        -- The wider fit may go on where only the narrower limit ends the fit.
        · by_cases limited : ending.Limited
          · have grows := turn_limited_grows limited wider turned
            generalize (problem.withLimits maxIterations maxCalls).turn observer state session =
              outcome at grows ⊢
            rcases outcome with ⟨cause | next | last, final⟩
            · exact grows
            · exact grows.trans (search_grows more next final)
            · exact grows
          · rw [turn_withLimits turned (by intro _ equal; cases equal; exact limited) (.inl wider)]

/-! ## Whole fits -/

variable {x : Vector α n} {origin : Session α σ ω}

private theorem start_withLimits : (problem.withLimits maxIterations maxCalls).start x =
    problem.start x := rfl

theorem run_withLimits {answer : Except (FitError α ε) (Ending α n)}
    (given : ¬problem.callLimit ≤ (problem.withLimits maxIterations maxCalls).callLimit →
      LineSearch.multipliers problem.config.minStep ≠ [])
    (enough : problem.config.maxIterations ≤ maxIterations)
    (ran : problem.run observer x origin = (answer, final))
    (unlimited : ∀ ending, answer = .ok ending → ¬ending.Limited)
    (covers : Covers problem.callLimit (problem.withLimits maxIterations maxCalls).callLimit
      answer fun ending => ending.state.calls) :
    (problem.withLimits maxIterations maxCalls).run observer x origin = (answer, final) := by
  unfold run at ran ⊢
  rw [start_withLimits]
  rcases started : problem.start x origin.objectiveMemory with
    ⟨cause | state | state, memory⟩
  · rw [Computation.bind_of_error (Run.evaluate_of_error started)] at ran
    rw [Computation.bind_of_error (Run.evaluate_of_error started)]
    exact ran
  · rw [Computation.bind_of_ok (Run.evaluate_of_ok started)] at ran
    rw [Computation.bind_of_ok (Run.evaluate_of_ok started)]
    exact search_withLimits given enough ran unlimited covers
  · rw [Computation.bind_of_ok (Run.evaluate_of_ok started)] at ran
    rw [Computation.bind_of_ok (Run.evaluate_of_ok started)]
    exact ran

theorem run_events_withLimits (enough : problem.config.maxIterations ≤ maxIterations)
    (wider : problem.callLimit ≤ (problem.withLimits maxIterations maxCalls).callLimit) :
    (problem.run observer x origin).2.events.toList <+:
      ((problem.withLimits maxIterations maxCalls).run observer x origin).2.events.toList := by
  unfold run
  rw [start_withLimits]
  rcases started : problem.start x origin.objectiveMemory with
    ⟨cause | state | state, memory⟩
  · rw [Computation.bind_of_error (Run.evaluate_of_error started),
      Computation.bind_of_error (Run.evaluate_of_error started)]
  · rw [Computation.bind_of_ok (Run.evaluate_of_ok started),
      Computation.bind_of_ok (Run.evaluate_of_ok started)]
    exact search_events_withLimits enough wider
  · rw [Computation.bind_of_ok (Run.evaluate_of_ok started),
      Computation.bind_of_ok (Run.evaluate_of_ok started)]

private theorem prepare_withLimits (objective : Objective α σ ε) (parameters : ParameterSet α)
    (config : Config α) (maxIterations : Nat) (maxCalls : Option Nat) :
    prepare objective parameters (config.withLimits maxIterations maxCalls) =
      (prepare objective parameters config).map (·.withLimits maxIterations maxCalls) := by
  unfold prepare
  repeat' split
  all_goals rfl

end Problem

section

variable {objective : Objective α σ ε} {parameters : ParameterSet α} {config : Config α}
  {observer : Observer α ω} {origin final : Session α σ ω}
  {maxIterations : Nat} {maxCalls : Option Nat}

theorem minimize_events {problem : Problem α σ ε parameters.size}
    (prepared : Problem.prepare objective parameters config = .ok problem) :
    (minimize objective parameters config observer origin).2.events =
      (problem.run observer parameters.values origin).2.events := by
  rw [minimize_of_prepare prepared, Computation.bind_apply]
  rcases problem.run observer parameters.values origin with ⟨cause | ending, last⟩
  · rfl
  · rfl

theorem minimize_withLimits {answer : Except (FitError α ε) (Minimum α parameters.size)}
    (given : ¬config.callLimit parameters.size ≤
        (config.withLimits maxIterations maxCalls).callLimit parameters.size →
      LineSearch.multipliers config.minStep ≠ [])
    (enough : config.maxIterations ≤ maxIterations)
    (minimized : minimize objective parameters config observer origin = (answer, final))
    (unlimited : ∀ minimum, answer = .ok minimum → minimum.status ≠ .reachedCallLimit)
    (covers : Covers (config.callLimit parameters.size)
      ((config.withLimits maxIterations maxCalls).callLimit parameters.size)
      answer fun minimum => minimum.calls) :
    minimize objective parameters (config.withLimits maxIterations maxCalls) observer origin =
      (answer, final) := by
  have again := Problem.prepare_withLimits objective parameters config maxIterations maxCalls
  rcases prepared : Problem.prepare objective parameters config with cause | problem
  · rw [prepared] at again
    unfold minimize at minimized ⊢
    rw [prepared] at minimized
    rw [again]
    exact minimized
  · rw [prepared] at again
    rcases (Problem.prepare_eq_ok prepared).1 with rfl
    rw [minimize_of_prepare prepared] at minimized
    rw [minimize_of_prepare again]
    rcases ran : problem.run observer parameters.values origin with ⟨cause | ending, last⟩
    · rw [Computation.bind_of_error ran] at minimized
      cases minimized
      exact Computation.bind_of_error
        (Problem.run_withLimits given enough ran nofun covers.of_error)
    · rw [Computation.bind_of_ok ran] at minimized
      cases minimized
      rw [Computation.bind_of_ok (Problem.run_withLimits given enough ran ?_
        (covers.of_ok (Nat.le_refl _)))]
      · rfl
      · intro _ equal
        cases equal
        exact unlimited _ rfl

theorem minimize_events_withLimits (enough : config.maxIterations ≤ maxIterations)
    (wider : config.callLimit parameters.size ≤
      (config.withLimits maxIterations maxCalls).callLimit parameters.size) :
    (minimize objective parameters config observer origin).2.events.toList <+:
      (minimize objective parameters (config.withLimits maxIterations maxCalls) observer
        origin).2.events.toList := by
  have again := Problem.prepare_withLimits objective parameters config maxIterations maxCalls
  rcases prepared : Problem.prepare objective parameters config with cause | problem
  · rw [prepared] at again
    unfold minimize
    rw [prepared, again]
    exact List.prefix_refl _
  · rw [prepared] at again
    rcases (Problem.prepare_eq_ok prepared).1 with rfl
    rw [minimize_events prepared, minimize_events again]
    exact Problem.run_events_withLimits enough wider

private theorem SameTurns.withLimits {pool : Pool} (same : SameTurns objective config n pool) :
    SameTurns objective (config.withLimits maxIterations maxCalls) n pool := by
  cases same with
  | inOrder sequential => exact .inOrder sequential
  | equal schedules => exact .equal schedules
  | steady answers => exact .steady answers

end

/-- Two fits that differ only in their limits, or in turns that do not matter. The events of
the one with lower limits are the first ones of the other, and it comes out the same unless a
limit stops it. A fit that no limit stops also comes out the same under any limit on
evaluations that leaves room for the calls it reports. -/
theorem limits_only_cut_short [Scalar.Halving α] (objective : Objective α σ ε)
    (parameters : ParameterSet α) (config : Config α) (observer : Observer α ω)
    (objectiveMemory : σ) (observerMemory : ω) (maxIterations : Nat) (maxCalls : Option Nat)
    {pool : Pool} (same : SameTurns objective config parameters.size pool)
    (enough : config.maxIterations ≤ maxIterations) :
    let limit := config.callLimit parameters.size
    let other := (config.withLimits maxIterations maxCalls).withPool pool
    let otherLimit := other.callLimit parameters.size
    let origin := Session.start objectiveMemory observerMemory
    let outcome := minimize objective parameters config observer origin
    let otherOutcome := minimize objective parameters other observer origin
    (limit ≤ otherLimit →
      outcome.2.events.toList <+: otherOutcome.2.events.toList ∧
      ((∀ minimum, outcome.1 = .ok minimum → minimum.status ≠ .reachedCallLimit) →
        otherOutcome = outcome)) ∧
    ∀ minimum, outcome.1 = .ok minimum →
      minimum.status ≠ .reachedCallLimit → min limit minimum.calls ≤ otherLimit →
        otherOutcome = outcome := by
  intro limit other otherLimit origin outcome otherOutcome
  have turned : otherOutcome = minimize objective parameters
      (config.withLimits maxIterations maxCalls) observer origin :=
    congrFun (minimize_withPool same.withLimits observer) origin
  rw [turned]
  refine ⟨fun wider => ⟨minimize_events_withLimits enough wider, fun unlimited => ?_⟩, ?_⟩
  · exact minimize_withLimits (absurd wider) enough rfl unlimited (.inl wider)
  · intro minimum answered unlimited room
    refine minimize_withLimits (fun _ => config.multipliers_ne_nil) enough rfl ?_ ?_
    · intro other otherAnswered
      cases answered.symm.trans otherAnswered
      exact unlimited
    · have either : limit ≤ otherLimit ∨ minimum.calls ≤ otherLimit := by omega
      exact either.imp_right fun reported => ⟨minimum, answered, reported⟩

def flatCost : Objective Float Unit Empty := Expression.objective (.constant 0) 1

def oneParameter : ParameterSet Float where
  entries := [{
    name := "a"
    value := 1
    step := 0.5
    bounds := Bounds.unlimited
    value_finite := by decide +kernel
    step_finite := by decide +kernel
    step_positive := by decide +kernel
    bounds_ordered := rfl
    value_within := rfl }]
  distinct := by decide

def parallelConfig : Config Float := { Config.default with parallel := true }

/-- The flat cost is fitted in eight evaluations, so a limit of eight is enough, whatever the
threads do. -/
theorem flatCost_needs_eight_calls :
    let origin := Session.start () ()
    let config := (parallelConfig.withLimits 1000 (some 8)).withPool (Pool.startingWith 0)
    let outcome := minimize flatCost oneParameter parallelConfig Observer.silent origin
    (outcome.1.toOption.map fun minimum => (minimum.status, minimum.calls)) =
        some (.converged, 8) ∧
      minimize flatCost oneParameter config Observer.silent origin = outcome := by
  intro origin config outcome
  have reported : (outcome.1.toOption.map fun minimum => (minimum.status, minimum.calls)) =
      some (.converged, 8) := by decide +kernel
  rcases Computation.ok_of_toOption_map reported with ⟨minimum, answered, told⟩
  rcases Prod.mk.inj told with ⟨status, calls⟩
  have same : SameTurns flatCost parallelConfig oneParameter.size (Pool.startingWith 0) :=
    .steady fun _ _ => rfl
  refine ⟨reported, (limits_only_cut_short flatCost oneParameter parallelConfig Observer.silent
    () () 1000 (some 8) same (Nat.le_refl 1000)).2 minimum answered ?_ ?_⟩
  · rw [status]
    decide
  · rw [calls]
    decide

def twoParameters : ParameterSet Float where
  entries := ["a", "b"].map fun name => {
    name := name
    value := 0
    step := 0.5
    bounds := Bounds.unlimited
    value_finite := by decide +kernel
    step_finite := by decide +kernel
    step_positive := by decide +kernel
    bounds_ordered := rfl
    value_within := rfl }
  distinct := by decide

/-- Where turns matter, a fit that no limit has stopped may come out differently under the same
limits. The split cost has no gradient, or it is refused. -/
theorem splitCost_not_repeated :
    let origin := Session.start () ()
    let config := parallelConfig.withPool (Pool.startingWith 1)
    let other := (config.withLimits config.maxIterations config.maxCalls).withPool
      (Pool.startingWith 0)
    let outcome := minimize splitCost twoParameters config Observer.silent origin
    let otherOutcome := minimize splitCost twoParameters other Observer.silent origin
    (∃ minimum, outcome.1 = .ok minimum ∧ minimum.status = .numericalFailure) ∧
      otherOutcome.1.toOption = none ∧ otherOutcome ≠ outcome := by
  intro origin config other outcome otherOutcome
  have reported : outcome.1.toOption.map (·.status) = some .numericalFailure := by
    decide +kernel
  have refused : otherOutcome.1.toOption.map (·.status) = none := by decide +kernel
  rcases Computation.ok_of_toOption_map reported with ⟨minimum, answered, status⟩
  refine ⟨⟨minimum, answered, status⟩, Option.map_eq_none_iff.mp refused, fun same => ?_⟩
  rw [same, answered] at refused
  cases refused

end CurveFitting
