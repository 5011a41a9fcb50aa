import CurveFitting.Proofs.Run.Evaluations

/-! # Fits of two objectives

A fit is compared, move by move, with the fit of a second objective, its copy, which
answers as the first one does as long as it answers at all. The objectives may have
different memories and different errors. The fits go along together until the copy is
refused an answer. Then it ends, and the first fit goes on alone.

What the copy can still tell of is settled by the number of evaluations made. Up to that
number both fits tell the same events.
-/

namespace CurveFitting

variable {α σ τ ω ε κ : Type}

/-- How the memory of a computation compares with that of its copy, while they go along
together and after the copy has been refused. -/
structure Pairing (σ τ : Type) where
  together : σ → τ → Prop
  apart : σ → τ → Prop

def Pairing.Lossless (pairing : Pairing σ τ) : Prop :=
  ∀ memory copied, ¬pairing.apart memory copied

/-- What the errors of a copy stand for, and which of them are refusals. -/
structure Translation (κ ε : Type) where
  apply : κ → ε
  refusal : κ → Prop

inductive Pairing.Ends {value : Type} (pairing : Pairing σ τ) (translation : Translation κ ε) :
    Except ε value × σ → Except κ value × τ → Prop where
  | same (answer : Except κ value) {after : σ} {copied : τ} :
      pairing.together after copied →
      Ends pairing translation (answer.mapError translation.apply, after) (answer, copied)
  | refused {answer : Except ε value} {cause : κ} {after : σ} {copied : τ} :
      translation.refusal cause → pairing.apart after copied →
      Ends pairing translation (answer, after) (.error cause, copied)

theorem Pairing.Ends.same_errors {value : Type} {pairing : Pairing σ τ} {refusal : ε → Prop}
    {after : σ} {copied : τ} (answer : Except ε value) (together : pairing.together after copied) :
    pairing.Ends ⟨id, refusal⟩ (answer, after) (answer, copied) := by
  have ends : pairing.Ends ⟨id, refusal⟩ (answer.mapError id, after) (answer, copied) :=
    .same answer together
  cases answer <;> exact ends

/-- The computation `full`, from `start`, with a copy that goes along until it is refused. -/
structure Follows {value : Type} (pairing : Pairing σ τ) (translation : Translation κ ε)
    (full : Evaluation σ ε value) (copy : Evaluation τ κ value) (start : σ) : Prop where
  along : ∀ {copied}, pairing.together start copied →
    pairing.Ends translation (full start) (copy copied)
  alone : ∀ {copied}, pairing.apart start copied → pairing.apart (full start).2 copied

namespace Follows

open CurveFitting.Computation

variable {value result : Type} {pairing : Pairing σ τ} {translation : Translation κ ε}
  {full : Evaluation σ ε value} {copy : Evaluation τ κ value} {start : σ}

theorem pure (given : value) :
    Follows pairing translation (pure given : Evaluation σ ε value)
      (pure given : Evaluation τ κ value) start where
  along together := .same (.ok given) together
  alone apart := apart

theorem throw (cause : κ) :
    Follows pairing translation (throw (translation.apply cause) : Evaluation σ ε value)
      (throw cause : Evaluation τ κ value) start where
  along together := .same (.error cause) together
  alone apart := apart

theorem bind {fullNext : value → Evaluation σ ε result} {copyNext : value → Evaluation τ κ result}
    (first : Follows pairing translation full copy start)
    (second : ∀ given middle, full start = (.ok given, middle) →
      Follows pairing translation (fullNext given) (copyNext given) middle) :
    Follows pairing translation (full >>= fullNext) (copy >>= copyNext) start where
  along {copied} together := by
    have ends := first.along together
    rw [bind_apply, bind_apply]
    rcases begun : full start with ⟨answer, middle⟩
    rcases copyBegun : copy copied with ⟨copyAnswer, copyMiddle⟩
    rw [begun, copyBegun] at ends
    cases ends with
    | same _ together =>
        cases copyAnswer with
        | error cause => exact .same (.error cause) together
        | ok given => exact (second given middle begun).along together
    | refused refusal apart =>
        -- The copy has ended, whatever the first computation goes on to do.
        refine .refused refusal ?_
        cases answer with
        | error => exact apart
        | ok given => exact (second given middle begun).alone apart
  alone apart := by
    have later := first.alone apart
    rw [bind_apply]
    rcases begun : full start with ⟨cause | given, middle⟩
    · rwa [begun] at later
    · rw [begun] at later
      exact (second given middle begun).alone later

theorem ite {condition : Prop} [Decidable condition] {otherFull : Evaluation σ ε value}
    {otherCopy : Evaluation τ κ value}
    (holds : condition → Follows pairing translation full copy start)
    (fails : ¬condition → Follows pairing translation otherFull otherCopy start) :
    Follows pairing translation (if condition then full else otherFull)
      (if condition then copy else otherCopy) start := by
  by_cases true : condition
  · rw [if_pos true, if_pos true]
    exact holds true
  · rw [if_neg true, if_neg true]
    exact fails true

private theorem ofFnM {n : Nat} {full : Fin n → Evaluation σ ε value}
    {copy : Fin n → Evaluation τ κ value}
    (entries : ∀ i start, Follows pairing translation (full i) (copy i) start) (start : σ) :
    Follows pairing translation (Vector.ofFnM full) (Vector.ofFnM copy) start := by
  induction n generalizing start with
  | zero =>
      rw [Vector.ofFnM_zero, Vector.ofFnM_zero]
      exact pure _
  | succ n induction =>
      rw [Vector.ofFnM_succ, Vector.ofFnM_succ]
      apply bind (induction (fun i => entries i.castSucc) start)
      intro earlier middle _
      apply bind (entries (Fin.last n) middle)
      intro value after _
      exact pure _

private theorem translated {otherError otherCopyError : Type}
    {otherTranslation : Translation otherCopyError otherError}
    {otherFull : Evaluation σ otherError result} {otherCopy : Evaluation τ otherCopyError result}
    (make : Except ε value → Except otherError result)
    (makeCopy : Except κ value → Except otherCopyError result)
    (commutes : ∀ answer, make (answer.mapError translation.apply) =
      (makeCopy answer).mapError otherTranslation.apply)
    (refuses : ∀ cause, translation.refusal cause →
      ∃ other, makeCopy (.error cause) = .error other ∧ otherTranslation.refusal other)
    (fullEqual : otherFull start = (make (full start).1, (full start).2))
    (copyEqual : ∀ copied, otherCopy copied = (makeCopy (copy copied).1, (copy copied).2))
    (follows : Follows pairing translation full copy start) :
    Follows pairing otherTranslation otherFull otherCopy start where
  along {copied} together := by
    have ends := follows.along together
    rw [fullEqual, copyEqual]
    generalize full start = ending at ends
    generalize copy copied = copyEnding at ends
    cases ends with
    | same _ together =>
        rw [commutes]
        exact .same _ together
    | refused refusal apart =>
        rcases refuses _ refusal with ⟨other, made, refusal⟩
        rw [made]
        exact .refused refusal apart
  alone apart := by
    rw [fullEqual]
    exact follows.alone apart

end Follows

/-- The second objective answers as the first one does until it is refused. The number of
evaluations that the first one has made tells whether the copy goes along. -/
structure Objective.FollowedBy (full : Objective α σ ε) (copy : Objective α τ κ)
    (pairing : Pairing σ τ) (translation : Translation κ ε) (count : σ → Nat)
    (heard : Nat → Bool) : Prop where
  counted : full.CountedBy count
  evaluate : ∀ point memory,
    Follows pairing translation (full.evaluate point) (copy.evaluate point) memory
  hears : ∀ {memory copied}, pairing.together memory copied → heard (count memory) = true
  misses : ∀ {memory copied}, pairing.apart memory copied → heard (count memory) = false
  validate : ∀ number, full.validate number = (copy.validate number).mapError translation.apply
  errorDefinition : copy.errorDefinition = full.errorDefinition

/-! ## Derivatives -/

def DifferenceError.mapCause (translate : κ → ε) : DifferenceError α κ → DifferenceError α ε
  | .objective cause => .objective (translate cause)
  | .nonFinite index value => .nonFinite index value

def Translation.differences (translation : Translation κ ε) :
    Translation (DifferenceError α κ) (DifferenceError α ε) where
  apply := DifferenceError.mapCause translation.apply
  refusal error := ∃ cause, error = .objective cause ∧ translation.refusal cause

namespace Follows

open CurveFitting.Computation

variable {value : Type} {pairing : Pairing σ τ} {translation : Translation κ ε} {start : σ}

private theorem adapt {full : Evaluation σ ε value} {copy : Evaluation τ κ value}
    (follows : Follows pairing translation full copy start) :
    Follows pairing (translation.differences (α := α)) (full.adapt .objective)
      (copy.adapt .objective) start := by
  apply follows.translated (Except.mapError .objective) (Except.mapError .objective)
  · intro answer
    cases answer <;> rfl
  · exact fun cause refusal => ⟨.objective cause, rfl, cause, rfl, refusal⟩
  · exact adapt_apply ..
  · exact fun _ => adapt_apply ..

private theorem finiteOnly {full : Evaluation σ (DifferenceError α ε) value}
    {copy : Evaluation τ (DifferenceError α κ) value}
    (follows : Follows pairing translation.differences full copy start) :
    Follows pairing translation (Differences.finiteOnly full) (Differences.finiteOnly copy)
      start := by
  apply follows.translated Differences.finite Differences.finite
  · intro answer
    rcases answer with (cause | ⟨index, value⟩) | found <;> rfl
  · rintro _ ⟨cause, rfl, refusal⟩
    exact ⟨cause, rfl, refusal⟩
  · exact Differences.finiteOnly_apply ..
  · exact fun _ => Differences.finiteOnly_apply ..

end Follows

namespace Objective.FollowedBy

open Differences

variable [Scalar α] {n : Nat} {full : Objective α σ ε} {copy : Objective α τ κ}
  {pairing : Pairing σ τ} {translation : Translation κ ε} {count : σ → Nat} {heard : Nat → Bool}
  (followed : full.FollowedBy copy pairing translation count heard)

include followed

private theorem sample (i : Fin n) (point : Vector α n) (memory : σ) :
    Follows pairing translation.differences (sample full i point) (sample copy i point)
      memory := by
  apply Follows.bind (followed.evaluate _ memory).adapt
  intro value middle _
  apply Follows.ite
  · exact fun _ => .pure value
  · exact fun _ => .throw (DifferenceError.nonFinite i value)

variable {β result ι : Type}

private theorem job (job : Job α n β) (memory : σ) :
    Follows pairing translation.differences (job.run full) (job.run copy) memory := by
  induction job generalizing memory with
  | done answer => exact .pure answer
  | asks i point next induction =>
      apply Follows.bind (followed.sample i point memory)
      intro value middle _
      exact induction value middle

private theorem finish (progress : Progress α κ n β) (memory : σ) :
    Follows pairing translation.differences
      (finish full (progress.mapError translation.differences.apply)) (finish copy progress)
      memory := by
  cases progress with
  | error cause => exact .throw cause
  | ok job => exact followed.job job memory

/-- Jobs that take turns are followed by those of the copy if it is never refused. Otherwise the
copy may report an error that it has met before its refusal. -/
theorem takeTurns [DecidableEq ι] {turns : List ι} (orderly : turns = [] ∨ pairing.Lossless)
    {fullNext : (ι → Progress α ε n β) → Evaluation σ (DifferenceError α ε) result}
    {copyNext : (ι → Progress α κ n β) → Evaluation τ (DifferenceError α κ) result}
    (rest : ∀ jobs memory, Follows pairing translation.differences
      (fullNext fun i => (jobs i).mapError translation.differences.apply) (copyNext jobs) memory)
    (jobs : ι → Progress α κ n β) (memory : σ) :
    Follows pairing translation.differences
      (takeTurns full turns (fun i => (jobs i).mapError translation.differences.apply) >>= fullNext)
      (takeTurns copy turns jobs >>= copyNext) memory := by
  induction turns generalizing jobs memory with
  | nil => exact rest jobs memory
  | cons turn turns induction =>
      have lossless := orderly.resolve_left (List.cons_ne_nil _ _)
      have moving (moved : Progress α κ n β) :
          (fun i => if i = turn then moved.mapError translation.differences.apply
            else (jobs i).mapError translation.differences.apply) =
          fun i => (if i = turn then moved else jobs i).mapError translation.differences.apply := by
        funext i
        split <;> rfl
      have later (moved : Progress α κ n β) :=
        induction (.inr lossless) fun i => if i = turn then moved else jobs i
      simp only [← moving] at later
      rw [Differences.takeTurns, Differences.takeTurns, bind_assoc, bind_assoc]
      -- Only a turn that samples looks at the memories, and a lossless copy answers it alike.
      rcases jobs turn with cause | answer | ⟨i, point, next⟩
      · exact .throw cause
      · exact later (.ok (.done answer)) memory
      · refine ⟨fun {copied} together => ?_, fun apart => absurd apart (lossless _ _)⟩
        have ends := (followed.sample i point memory).along together
        rcases asked : Differences.sample full i point memory with ⟨answer, middle⟩
        rcases copyAsked : Differences.sample copy i point copied with ⟨copyAnswer, copyMiddle⟩
        rw [asked, copyAsked] at ends
        have advanced : advance full (.ok (.asks i point next)) memory =
            (.ok (answer.map next), middle) := by
          rw [advance_asks, asked]
        have copyAdvanced : advance copy (.ok (.asks i point next)) copied =
            (.ok (copyAnswer.map next), copyMiddle) := by
          rw [advance_asks, copyAsked]
        rw [Except.mapError, Computation.bind_of_ok advanced, Computation.bind_of_ok copyAdvanced]
        cases ends with
        | refused _ apart => exact absurd apart (lossless _ _)
        | same _ together =>
            have mapped : (copyAnswer.mapError translation.differences.apply).map next =
                (copyAnswer.map next).mapError translation.differences.apply := by
              cases copyAnswer <;> rfl
            rw [mapped]
            exact (later (copyAnswer.map next) middle).along together

private theorem gradient (differences : Differences α n)
    (orderly : differences.parallel = false ∨ pairing.Lossless) (x : Vector α n) (cost : α)
    (memory : σ) :
    Follows pairing translation.differences (differences.gradient full x cost)
      (differences.gradient copy x cost) memory := by
  let jobs (i : Fin n) : Progress α κ n (α × α) := .ok (pair x (differences.perturbations x) i)
  refine followed.takeTurns (orderly.imp_left fun off => if_neg (ne_true_of_eq_false off)) ?_
    jobs memory
  intro jobs middle
  apply Follows.bind (Follows.ofFnM (fun i => followed.finish (jobs i)) middle)
  intro pairs after _
  exact .pure _

private theorem hessian (differences : Differences α n)
    (orderly : differences.parallel = false ∨ pairing.Lossless) (x : Vector α n) (cost : α)
    (memory : σ) :
    Follows pairing translation.differences (differences.hessian full x cost)
      (differences.hessian copy x cost) memory := by
  let h := differences.perturbations x
  let jobs (place : Fin n × Fin n) : Progress α κ n α :=
    .ok (if place.1 ≤ place.2 then entry x cost h place.1 place.2 else .done 0)
  refine followed.takeTurns (orderly.imp_left fun off => if_neg (ne_true_of_eq_false off)) ?_
    jobs memory
  intro jobs middle
  apply Follows.bind
  · apply Follows.ofFnM
    intro i
    exact Follows.ofFnM fun j => followed.finish (jobs (i, j))
  · intro upper after _
    exact .pure _

end Objective.FollowedBy

/-! ## Moves -/

variable [Scalar α] {n : Nat}

def Problem.facing (problem : Problem α σ ε n) (objective : Objective α τ κ) :
    Problem α τ κ n where
  objective := objective
  config := problem.config
  names := problem.names
  steps := problem.steps
  errorDefinition := problem.errorDefinition

namespace LineSearch

def trying (objective : Objective α σ ε) (ray : Ray α n) (armijo : α) (callLimit : Nat)
    (steps : List α) (calls : Nat) : Evaluation σ ε (Nat × Outcome α n) := fun memory =>
  let (found, after) := tryEach objective ray armijo callLimit steps calls memory
  (found.outcome.map fun outcome => (found.calls, outcome), after)

theorem trying_of_full {objective : Objective α σ ε} {ray : Ray α n} {armijo : α}
    {callLimit : Nat} {step : α} {steps : List α} {calls : Nat} (full : callLimit ≤ calls) :
    trying objective ray armijo callLimit (step :: steps) calls = pure (calls, .outOfCalls) := by
  funext memory
  rw [trying, tryEach, if_pos full]
  rfl

theorem trying_of_room {objective : Objective α σ ε} {ray : Ray α n} {armijo : α}
    {callLimit : Nat} {step : α} {steps : List α} {calls : Nat} (room : calls < callLimit) :
    trying objective ray armijo callLimit (step :: steps) calls =
      objective.evaluate (ray.point step).toList >>= fun value =>
        if ray.accepts armijo step value then
          pure (calls + 1, .accepted ⟨step, ray.point step, value⟩)
        else trying objective ray armijo callLimit steps (calls + 1) := by
  funext memory
  rw [trying]
  rcases evaluates : objective.evaluate (ray.point step).toList memory with
    ⟨cause | value, middle⟩
  · rw [tryEach_of_error room evaluates, Computation.bind_of_error evaluates]
    rfl
  · rw [tryEach_of_ok room evaluates, Computation.bind_of_ok evaluates]
    cases ray.accepts armijo step value <;> rfl

end LineSearch

def State.descent (state : State α n) (found : Nat × LineSearch.Outcome α n) : Descent α n :=
  .ofOutcome { state with calls := found.1 } found.2

theorem Problem.lineSearch_eq_trying (problem : Problem α σ ε n) (state : State α n) :
    problem.lineSearch state =
      LineSearch.trying problem.objective state.ray problem.config.armijo problem.callLimit
        (LineSearch.multipliers problem.config.minStep) state.calls >>= fun found =>
          pure (state.descent found) := by
  funext memory
  unfold lineSearch LineSearch.trying
  rw [Computation.lift_bind_apply, Computation.bind_apply, LineSearch.backtrack]
  rcases LineSearch.tryEach problem.objective state.ray problem.config.armijo problem.callLimit
    (LineSearch.multipliers problem.config.minStep) state.calls memory with
    ⟨⟨calls, cause | trial | _ | _⟩, after⟩ <;> rfl

namespace Objective.FollowedBy

variable {problem : Problem α σ ε n} {copy : Objective α τ κ} {pairing : Pairing σ τ}
  {translation : Translation κ ε} {count : σ → Nat} {heard : Nat → Bool}
  (followed : problem.objective.FollowedBy copy pairing translation count heard)

include followed

private theorem gradient? (orderly : problem.config.parallel = false ∨ pairing.Lossless)
    (calls : Nat) (x : Vector α n) (cost : α) (memory : σ) :
    Follows pairing translation (problem.gradient? calls x cost)
      ((problem.facing copy).gradient? calls x cost) memory :=
  (followed.gradient (problem.differencesAfter calls) orderly x cost memory).finiteOnly

private theorem hessian? (orderly : problem.config.parallel = false ∨ pairing.Lossless)
    (calls : Nat) (x : Vector α n) (cost : α) (memory : σ) :
    Follows pairing translation (problem.hessian? calls x cost)
      ((problem.facing copy).hessian? calls x cost) memory :=
  (followed.hessian (problem.differencesAfter calls) orderly x cost memory).finiteOnly

private theorem trying (ray : Ray α n) (armijo : α) (callLimit : Nat) (steps : List α) (calls : Nat)
    (memory : σ) :
    Follows pairing translation
      (LineSearch.trying problem.objective ray armijo callLimit steps calls)
      (LineSearch.trying copy ray armijo callLimit steps calls) memory := by
  induction steps generalizing calls memory with
  | nil => exact .pure (calls, LineSearch.Outcome.stalled)
  | cons step steps induction =>
      by_cases full : callLimit ≤ calls
      · rw [LineSearch.trying_of_full full, LineSearch.trying_of_full full]
        exact .pure _
      · have room := Nat.lt_of_not_le full
        rw [LineSearch.trying_of_room room, LineSearch.trying_of_room room]
        apply Follows.bind (followed.evaluate _ memory)
        intro value middle _
        apply Follows.ite
        · exact fun _ => .pure _
        · exact fun _ => induction (calls + 1) middle

private theorem lineSearch (state : State α n) (memory : σ) :
    Follows pairing translation (problem.lineSearch state)
      ((problem.facing copy).lineSearch state) memory := by
  rw [Problem.lineSearch_eq_trying, Problem.lineSearch_eq_trying]
  apply Follows.bind (followed.trying ..)
  intro found middle _
  exact .pure _

private theorem descend (state : State α n) (memory : σ) :
    Follows pairing translation (problem.descend state) ((problem.facing copy).descend state)
      memory := by
  apply Follows.ite
  · exact fun _ => followed.lineSearch (problem.reset state) memory
  · intro _
    apply Follows.bind (followed.lineSearch state memory)
    intro descent middle _
    cases descent with
    | accepted => exact .pure _
    | stalled searched =>
        apply Follows.ite
        · exact fun _ => .pure _
        · exact fun _ => followed.lineSearch (problem.reset searched) middle
    | outOfCalls => exact .pure _

theorem iterate (orderly : problem.config.parallel = false ∨ pairing.Lossless)
    (state : State α n) (memory : σ) :
    Follows pairing translation (problem.iterate state) ((problem.facing copy).iterate state)
      memory := by
  apply Follows.bind (followed.descend state memory)
  intro descent middle _
  cases descent with
  | stalled => exact .pure _
  | outOfCalls => exact .pure _
  | accepted trial searched =>
      apply Follows.bind (followed.gradient? orderly _ trial.x trial.cost middle)
      intro found after _
      cases found with
      | none => exact .pure _
      | some estimate => exact .pure _

theorem refine (orderly : problem.config.parallel = false ∨ pairing.Lossless)
    (state : State α n) (memory : σ) :
    Follows pairing translation (problem.refine state) ((problem.facing copy).refine state)
      memory := by
  apply Follows.bind (followed.hessian? orderly _ state.x state.cost memory)
  intro found middle _
  cases found with
  | none => exact .pure _
  | some estimate =>
      dsimp only
      cases InverseHessian.ofHessian estimate.hessian with
      | none => exact .pure _
      | some inverse => exact .pure _

theorem start (orderly : problem.config.parallel = false ∨ pairing.Lossless)
    (x : Vector α n) (memory : σ) :
    Follows pairing translation (problem.start x) ((problem.facing copy).start x) memory := by
  apply Follows.bind (followed.evaluate x.toList memory)
  intro cost middle _
  apply Follows.ite
  · intro _
    apply Follows.bind (followed.gradient? orderly _ x cost middle)
    intro found after _
    cases found <;> exact .pure _
  · exact fun _ => .pure _

end Objective.FollowedBy

end CurveFitting
