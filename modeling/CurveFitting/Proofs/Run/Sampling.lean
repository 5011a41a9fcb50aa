import CurveFitting.Proofs.Run.Jobs

/-! # Computations that sample probes

A computation that evaluates an objective at probes in turn ends with the first fault, or
with a result of all their values. Whether and how it has ended tells what the probes have
been answered.
-/

namespace CurveFitting.Differences

open Probe CurveFitting.Computation

variable {α σ ε β γ : Type} {n : Nat} [Scalar α] (objective : Objective α σ ε)
  (x h : Vector α n)

section

variable {objective} {x h} {i : Fin n} {point : Vector α n} {memory after : σ}

private theorem sample_of_error {cause : ε}
    (evaluates : objective.evaluate point.toList memory = (.error cause, after)) :
    sample objective i point memory = (.error (.objective cause), after) := by
  rw [sample, bind_apply, adapt_apply, evaluates]
  rfl

private theorem sample_of_ok {value : α}
    (evaluates : objective.evaluate point.toList memory = (.ok value, after)) :
    sample objective i point memory =
      if Scalar.isFinite value then (.ok value, after)
      else (.error (.nonFinite i value), after) := by
  rw [sample, bind_apply, adapt_apply, evaluates]
  exact if_apply _ _ after

theorem sample_memory (objective : Objective α σ ε) (i : Fin n) (point : Vector α n) (memory : σ) :
    (sample objective i point memory).2 = (objective.evaluate point.toList memory).2 := by
  rcases evaluates : objective.evaluate point.toList memory with ⟨cause | value, after⟩
  · rw [sample_of_error evaluates]
  · rw [sample_of_ok evaluates]
    split <;> rfl

theorem sample_eq_ok {value : α} (sampled : sample objective i point memory = (.ok value, after)) :
    objective.evaluate point.toList memory = (.ok value, after) ∧
      Scalar.isFinite value = true := by
  rcases evaluates : objective.evaluate point.toList memory with ⟨cause | given, middle⟩
  · cases (sample_of_error evaluates).symm.trans sampled
  · rw [sample_of_ok evaluates] at sampled
    split at sampled
    · rename_i finite
      cases sampled
      exact ⟨rfl, finite⟩
    · cases sampled

theorem sample_eq_error {probe : Probe n} {fault : DifferenceError α ε}
    (failed : sample objective probe.index (probe.point x h) memory = (.error fault, after)) :
    ∃ answer, objective.evaluate (probe.point x h).toList memory = (answer, after) ∧
      probe.fault? answer = some fault := by
  rcases evaluates : objective.evaluate (probe.point x h).toList memory with ⟨cause | given, middle⟩
  · cases (sample_of_error evaluates).symm.trans failed
    exact ⟨_, rfl, rfl⟩
  · rw [sample_of_ok evaluates] at failed
    split at failed
    · cases failed
    · rename_i infinite
      cases failed
      exact ⟨_, rfl, if_neg infinite⟩

theorem sample_of_fault {probe : Probe n} {answer : Except ε α} {fault : DifferenceError α ε}
    (evaluates : objective.evaluate (probe.point x h).toList memory = (answer, after))
    (faulty : probe.fault? answer = some fault) :
    sample objective probe.index (probe.point x h) memory = (.error fault, after) := by
  cases answer with
  | error cause =>
      cases faulty
      exact sample_of_error evaluates
  | ok value =>
      rw [sample_of_ok evaluates]
      rw [fault?] at faulty
      split at faulty
      · cases faulty
      · rename_i infinite
        cases faulty
        rw [if_neg infinite]

theorem sample_ensures_eq {holds : σ → Prop} {value : α} (finite : Scalar.isFinite value = true)
    (answers : ∀ {memory}, holds memory → ∃ after,
      objective.evaluate point.toList memory = (.ok value, after) ∧ holds after) :
    Computation.Ensures holds (fun _ => False) (· = value) (sample objective i point) where
  memory begun := by
    rcases answers begun with ⟨after, evaluates, kept⟩
    rwa [sample_memory, evaluates]
  answers begun sampled := by
    rcases answers begun with ⟨after, evaluates, -⟩
    cases (sample_eq_ok sampled).1.symm.trans evaluates
    rfl
  errors begun failed := by
    rcases answers begun with ⟨after, evaluates, -⟩
    rw [sample_of_ok evaluates, if_pos finite] at failed
    cases failed

end

def HasFault (probes : List (Probe n)) (fault : DifferenceError α ε) : Prop :=
  ∃ probe ∈ probes, ∃ memory after answer,
    objective.evaluate (probe.point x h).toList memory = (answer, after) ∧
      probe.fault? answer = some fault

theorem sample_ensures {objective : Objective α σ ε} {x h : Vector α n} {probe : Probe n}
    {probes : List (Probe n)} (member : probe ∈ probes) :
    Computation.Ensures (fun _ => True) (HasFault objective x h probes)
      (fun value => objective.Answers (probe.point x h).toList value ∧
        Scalar.isFinite value = true)
      (sample objective probe.index (probe.point x h)) where
  memory := id
  answers _ sampled := by
    rcases sample_eq_ok sampled with ⟨evaluates, finite⟩
    exact ⟨⟨_, _, evaluates⟩, finite⟩
  errors _ failed := by
    rcases sample_eq_error failed with ⟨answer, evaluates, faulty⟩
    exact ⟨probe, member, _, _, answer, evaluates, faulty⟩

/-- A computation samples probes in turn. It ends with the first fault, if there is one, and
with a result of the values otherwise. -/
structure Samples (probes : List (Probe n))
    (computation : Evaluation σ (DifferenceError α ε) β) (result : (Probe n → α) → β) : Prop where
  fails : ∀ {memory after fault}, firstFault? objective x h probes memory = (some fault, after) →
    computation memory = (.error fault, after)
  passes : ∀ {memory after}, firstFault? objective x h probes memory = (none, after) →
    ∃ answer, computation memory = (.ok answer, after) ∧
      ∀ values, Answered objective x h values probes memory → answer = result values

namespace Samples

variable {objective x h} {probes others : List (Probe n)} {memory : σ}
  {computation : Evaluation σ (DifferenceError α ε) β} {result : (Probe n → α) → β}

private theorem pure (given : β) : Samples objective x h [] (pure given) fun _ => given where
  fails found := by cases found
  passes found := by
    cases found
    exact ⟨given, rfl, fun _ _ => rfl⟩

private theorem sample (probe : Probe n) :
    Samples objective x h [probe] (sample objective probe.index (probe.point x h))
      fun values => values probe where
  fails {memory _ _} found := by
    rcases evaluates : objective.evaluate (probe.point x h).toList memory with ⟨answer, middle⟩
    rw [firstFault?_cons evaluates] at found
    cases faulty : probe.fault? answer with
    | none =>
        rw [faulty] at found
        cases found
    | some fault =>
        rw [faulty] at found
        cases found
        exact sample_of_fault evaluates faulty
  passes {memory _} found := by
    rcases evaluates : objective.evaluate (probe.point x h).toList memory with
      ⟨cause | value, middle⟩
    · rw [firstFault?_cons evaluates] at found
      cases found
    · rw [firstFault?_cons evaluates] at found
      cases finite : Scalar.isFinite value with
      | true =>
          simp only [fault?, finite, if_true] at found
          cases found
          refine ⟨value, by rw [sample_of_ok evaluates, if_pos finite], fun values answered => ?_⟩
          have same := answered.1
          rw [evaluates] at same
          exact Except.ok.inj same
      | false =>
          simp only [fault?, finite, Bool.false_eq_true, if_false] at found
          cases found

private theorem bind {next : β → Evaluation σ (DifferenceError α ε) γ}
    {final : β → (Probe n → α) → γ} (first : Samples objective x h probes computation result)
    (second : ∀ given, Samples objective x h others (next given) (final given)) :
    Samples objective x h (probes ++ others) (computation >>= next)
      fun values => final (result values) values where
  fails {memory after fault} found := by
    rcases begun : firstFault? objective x h probes memory with ⟨_ | early, middle⟩
    · rcases first.passes begun with ⟨given, computed, -⟩
      rw [firstFault?_append_of_none begun] at found
      rw [bind_of_ok computed]
      exact (second given).fails found
    · rw [firstFault?_append_of_some begun] at found
      cases found
      exact bind_of_error (first.fails begun)
  passes {memory after} found := by
    rcases begun : firstFault? objective x h probes memory with ⟨_ | early, middle⟩
    · rcases first.passes begun with ⟨given, computed, told⟩
      rw [firstFault?_append_of_none begun] at found
      rcases (second given).passes found with ⟨answer, computedThen, toldThen⟩
      refine ⟨answer, (bind_of_ok computed).trans computedThen, fun values answered => ?_⟩
      rw [answered_append begun] at answered
      rw [toldThen values answered.2, told values answered.1]
    · rw [firstFault?_append_of_some begun] at found
      cases found

theorem of_eq {other : (Probe n → α) → β}
    (samples : Samples objective x h probes computation result)
    (same : ∀ values, result values = other values) :
    Samples objective x h probes computation other :=
  (funext same : result = other) ▸ samples

theorem map {next : β → γ} (first : Samples objective x h probes computation result) :
    Samples objective x h probes (computation >>= fun given => Pure.pure (next given))
      fun values => next (result values) := by
  have whole := first.bind fun given => pure (next given)
  rwa [List.append_nil] at whole

theorem ofFnM {count : Nat} {lists : Fin count → List (Probe n)}
    {entry : Fin count → Evaluation σ (DifferenceError α ε) β}
    {results : Fin count → (Probe n → α) → β}
    (samples : ∀ i, Samples objective x h (lists i) (entry i) (results i)) :
    Samples objective x h ((List.finRange count).flatMap lists) (Vector.ofFnM entry)
      fun values => Vector.ofFn fun i => results i values := by
  induction count with
  | zero =>
      rw [Vector.ofFnM_zero]
      exact (pure _).of_eq fun _ => Vector.eq_empty.symm
  | succ count induction =>
      rw [Vector.ofFnM_succ, List.finRange_succ_last, List.flatMap_append, List.flatMap_map,
        List.flatMap_singleton]
      refine ((induction fun i => samples i.castSucc).bind fun earlier =>
        (samples (Fin.last count)).map).of_eq fun values => ?_
      rw [Vector.ofFn_succ]
      rfl

theorem of_reads (objective : Objective α σ ε) {job : Job α n β}
    (reads : job.Reads x h probes result) :
    Samples objective x h probes (job.run objective) result := by
  induction reads with
  | done answer same => exact (pure answer).of_eq fun values => (same values).symm
  | asks later rest same induction =>
      exact ((sample _).bind induction).of_eq fun values => (same values).symm

theorem of_values (samples : Samples objective x h probes computation result)
    (values : Probe n → α) (faultless : ∀ place (within : place < probes.length),
      probes[place].fault? (answerTo objective x h probes memory place within) = none)
    (valued : ∀ place (within : place < probes.length),
      answerTo objective x h probes memory place within = .ok (values probes[place])) :
    computation memory =
      (.ok (result values), objective.memoryAfter (points x h probes) memory) := by
  rcases samples.passes (firstFault?_of_faultless faultless) with ⟨answer, computed, told⟩
  rw [computed, told values (answered_of_values valued)]

end Samples

/-! ## Probes in turn -/

variable {objective x h}

/-- A computation samples probes in turn. If all answers are finite values, it comes to a
result of these, after an evaluation at each probe. The first other answer makes it fail,
and it evaluates at no probe after. -/
structure SamplesInTurn (objective : Objective α σ ε) (x h : Vector α n) (memory : σ)
    (probes : List (Probe n)) (result : (Probe n → α) → β)
    (computation : {τ : Type} → Objective α τ ε → Evaluation τ (DifferenceError α ε) β) :
    Prop where
  finished : (∀ place (within : place < probes.length),
      probes[place].fault? (answerTo objective x h probes memory place within) = none) →
    ∃ values : Probe n → α,
      (∀ place (within : place < probes.length),
        answerTo objective x h probes memory place within = .ok (values probes[place])) ∧
      objective.Evaluates (points x h probes) memory computation (.ok (result values))
  failed : ∀ place (within : place < probes.length) fault,
    (∀ earlier (listed : earlier < probes.length), earlier < place →
      probes[earlier].fault? (answerTo objective x h probes memory earlier listed) = none) →
    probes[place].fault? (answerTo objective x h probes memory place within) = some fault →
    objective.Evaluates (points x h (probes.take (place + 1))) memory computation (.error fault)

theorem Samples.inTurn {probes : List (Probe n)} {result : (Probe n → α) → β}
    {computation : {τ : Type} → Objective α τ ε → Evaluation τ (DifferenceError α ε) β}
    (samples : ∀ {τ : Type} (objective : Objective α τ ε),
      Samples objective x h probes (computation objective) result)
    (distinct : probes.Nodup) (objective : Objective α σ ε) (memory : σ) :
    SamplesInTurn objective x h memory probes result computation where
  finished faultless := by
    rcases exists_values distinct faultless with ⟨values, valued⟩
    refine ⟨values, valued, .of_alike fun asked start same => ?_⟩
    simp only [answerTo, ← same] at faultless valued
    exact (samples asked).of_values values faultless valued
  failed place within fault faultless faulty := by
    refine .of_alike fun asked start same => ?_
    simp only [answerTo, ← same] at faultless faulty
    exact (samples asked).fails (firstFault?_of_fault within faultless faulty)

end CurveFitting.Differences
