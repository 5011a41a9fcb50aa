import CurveFitting.Proofs.Run.Computation
import CurveFitting.Proofs.Run.Probes

/-! # Jobs in any order

A job asks for the values at its probes one after the other. What it ensures does not depend
on the turns that it takes among other jobs, as long as every single answer ensures it.
-/

namespace CurveFitting.Differences

open CurveFitting.Computation

variable {α σ ε β ι : Type} {n : Nat} [Scalar α]

/-! ## What a job reads -/

/-- A job asks for the values at probes in turn, and comes to a result of these. -/
inductive Job.Reads (x h : Vector α n) :
    List (Probe n) → ((Probe n → α) → β) → Job α n β → Prop
  | done {result} (answer : β) (same : ∀ values, result values = answer) :
      Reads x h [] result (.done answer)
  | asks {probe probes next result} (later : α → (Probe n → α) → β)
      (rest : ∀ value, Reads x h probes (later value) (next value))
      (same : ∀ values, result values = later (values probe) values) :
      Reads x h (probe :: probes) result (.asks probe.index (probe.point x h) next)

def Reading (right : Probe n → α → Prop) (probes : List (Probe n)) (result : (Probe n → α) → β)
    (answer : β) : Prop :=
  ∃ values, (∀ probe ∈ probes, right probe (values probe)) ∧ answer = result values

section

variable {x h : Vector α n} {probes : List (Probe n)} {result : (Probe n → α) → β}
  {job : Job α n β}

theorem Job.Reads.congr (reads : job.Reads x h probes result) {values others : Probe n → α}
    (agree : ∀ probe ∈ probes, values probe = others probe) : result values = result others := by
  induction reads with
  | done answer same => rw [same, same]
  | asks later rest same induction =>
      rw [same, same, agree _ List.mem_cons_self]
      exact induction _ fun probe member => agree probe (List.mem_cons_of_mem _ member)

end

/-! ## What a job ensures -/

section

variable (objective : Objective α σ ε) (holds : σ → Prop)
  (allowed : DifferenceError α ε → Prop)

/-- All that a job may be answered keeps to an invariant, and right answers lead it to a right
result. -/
def Job.Ensures (right : β → Prop) : Job α n β → Prop
  | .done answer => right answer
  | .asks i point next => ∃ given : α → Prop,
      Computation.Ensures holds allowed given (sample objective i point) ∧
        ∀ value, given value → (next value).Ensures right

def Progress.Ensures (right : β → Prop) : Progress α ε n β → Prop
  | .error cause => allowed cause
  | .ok job => job.Ensures objective holds allowed right

variable {objective holds allowed}

theorem Job.Ensures.mono {right weaker : β → Prop} {job : Job α n β}
    (ensures : job.Ensures objective holds allowed right)
    (implies : ∀ answer, right answer → weaker answer) :
    job.Ensures objective holds allowed weaker := by
  induction job with
  | done answer => exact implies answer ensures
  | asks i point next induction =>
      rcases ensures with ⟨given, sampled, later⟩
      exact ⟨given, sampled, fun value good => induction value (later value good)⟩

theorem Job.Reads.ensures {x h : Vector α n} {probes : List (Probe n)}
    {result : (Probe n → α) → β} {job : Job α n β} {right : Probe n → α → Prop}
    (reads : job.Reads x h probes result) (distinct : probes.Nodup)
    (samples : ∀ probe ∈ probes, Computation.Ensures holds allowed (right probe)
      (sample objective probe.index (probe.point x h))) :
    job.Ensures objective holds allowed (Reading right probes result) := by
  induction reads with
  | done answer same =>
      exact ⟨fun _ => 0, fun _ member => absurd member List.not_mem_nil, (same _).symm⟩
  | @asks probe probes next result later rest same induction =>
      rcases List.nodup_cons.mp distinct with ⟨fresh, distinct⟩
      refine ⟨right probe, samples probe List.mem_cons_self, fun value good => ?_⟩
      apply (induction value distinct fun other member =>
        samples other (List.mem_cons_of_mem _ member)).mono
      rintro answer ⟨values, rights, rfl⟩
      -- No later probe is this one, so its value can be put beside theirs.
      have kept (other : Probe n) (member : other ∈ probes) :
          Function.update values probe value other = values other :=
        Function.update_of_ne (ne_of_mem_of_not_mem member fresh) _ _
      refine ⟨Function.update values probe value, fun other member => ?_, ?_⟩
      · rcases List.mem_cons.mp member with rfl | later
        · rwa [Function.update_self]
        · rw [kept other later]
          exact rights other later
      · rw [same, Function.update_self]
        exact ((rest value).congr kept).symm

/-! ## Turns -/

theorem advance_asks (i : Fin n) (point : Vector α n) (next : α → Job α n β) (start : σ) :
    advance objective (.ok (.asks i point next)) start =
      (.ok ((sample objective i point start).1.map next),
        (sample objective i point start).2) := rfl

theorem Job.Ensures.run {right : β → Prop} {job : Job α n β}
    (ensures : job.Ensures objective holds allowed right) :
    Computation.Ensures holds allowed right (job.run objective) := by
  induction job with
  | done answer => exact .pure ensures
  | asks i point next induction =>
      rcases ensures with ⟨given, sampled, later⟩
      exact .bind sampled fun value good => induction value (later value good)

theorem Progress.Ensures.finish {right : β → Prop} {progress : Progress α ε n β}
    (ensures : Progress.Ensures objective holds allowed right progress) :
    Computation.Ensures holds allowed right (finish objective progress) := by
  cases progress with
  | error cause => exact .throw ensures
  | ok job => exact Job.Ensures.run ensures

private theorem Progress.Ensures.advance {right : β → Prop} {progress : Progress α ε n β}
    (ensures : Progress.Ensures objective holds allowed right progress) :
    Computation.Ensures holds allowed (Progress.Ensures objective holds allowed right)
      (advance objective progress) := by
  rcases progress with cause | answer | ⟨i, point, next⟩
  · exact .throw ensures
  · exact .pure ensures
  · rcases ensures with ⟨given, sampled, later⟩
    refine ⟨sampled.memory, ?_, fun _ ended => by cases ended⟩
    intro start moved final begun ended
    rw [advance_asks] at ended
    rcases asked : sample objective i point start with ⟨cause | value, middle⟩
    · rw [asked] at ended
      cases ended
      exact sampled.errors begun asked
    · rw [asked] at ended
      cases ended
      exact later value (sampled.answers begun asked)

/-- Whatever turns jobs take, each of them goes on to ensure what it did. -/
theorem takeTurns_ensures [DecidableEq ι] {right : ι → β → Prop} (turns : List ι)
    {jobs : ι → Progress α ε n β}
    (ensures : ∀ i, Progress.Ensures objective holds allowed (right i) (jobs i)) :
    Computation.Ensures holds allowed
      (fun jobs => ∀ i, Progress.Ensures objective holds allowed (right i) (jobs i))
      (takeTurns objective turns jobs) := by
  induction turns generalizing jobs with
  | nil => exact .pure ensures
  | cons turn turns induction =>
      apply Computation.Ensures.bind (ensures turn).advance
      intro moved ensured
      apply induction
      intro i
      by_cases taken : i = turn
      · subst taken
        rwa [if_pos rfl]
      · rw [if_neg taken]
        exact ensures i

end

end CurveFitting.Differences
