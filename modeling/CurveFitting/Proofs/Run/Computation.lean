import CurveFitting.Minimizer.Search

/-! # Computations with a memory

Evaluations and runs alike carry a memory along and may end with an error that
leaves the memory behind. What such a computation comes to is read off from that
of its parts, and what it ensures follows from what they ensure.
-/

namespace CurveFitting

namespace Computation

variable {memory error value result : Type}

theorem ok_of_toOption_map {answer : Except error value} {field : value → result} {known : result}
    (reported : answer.toOption.map field = some known) :
    ∃ given, answer = .ok given ∧ field given = known := by
  cases answer with
  | error => cases reported
  | ok given => exact ⟨given, rfl, Option.some.inj reported⟩

theorem bind_apply (first : ExceptT error (StateM memory) value)
    (next : value → ExceptT error (StateM memory) result) (start : memory) :
    (first >>= next) start =
      match first start with
      | (.ok value, middle) => next value middle
      | (.error error, middle) => (.error error, middle) := by
  change ExceptT.bindCont next (first start).1 (first start).2 = _
  rcases first start with ⟨_ | _, _⟩ <;> rfl

@[simp] theorem pure_apply (given : value) (start : memory) :
    (pure given : ExceptT error (StateM memory) value) start = (.ok given, start) := rfl

theorem lift_bind_apply (first : StateM memory value)
    (next : value → ExceptT error (StateM memory) result) (start : memory) :
    ((liftM first : ExceptT error (StateM memory) value) >>= next) start =
      next (first start).1 (first start).2 := rfl

theorem bind_of_ok {first : ExceptT error (StateM memory) value}
    {next : value → ExceptT error (StateM memory) result} {start middle : memory}
    {given : value} (succeeds : first start = (.ok given, middle)) :
    (first >>= next) start = next given middle := by
  rw [bind_apply, succeeds]

theorem bind_of_error {first : ExceptT error (StateM memory) value}
    {next : value → ExceptT error (StateM memory) result} {start middle : memory}
    {cause : error} (fails : first start = (.error cause, middle)) :
    (first >>= next) start = (.error cause, middle) := by
  rw [bind_apply, fails]

theorem bind_congr {first other : ExceptT error (StateM memory) value}
    {next : value → ExceptT error (StateM memory) result} {start : memory}
    (same : other start = first start) : (other >>= next) start = (first >>= next) start := by
  rw [bind_apply, bind_apply, same]

theorem bind_eq_ok {first : ExceptT error (StateM memory) value}
    {next : value → ExceptT error (StateM memory) result} {start final : memory}
    {answer : result} (succeeds : (first >>= next) start = (.ok answer, final)) :
    ∃ given middle, first start = (.ok given, middle) ∧
      next given middle = (.ok answer, final) := by
  rw [bind_apply] at succeeds
  rcases equal : first start with ⟨cause | given, middle⟩
  · rw [equal] at succeeds
    cases succeeds
  · rw [equal] at succeeds
    exact ⟨given, middle, rfl, succeeds⟩

theorem bind_eq_error {first : ExceptT error (StateM memory) value}
    {next : value → ExceptT error (StateM memory) result} {start final : memory} {cause : error}
    (fails : (first >>= next) start = (.error cause, final)) :
    first start = (.error cause, final) ∨ ∃ given middle, first start = (.ok given, middle) ∧
      next given middle = (.error cause, final) := by
  rcases equal : first start with ⟨early | given, middle⟩
  · rw [bind_of_error equal] at fails
    cases fails
    exact .inl rfl
  · rw [bind_of_ok equal] at fails
    exact .inr ⟨given, middle, rfl, fails⟩

theorem adapt_apply {other : Type} (translate : error → other)
    (first : ExceptT error (StateM memory) value) (start : memory) :
    first.adapt translate start = ((first start).1.mapError translate, (first start).2) := rfl

theorem adapt_eq_error {other : Type} {translate : error → other} {cause : other}
    {first : ExceptT error (StateM memory) value} {start final : memory}
    (fails : first.adapt translate start = (.error cause, final)) :
    ∃ inner, translate inner = cause ∧ first start = (.error inner, final) := by
  rw [adapt_apply] at fails
  rcases equal : first start with ⟨inner | given, middle⟩
  · rw [equal] at fails
    cases fails
    exact ⟨inner, rfl, rfl⟩
  · rw [equal] at fails
    cases fails

theorem if_apply {condition : Prop} [Decidable condition]
    (first second : ExceptT error (StateM memory) value) (start : memory) :
    (if condition then first else second) start =
      if condition then first start else second start := by
  split <;> rfl

/-! ## What a computation ensures -/

/-- A computation keeps to an invariant of its memory, comes to right answers only, and only
certain errors end it. -/
structure Ensures (holds : memory → Prop) (allowed : error → Prop) (right : value → Prop)
    (computation : ExceptT error (StateM memory) value) : Prop where
  memory : ∀ {start}, holds start → holds (computation start).2
  answers : ∀ {start answer final}, holds start → computation start = (.ok answer, final) →
    right answer
  errors : ∀ {start cause final}, holds start → computation start = (.error cause, final) →
    allowed cause

namespace Ensures

variable {holds : memory → Prop} {allowed : error → Prop} {right : value → Prop}
  {computation : ExceptT error (StateM memory) value}

private theorem of_ok {start final : memory} {answer : value}
    (ensures : Ensures holds allowed right computation) (begun : holds start)
    (succeeds : computation start = (.ok answer, final)) : holds final := by
  have kept := ensures.memory begun
  rwa [succeeds] at kept

theorem succeeds {start : memory} (ensures : Ensures holds (fun _ => False) right computation)
    (begun : holds start) :
    ∃ answer final, computation start = (.ok answer, final) ∧ right answer ∧ holds final := by
  rcases ended : computation start with ⟨cause | answer, final⟩
  · exact (ensures.errors begun ended).elim
  · exact ⟨answer, final, rfl, ensures.answers begun ended, ensures.of_ok begun ended⟩

theorem mono {weaker : value → Prop} (ensures : Ensures holds allowed right computation)
    (implies : ∀ answer, right answer → weaker answer) :
    Ensures holds allowed weaker computation where
  memory := ensures.memory
  answers begun succeeds := implies _ (ensures.answers begun succeeds)
  errors := ensures.errors

theorem pure {given : value} (good : right given) :
    Ensures holds allowed right (pure given : ExceptT error (StateM memory) value) where
  memory := id
  answers _ succeeds := by
    cases succeeds
    exact good
  errors _ fails := by cases fails

theorem throw {cause : error} (permitted : allowed cause) :
    Ensures holds allowed right (throw cause : ExceptT error (StateM memory) value) where
  memory := id
  answers _ succeeds := by cases succeeds
  errors _ fails := by
    cases fails
    exact permitted

theorem bind {results : result → Prop} {next : value → ExceptT error (StateM memory) result}
    (first : Ensures holds allowed right computation)
    (second : ∀ given, right given → Ensures holds allowed results (next given)) :
    Ensures holds allowed results (computation >>= next) where
  memory {start} begun := by
    have kept := first.memory begun
    rw [bind_apply]
    rcases ended : computation start with ⟨cause | given, middle⟩
    · rwa [ended] at kept
    · rw [ended] at kept
      exact (second given (first.answers begun ended)).memory kept
  answers begun succeeds := by
    rcases bind_eq_ok succeeds with ⟨given, middle, ended, rest⟩
    exact (second given (first.answers begun ended)).answers (first.of_ok begun ended) rest
  errors begun fails := by
    rcases bind_eq_error fails with early | ⟨given, middle, ended, late⟩
    · exact first.errors begun early
    · exact (second given (first.answers begun ended)).errors (first.of_ok begun ended) late

theorem ite {condition : Prop} [Decidable condition]
    {other : ExceptT error (StateM memory) value} (yes : Ensures holds allowed right computation)
    (no : Ensures holds allowed right other) :
    Ensures holds allowed right (if condition then computation else other) := by
  split
  · exact yes
  · exact no

theorem ofFnM {n : Nat} {right : Fin n → value → Prop}
    {entry : Fin n → ExceptT error (StateM memory) value}
    (entries : ∀ i, Ensures holds allowed (right i) (entry i)) :
    Ensures holds allowed (fun answers => ∀ i, right i (answers.get i))
      (Vector.ofFnM entry) := by
  induction n with
  | zero =>
      rw [Vector.ofFnM_zero]
      exact pure fun i => i.elim0
  | succ n induction =>
      rw [Vector.ofFnM_succ]
      apply bind (induction fun i => entries i.castSucc)
      intro earlier before
      apply bind (entries (Fin.last n))
      intro last good
      refine pure fun i => ?_
      cases i using Fin.lastCases with
      | last =>
          have same : (earlier.push last).get (Fin.last n) = last := Vector.getElem_push_eq
          rwa [same]
      | cast i =>
          have same : (earlier.push last).get i.castSucc = earlier.get i :=
            Vector.getElem_push_lt i.isLt
          rw [same]
          exact before i

end Ensures

end Computation

namespace Run

variable {α σ ω ε β : Type}

@[simp] theorem note_apply (entry : Note α) (session : Session α σ ω) :
    (note entry : Run α σ ω ε Unit) session =
      (.ok (), { session with notes := session.notes.push entry }) := rfl

theorem evaluate_of_ok {evaluation : Evaluation σ ε β} {session : Session α σ ω}
    {answer : β} {memory : σ}
    (succeeds : evaluation session.objectiveMemory = (.ok answer, memory)) :
    (evaluate evaluation : Run α σ ω ε β) session =
      (.ok answer, { session with objectiveMemory := memory }) := by
  rw [evaluate, succeeds]
  rfl

theorem evaluate_of_error {evaluation : Evaluation σ ε β} {session : Session α σ ω}
    {cause : ε} {memory : σ}
    (fails : evaluation session.objectiveMemory = (.error cause, memory)) :
    (evaluate evaluation : Run α σ ω ε β) session =
      (.error (.objective cause), { session with objectiveMemory := memory }) := by
  rw [evaluate, fails]
  rfl

theorem evaluate_eq_ok {evaluation : Evaluation σ ε β} {session final : Session α σ ω}
    {answer : β}
    (succeeds : (evaluate evaluation : Run α σ ω ε β) session = (.ok answer, final)) :
    ∃ memory, evaluation session.objectiveMemory = (.ok answer, memory) ∧
      final = { session with objectiveMemory := memory } := by
  rcases equal : evaluation session.objectiveMemory with ⟨cause | given, memory⟩
  · cases (evaluate_of_error equal).symm.trans succeeds
  · cases (evaluate_of_ok equal).symm.trans succeeds
    exact ⟨memory, rfl, rfl⟩

end Run

end CurveFitting
