import CurveFitting.Objective

/-! # Evaluations in turn

What an objective answers at points that it is given one after the other. Its memory runs
through all of them, so that an answer may depend on the points before. A record of the
points tells which of them a computation has come to.
-/

namespace CurveFitting.Objective

variable {α σ ε : Type} (objective : Objective α σ ε)

def recorded : Objective α (List (List α) × σ) ε where
  evaluate point := fun (points, memory) =>
    let (answer, after) := objective.evaluate point memory
    (answer, points ++ [point], after)
  validate := objective.validate
  errorDefinition := objective.errorDefinition

/-- The objective gives a value at a point, with some memory. -/
def Answers (point : List α) (value : α) : Prop :=
  ∃ memory after, objective.evaluate point memory = (.ok value, after)

def memoryAfter (points : List (List α)) (memory : σ) : σ :=
  points.foldl (fun memory point => (objective.evaluate point memory).2) memory

def answerAfter (before : List (List α)) (memory : σ) (point : List α) : Except ε α :=
  (objective.evaluate point (objective.memoryAfter before memory)).1

variable (points others : List (List α)) (memory : σ) (point : List α)

private theorem memoryAfter_nil : objective.memoryAfter [] memory = memory := rfl

theorem memoryAfter_cons : objective.memoryAfter (point :: points) memory =
    objective.memoryAfter points (objective.evaluate point memory).2 := rfl

private theorem memoryAfter_append : objective.memoryAfter (points ++ others) memory =
    objective.memoryAfter others (objective.memoryAfter points memory) :=
  List.foldl_append

theorem evaluate_memoryAfter : objective.evaluate point (objective.memoryAfter points memory) =
    (objective.answerAfter points memory point,
      objective.memoryAfter (points ++ [point]) memory) := by
  rw [memoryAfter_append]
  rfl

/-! ## Records -/

private theorem recorded_memoryAfter (past : List (List α)) :
    objective.recorded.memoryAfter points (past, memory) =
      (past ++ points, objective.memoryAfter points memory) := by
  induction points generalizing past memory with
  | nil => rw [List.append_nil, memoryAfter_nil, memoryAfter_nil]
  | cons point points induction =>
      rw [memoryAfter_cons, memoryAfter_cons]
      change objective.recorded.memoryAfter points (past ++ [point], _) = _
      rw [induction, List.append_assoc]
      rfl

private theorem recorded_answerAfter (past : List (List α)) :
    objective.recorded.answerAfter points (past, memory) point =
      objective.answerAfter points memory point := by
  rw [answerAfter, recorded_memoryAfter]
  rfl

/-- A computation with an objective comes to an answer after evaluations at some points, in
their order, and at no others. -/
structure Evaluates {γ : Type} (computation : {τ : Type} → Objective α τ ε → τ → γ × τ)
    (answer : γ) : Prop where
  answers : computation objective memory = (answer, objective.memoryAfter points memory)
  records : (computation objective.recorded ([], memory)).2.1 = points

variable {objective points memory}

/-- It is enough that the computation comes to the answer with every objective that answers
alike, whatever its memory. -/
theorem Evaluates.of_alike {γ : Type} {computation : {τ : Type} → Objective α τ ε → τ → γ × τ}
    {answer : γ}
    (answers : ∀ {τ : Type} (asked : Objective α τ ε) (start : τ),
      (∀ before point, asked.answerAfter before start point =
        objective.answerAfter before memory point) →
      computation asked start = (answer, asked.memoryAfter points start)) :
    objective.Evaluates points memory computation answer where
  answers := answers objective memory fun _ _ => rfl
  records := by
    rw [answers objective.recorded ([], memory) fun before point =>
      objective.recorded_answerAfter before memory point [], recorded_memoryAfter,
      List.nil_append]

end CurveFitting.Objective
