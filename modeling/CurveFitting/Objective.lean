import CurveFitting.Scalar

/-! # Objectives

A cost to be minimized over vectors of parameters. An objective may refuse a
vector, and it may remember what it has been asked, so that its answers depend
on the evaluations before.
-/

namespace CurveFitting

/-- A computation that evaluates an objective with memory `σ`, and that may end
with an error. The memory survives the error. -/
abbrev Evaluation (σ ε : Type) := ExceptT ε (StateM σ)

structure Objective (α σ ε : Type) where
  evaluate : List α → Evaluation σ ε α
  /-- Checks, before any evaluation, that vectors of this length make sense. -/
  validate : (count : Nat) → Except ε Unit
  /-- The increase of the cost that stands for one standard deviation. -/
  errorDefinition : α

namespace Objective

variable {α σ ε : Type}

/-- The objective of a plain function, which accepts every vector. -/
def ofFunction (function : List α → α) (errorDefinition : α) : Objective α Unit ε where
  evaluate point := pure (function point)
  validate _ := .ok ()
  errorDefinition := errorDefinition

end Objective

end CurveFitting
