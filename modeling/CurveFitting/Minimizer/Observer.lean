import CurveFitting.Minimizer.Event
import CurveFitting.Minimizer.Note

/-! # Observers

An observer is shown the events of a fit one after the other. It has a memory of
its own, and may answer with an action and add notes to the log.
-/

namespace CurveFitting

structure Reaction (α ω : Type) where
  action : Option Action
  memory : ω
  notes : List (Note α)

structure Observer (α ω : Type) where
  observe : Event α → ω → Reaction α ω

namespace Observer

variable {α : Type}

/-- The observer that never answers. -/
def silent : Observer α Unit where
  observe _ memory := ⟨none, memory, []⟩

end Observer

end CurveFitting
