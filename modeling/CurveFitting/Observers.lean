import CurveFitting.Minimizer.Observer

/-! # Observers

Observers that record a fit, that note its progress, that stop it at a target, and
that answer by a list of rules, to put a fit through its paces.
-/

namespace CurveFitting

/-! ## Histories -/

structure Record (α : Type) where
  iteration : Nat
  /-- The cost after a step, or the mark of a missing value after a check. -/
  cost : α
  edm : α

structure History (α : Type) where
  records : List (Record α)

namespace History

variable {α : Type}

def empty : History α := ⟨[]⟩

def record (history : History α) (record : Record α) : History α :=
  ⟨history.records ++ [record]⟩

def last? (history : History α) : Option (Record α) := history.records.getLast?

def size (history : History α) : Nat := history.records.length

def isEmpty (history : History α) : Bool := history.records.isEmpty

variable [Scalar α]

/-- The costs of the steps, in order. -/
def costs (history : History α) : List α :=
  (history.records.map (·.cost)).filter fun cost => !Scalar.isNaN cost

/-- Records every event and never answers. -/
def observer : Observer α (History α) where
  observe event history :=
    ⟨none, history.record ⟨event.iteration, event.cost, event.edm⟩, []⟩

end History

/-! ## Rules -/

inductive EventKind where
  | iterated
  | refined
  deriving DecidableEq

namespace EventKind

def ofEvent {α : Type} : Event α → EventKind
  | .iterated .. => iterated
  | .refined .. => refined

end EventKind

/-- An action for the events of a kind, or for that of one iteration only. -/
structure Rule where
  kind : EventKind
  iteration : Option Nat
  action : Action

namespace Rule

def applies {α : Type} (rule : Rule) (event : Event α) : Bool :=
  rule.kind = EventKind.ofEvent event &&
    rule.iteration.all (· = event.iteration)

end Rule

namespace Observer

variable {α : Type}

/-- Answers an event with the action of the first rule that applies. -/
def script (rules : List Rule) : Observer α Unit where
  observe event memory :=
    ⟨(rules.find? (·.applies event)).map (·.action), memory, []⟩

variable [Scalar α]

/-- Stops a fit at the first event whose cost has reached the target. -/
def stopBelow (target : α) : Observer α Unit where
  observe event memory :=
    ⟨if event.cost ≤ target then some .stopEarly else none, memory, []⟩

def defaultLevel : Level := .debug

/-- Notes every event at a level and never answers. -/
def progress (level : Level) : Observer α Unit where
  observe event memory :=
    ⟨none, memory, [.progress level event.iteration event.cost event.edm]⟩

end Observer

end CurveFitting
