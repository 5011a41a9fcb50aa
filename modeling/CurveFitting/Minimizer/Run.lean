import CurveFitting.Minimizer.Observer
import CurveFitting.Objective

/-! # Runs

A run joins the objective and the observer of a fit. What it leaves behind, the
memories of both, the events and the notes, survives an error.
-/

namespace CurveFitting

structure Session (α σ ω : Type) where
  objectiveMemory : σ
  observerMemory : ω
  events : Array (Event α)
  notes : Array (Note α)

namespace Session

variable {α σ ω : Type}

/-- The session before the first event. -/
def start (objectiveMemory : σ) (observerMemory : ω) : Session α σ ω :=
  ⟨objectiveMemory, observerMemory, #[], #[]⟩

end Session

/-- A computation of a fit over scalars `α`, with an objective of memory `σ` and
errors `ε` and an observer of memory `ω`. -/
abbrev Run (α σ ω ε : Type) := ExceptT (FitError α ε) (StateM (Session α σ ω))

namespace Run

variable {α σ ω ε β : Type}

def note (entry : Note α) : Run α σ ω ε Unit :=
  modify fun session => { session with notes := session.notes.push entry }

/-- Makes evaluations. An error of the objective ends the run. -/
def evaluate (evaluation : Evaluation σ ε β) : Run α σ ω ε β := fun session =>
  let (answer, memory) := evaluation session.objectiveMemory
  (answer.mapError .objective, { session with objectiveMemory := memory })

/-- Records an event, then shows it to the observer. -/
def emit (observer : Observer α ω) (event : Event α) : Run α σ ω ε (Option Action) :=
  fun session =>
    let reaction := observer.observe event session.observerMemory
    (.ok reaction.action, { session with
      observerMemory := reaction.memory
      events := session.events.push event
      notes := session.notes ++ reaction.notes })

end Run

end CurveFitting
