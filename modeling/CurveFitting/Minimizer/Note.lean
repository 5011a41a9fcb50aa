import CurveFitting.Minimizer.Minimum

/-! # Notes

What a fit writes down for a log while it runs. A note is kept as what happened;
its level, its text and its fields follow from that.
-/

namespace CurveFitting

inductive Level where
  | error
  | warn
  | info
  | debug
  | trace
  deriving DecidableEq

namespace Level

def name : Level → String
  | error => "ERROR"
  | warn => "WARN"
  | info => "INFO"
  | debug => "DEBUG"
  | trace => "TRACE"

/-- The most severe level is zero. -/
def rank : Level → Nat
  | error => 0
  | warn => 1
  | info => 2
  | debug => 3
  | trace => 4

end Level

/-- The value of a field of a note. -/
inductive FieldValue (α : Type) where
  | count (count : Nat)
  | number (number : α)
  | flag (flag : Bool)
  | text (text : String)

inductive Note (α : Type) where
  | nonFiniteStart (cost : α)
  | started (cost edm : α) (calls : Nat)
  | limitReached (iterations calls : Nat) (edm : α)
  | limitReachedInLineSearch (calls : Nat)
  | nonFiniteGradient (calls : Nat)
  | iterated (iteration calls : Nat) (cost edm step : α) (updated : Bool)
  | stalled (edm cost : α)
  | noRoomForCheck (calls : Nat) (edm : α)
  | nonFiniteHessian (calls : Nat)
  | notPositiveDefinite (edm : α)
  | refined (edmBefore edm : α) (calls : Nat)
  | finished (status : Status) (iterations calls : Nat) (cost edm : α)
  | progress (level : Level) (iteration : Nat) (cost edm : α)

namespace Note

variable {α : Type}

def level : Note α → Level
  | started .. | iterated .. | refined .. => .debug
  | finished .. => .info
  | progress level .. => level
  | _ => .warn

def message : Note α → String
  | nonFiniteStart .. => "non-finite objective at the starting point"
  | started .. => "starting point evaluated"
  | limitReached .. => "call limit reached before convergence"
  | limitReachedInLineSearch .. => "call limit reached during line search"
  | nonFiniteGradient .. => "non-finite gradient at accepted point"
  | iterated .. => "quasi-newton iteration"
  | stalled .. => "line search stalled"
  | noRoomForCheck .. => "call limit leaves no room for a hessian check"
  | nonFiniteHessian .. => "non-finite objective while refining hessian"
  | notPositiveDefinite .. => "hessian is not positive definite, keeping approximation"
  | refined .. => "hessian refined"
  | finished .. => "quasi-newton minimization finished"
  | progress .. => "minimizer progress"

def fields : Note α → List (String × FieldValue α)
  | nonFiniteStart cost => [("cost", .number cost)]
  | started cost edm calls =>
      [("cost", .number cost), ("edm", .number edm), ("calls", .count calls)]
  | limitReached iterations calls edm =>
      [("iters", .count iterations), ("calls", .count calls), ("edm", .number edm)]
  | limitReachedInLineSearch calls => [("calls", .count calls)]
  | nonFiniteGradient calls => [("calls", .count calls)]
  | iterated iteration calls cost edm step updated =>
      [("iteration", .count iteration), ("calls", .count calls), ("cost", .number cost),
        ("edm", .number edm), ("step", .number step), ("updated", .flag updated)]
  | stalled edm cost => [("edm", .number edm), ("cost", .number cost)]
  | noRoomForCheck calls edm => [("calls", .count calls), ("edm", .number edm)]
  | nonFiniteHessian calls => [("calls", .count calls)]
  | notPositiveDefinite edm => [("edm", .number edm)]
  | refined edmBefore edm calls =>
      [("edm_before", .number edmBefore), ("edm", .number edm), ("calls", .count calls)]
  | finished status iterations calls cost edm =>
      [("status", .text status.name), ("iters", .count iterations), ("calls", .count calls),
        ("cost", .number cost), ("edm", .number edm)]
  | progress _ iteration cost edm =>
      [("iteration", .count iteration), ("cost", .number cost), ("edm", .number edm)]

end Note

end CurveFitting
