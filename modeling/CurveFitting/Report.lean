import CurveFitting.Minimizer.Minimum
import CurveFitting.Numeral.Shortest
import CurveFitting.Scalar
import CurveFitting.Text.Lines

/-! # Reports

The summary of a fit as plain text.
-/

namespace CurveFitting

/-- What a report tells of a fit. There are no correlations without a
covariance, and no single one where an error is zero. -/
structure Report where
  status : Status
  cost : Float
  edm : Float
  errorDefinition : Float
  iterations : Nat
  calls : Nat
  parameters : List (FittedParameter Float)
  correlations : Option (List (List (Option Float)))

namespace Report

def describe : Status → String
  | .converged => "converged"
  | .reachedCallLimit => "call limit reached"
  | .aboveMaxEdm => "line search stalled above tolerance"
  | .numericalFailure => "numerical failure"
  | .stoppedByObserver => "stopped early"

/-- Quantities have six places after the point. -/
def quantity : Float → String := (Numeral.Scientific.mk 6 false).text

def heading (report : Report) : List String :=
  let validity := if report.status.isValid then "valid" else "invalid"
  ["status      " ++ describe report.status ++ " (" ++ validity ++ ")",
    "cost        " ++ quantity report.cost,
    "edm         " ++ quantity report.edm,
    "up          " ++ Numeral.shortest report.errorDefinition,
    "iterations  " ++ toString report.iterations,
    "calls       " ++ toString report.calls]

def parameterRow (name value error : String) : String :=
  Text.left 8 name ++ Text.right 16 value ++ Text.right 16 error

def parameterTable (report : Report) : List String :=
  parameterRow "name" "value" "error" :: report.parameters.map fun parameter =>
    parameterRow parameter.name (quantity parameter.value)
      ((parameter.error.map quantity).getD "n/a")

def correlationRow (name : String) (correlations : List (Option Float)) : String :=
  Text.left 8 name ++ String.join (correlations.map fun correlation =>
    Text.right 9 ((correlation.map (Numeral.fixed 4)).getD "n/a"))

def correlationTable (report : Report) : List String :=
  match report.correlations with
  | none => ["covariance unavailable"]
  | some rows => "correlation" ::
      List.zipWith correlationRow (report.parameters.map (·.name)) rows

/-- The three parts of a report, with an empty line between them. -/
def lines (report : Report) : List String :=
  report.heading ++ "" :: report.parameterTable ++ "" :: report.correlationTable

def text (report : Report) : String :=
  String.join (report.lines.map (· ++ "\n"))

end Report

/-- The report of a result. -/
def Minimum.report {n : Nat} (minimum : Minimum Float n) : Report where
  status := minimum.status
  cost := minimum.cost
  edm := minimum.edm
  errorDefinition := minimum.errorDefinition
  iterations := minimum.iterations
  calls := minimum.calls
  parameters := minimum.parameters.toList
  correlations := minimum.covariance.map Covariance.correlations

end CurveFitting
