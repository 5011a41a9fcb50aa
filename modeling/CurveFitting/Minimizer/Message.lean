import CurveFitting.Differences
import CurveFitting.Minimizer.Note
import CurveFitting.Numeral.Shortest
import CurveFitting.Parameter

/-! # Messages

What is told to a user: errors and notes, with the numbers that they name.
-/

namespace CurveFitting

namespace ParameterError

def message : ParameterError Float → String
  | .value name given =>
      "parameter `" ++ name ++ "` has non-finite starting value " ++ Numeral.shortest given
  | .step name given =>
      "parameter `" ++ name ++ "` step must be finite and positive, got " ++
        Numeral.shortest given
  | .bounds name =>
      "parameter `" ++ name ++ "` limits must be finite with lower < upper"
  | .outOfBounds name given =>
      "parameter `" ++ name ++ "` starting value " ++ Numeral.shortest given ++
        " is outside its limits"
  | .duplicateName name => "duplicate parameter name `" ++ name ++ "`"

end ParameterError

namespace DifferenceError

variable {ε : Type}

def message : DifferenceError Float ε → String
  | .objective _ => "objective evaluation failed"
  | .nonFinite index value =>
      "non-finite objective value " ++ Numeral.shortest value ++
        " while perturbing parameter " ++ toString index

end DifferenceError

namespace FitError

variable {ε : Type}

def message : FitError Float ε → String
  | .noParameters => "parameter set is empty"
  | .errorDefinition given =>
      "error definition must be finite and positive, got " ++ Numeral.shortest given
  | .configuration _ => "objective rejected the parameter set"
  | .objective _ => "objective evaluation failed"

/-- The error of the objective behind an error of a fit. -/
def cause? : FitError Float ε → Option ε
  | .configuration cause => some cause
  | .objective cause => some cause
  | _ => none

end FitError

def FieldValue.display : FieldValue Float → String
  | .count value => toString value
  | .number value => Numeral.shortest value
  | .flag value => toString value
  | .text value => value

/-- A note as a line of a log: the level, the message, then the fields. -/
def Note.line (note : Note Float) : String :=
  note.level.name ++ " " ++ note.message ++
    String.join (note.fields.map fun (name, value) => " " ++ name ++ "=" ++ value.display)

end CurveFitting
