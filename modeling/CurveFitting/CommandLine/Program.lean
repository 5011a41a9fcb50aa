import CurveFitting.CommandLine.Arguments
import CurveFitting.DataFile
import CurveFitting.Minimizer.Message
import CurveFitting.Minimizer.Search
import CurveFitting.Observers
import CurveFitting.Report

/-! # The program

Fits a polynomial to the samples of a data file and reports the result.
-/

namespace CurveFitting.CommandLine

/-- Why the program has no fit to report. -/
inductive ProgramError where
  | load (cause : LoadError)
  | startCount (degree found : Nat)
  | parameter (cause : ParameterError Float)
  | config (cause : ConfigError)
  | fit (cause : FitError Float LeastSquaresError)

namespace ProgramError

def message : ProgramError → String
  | load _ => "could not load data"
  | startCount degree found => "expected " ++ toString (degree + 1) ++
      " starting values for degree " ++ toString degree ++ ", got " ++ toString found
  | parameter _ => "invalid parameter"
  | config _ => "invalid solver settings"
  | fit _ => "fit failed"

/-- The errors behind an error, from the outermost to the first. -/
def causes : ProgramError → List String
  | load cause => cause.message :: cause.causes
  | startCount .. => []
  | parameter cause => [cause.message]
  | config cause => [cause.message]
  | fit cause => cause.message :: (cause.cause?.map LeastSquaresError.message).toList

def lines (error : ProgramError) : List String :=
  ("error: " ++ error.message) :: error.causes.map ("  caused by: " ++ ·)

end ProgramError

/-- A fit that has a result, with its log. -/
structure Fitted where
  parameterCount : Nat
  minimum : Minimum Float parameterCount
  notes : Array (Note Float)

/-- The coefficients that a polynomial starts from: those given, or one for the
linear term and zero for all others. -/
def startingValues (degree : Nat) (start : List Float) :
    Except ProgramError (List Float) :=
  if start.isEmpty then
    .ok ((List.range (degree + 1)).map fun index => if index = 1 then 1 else 0)
  else if start.length = degree + 1 then
    .ok start
  else
    .error (.startCount degree start.length)

/-- The parameters `p0`, `p1`, … of a polynomial. -/
def startingParameters (degree : Nat) (start : List Float) (step : Float) :
    Except ProgramError (ParameterSet Float) := do
  let values ← startingValues degree start
  let add (set : ParameterSet Float) (coefficient : Float × Nat) :=
    set.add ("p" ++ toString coefficient.2) coefficient.1 step
  (values.zipIdx.foldlM add ParameterSet.empty).mapError .parameter

/-- The settings that the arguments ask for, on a pool of threads. -/
def settings (pool : Pool) (arguments : Arguments) : Except ProgramError (Config Float) := do
  let config ← (Config.new arguments.tolerance arguments.maxIterations
    arguments.maxCalls).mapError .config
  return { config with
    refineHessian := arguments.hessianCheck
    parallel := arguments.parallel
    pool := pool }

/-- Minimizes the cost with an observer that keeps no memory. -/
def fitWith (observer : Observer Float Unit) (problem : LeastSquares Float)
    (parameters : ParameterSet Float) (config : Config Float) :
    Except ProgramError Fitted :=
  let (answer, session) :=
    minimize problem.objective parameters config observer (Session.start () ())
  match answer with
  | .ok minimum => .ok ⟨parameters.size, minimum, session.notes⟩
  | .error cause => .error (.fit cause)

/-- Fits a polynomial to samples. The starting values are checked first, then the
settings. -/
def fitPoints (pool : Pool) (arguments : Arguments) (points : List (DataPoint Float)) :
    Except ProgramError Fitted := do
  let problem : LeastSquares Float := ⟨polynomialModel arguments.degree, points, 1⟩
  let parameters ← startingParameters arguments.degree arguments.start arguments.step
  let config ← settings pool arguments
  let observer := if arguments.verbose then Observer.progress .debug else Observer.silent
  fitWith observer problem parameters config

def loadText (arguments : Arguments) (text : String) :
    Except ProgramError (List (DataPoint Float)) :=
  (DataFile.parse text.toList arguments.skipHeader).mapError .load

/-- Fits the samples of a text. An error in the text is told before any other. -/
def fitText (pool : Pool) (arguments : Arguments) (text : String) :
    Except ProgramError Fitted := do
  fitPoints pool arguments (← loadText arguments text)

/-- The samples of the data file, whose bytes `read` gives. -/
def load (read : String → Except ReadFailure ByteArray) (arguments : Arguments) :
    Except ProgramError (List (DataPoint Float)) :=
  let content := (read arguments.file).bind fun bytes =>
    match String.fromUTF8? bytes with
    | some text => .ok text
    | none => .error .notText
  match content with
  | .ok text => loadText arguments text
  | .error failure => .error (.load (.unreadable arguments.file failure))

/-- What a run of the program shows. -/
structure Outcome where
  exitCode : Nat
  output : String
  log : List String
  errors : List String

namespace Outcome

/-- The text on standard error: the log and the errors, each entry followed by a
line feed. An entry that names a file holds more than one line if the name does. -/
def standardError (outcome : Outcome) : String :=
  String.join ((outcome.log ++ outcome.errors).map (· ++ "\n"))

/-- The lines on standard error from the first that begins as an error does, after
a run that failed. -/
def errorLines (outcome : Outcome) : List String :=
  if outcome.exitCode = 1 then
    ((Text.lines outcome.standardError.toList).map String.ofList).dropWhile fun line =>
      !line.startsWith "error: "
  else []

example : (Outcome.mk 1 "" ["INFO"] ["error: a\n", "  b"]).errorLines =
    ["error: a", "", "  b"] := by
  decide +kernel

end Outcome

/-- The line of the log that follows the reading of the data file. -/
def loadedLine (arguments : Arguments) (points : List (DataPoint Float)) : String :=
  "INFO data loaded points=" ++ toString points.length ++
    " degree=" ++ toString arguments.degree ++ " file=" ++ arguments.file

/-- The lines of a log: warnings, or all but the finest notes if asked for. -/
def logLines (verbose : Bool) (notes : Array (Note Float)) : List String :=
  let level : Level := if verbose then .debug else .warn
  (notes.toList.filter fun note => note.level.rank ≤ level.rank).map Note.line

/-- The exit code is zero for a fit that converged, two for one that did not, and
one for an error. -/
def report (pool : Pool) (read : String → Except ReadFailure ByteArray)
    (arguments : Arguments) : Outcome :=
  match load read arguments with
  | .error error => { exitCode := 1, output := "", log := [], errors := error.lines }
  | .ok points =>
      let log := if arguments.verbose then [loadedLine arguments points] else []
      match fitPoints pool arguments points with
      | .error error => { exitCode := 1, output := "", log := log, errors := error.lines }
      | .ok fitted => {
          exitCode := if fitted.minimum.status.isValid then 0 else 2
          output := fitted.minimum.report.text
          log := log ++ logLines arguments.verbose fitted.notes
          errors := [] }

/-- The exit code for a command line that makes no sense. -/
def usageExitCode : Nat := 2

/-- Runs the program on the words of a command line. One that makes no sense has
no output. -/
def run (read : String → Except ReadFailure ByteArray) (words : List String)
    (pool : Pool := Pool.inOrder) : Outcome :=
  match Arguments.parse words with
  | .ok arguments => report pool read arguments
  | .error error =>
      { exitCode := usageExitCode, output := "", log := [error.message], errors := [] }

end CurveFitting.CommandLine
