import CurveFitting.Model.LeastSquares
import CurveFitting.Numeral.Literal
import CurveFitting.Numeral.Shortest
import CurveFitting.Text.Lines
import CurveFitting.Text.Quoted

/-! # Data files

Samples as rows of comma-separated numbers. The first two fields of a row are
`x` and `y`. Blank lines and lines that begin with `#` are no rows.
-/

namespace CurveFitting

/-- Why a file cannot be read. -/
inductive ReadFailure where
  | notFound
  | isDirectory
  | notDirectory
  | notText
  | other (message : String)

/-- Why data cannot be loaded. Lines are counted from one over the whole text. -/
inductive LoadError where
  | unreadable (path : String) (failure : ReadFailure)
  | missingField (line : Nat)
  | invalidNumber (line : Nat) (field : String)
  | nonFinite (line : Nat) (value : Float)

namespace ReadFailure

def message : ReadFailure → String
  | notFound => "No such file or directory (os error 2)"
  | isDirectory => "Is a directory (os error 21)"
  | notDirectory => "Not a directory (os error 20)"
  | notText => "stream did not contain valid UTF-8"
  | other message => message

end ReadFailure

namespace LoadError

def message : LoadError → String
  | unreadable path _ => s!"failed to read {path}"
  | missingField line => s!"line {line}: expected at least two comma-separated fields"
  | invalidNumber line field =>
      "line " ++ toString line ++ ": invalid number " ++ Text.quoted field.toList
  | nonFinite line value =>
      "line " ++ toString line ++ ": value " ++ Numeral.shortest value ++ " is not finite"

def causes : LoadError → List String
  | unreadable _ failure => [failure.message]
  | invalidNumber _ field =>
      [if field.isEmpty then "cannot parse float from empty string"
        else "invalid float literal"]
  | _ => []

end LoadError

namespace DataFile

/-- A line of a text, with its number. -/
structure Line where
  number : Nat
  text : List Char

/-- The lines of a text, numbered from one. -/
def numbered (text : List Char) : List Line :=
  (Text.lines text).zipIdx.map fun (line, index) => ⟨index + 1, line⟩

/-- Whether a line holds more than white space and a comment. -/
def isSignificant (line : Line) : Bool :=
  match Text.trim line.text with
  | [] => false
  | first :: _ => first != '#'

def readField (line : Nat) (field : List Char) : Except LoadError Float :=
  let trimmed := Text.trim field
  match Numeral.read trimmed with
  | none => .error (.invalidNumber line (String.ofList trimmed))
  | some value => if value.isFinite then .ok value else .error (.nonFinite line value)

/-- The sample of a row. -/
def readRow (row : Line) : Except LoadError (DataPoint Float) :=
  match Text.separated ',' row.text with
  | x :: y :: _ => do
      let x ← readField row.number x
      let y ← readField row.number y
      return ⟨x, y⟩
  | _ => .error (.missingField row.number)

/-- The rows of a text. A header is the first significant line. -/
def rows (text : List Char) (skipHeader : Bool) : List Line :=
  let significant := (numbered text).filter isSignificant
  if skipHeader then significant.drop 1 else significant

/-- The samples of a text, in order. The first bad row is reported. -/
def parse (text : List Char) (skipHeader : Bool) :
    Except LoadError (List (DataPoint Float)) :=
  (rows text skipHeader).mapM readRow

end DataFile

end CurveFitting
