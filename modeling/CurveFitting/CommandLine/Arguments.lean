import CurveFitting.CommandLine.Word
import CurveFitting.Numeral.Literal
import CurveFitting.Text.Lines

/-! # Arguments

The values that a command line gives to a fit of a polynomial to a data file.
-/

namespace CurveFitting.CommandLine

structure Arguments where
  file : String
  degree : Nat
  /-- The starting coefficients, lowest order first. None stand for the usual ones. -/
  start : List Float
  step : Float
  tolerance : Float
  maxIterations : Nat
  maxCalls : Option Nat
  skipHeader : Bool
  parallel : Bool
  hessianCheck : Bool
  verbose : Bool

namespace Arguments

/-- All texts given for a setting, in order. -/
def valuesOf (items : List Item) (setting : Setting) : List String :=
  items.filterMap fun
    | .setting other value => if other = setting then some value else none
    | _ => none

/-- The value of a setting that may be given once. -/
def single {β : Type} (items : List Item) (setting : Setting)
    (read : List Char → Option β) : Except UsageError (Option β) :=
  match valuesOf items setting with
  | [] => .ok none
  | [text] =>
      match read text.toList with
      | some value => .ok (some value)
      | none => .error (.invalidValue setting text)
  | _ => .error (.repeatedSetting setting)

/-- The starting values, of which each text may give several, between commas. -/
def startValues (items : List Item) : Except UsageError (List Float) :=
  ((valuesOf items .start).flatMap fun text => Text.separated ',' text.toList).mapM
    fun text => match Numeral.read text with
      | some value => .ok value
      | none => .error (.invalidValue .start (String.ofList text))

/-- Whether a flag is given, which may be so once. -/
def isSet (items : List Item) (flag : Flag) : Except UsageError Bool :=
  match items.countP fun item => match item with
      | .flag other => other = flag
      | _ => false with
  | 0 => .ok false
  | 1 => .ok true
  | _ => .error (.repeatedFlag flag)

def dataFile (items : List Item) : Except UsageError String :=
  match items.filterMap fun item => match item with
      | .file path => some path
      | _ => none with
  | [] => .error .missingFile
  | [path] => if path.isEmpty then .error .invalidFile else .ok path
  | _ :: extra :: _ => .error (.extraFile extra)

/-- Counts and limits are below `2 ^ 64`. -/
def readCount (text : List Char) : Option Nat := Numeral.readNatural (Nat.pow 2 64) text

def ofItems (items : List Item) : Except UsageError Arguments := do
  return {
    file := ← dataFile items
    degree := (← single items .degree readCount).getD 3
    start := ← startValues items
    step := (← single items .step Numeral.read).getD 0.1
    tolerance := (← single items .tolerance Numeral.read).getD 1e-3
    maxIterations := (← single items .maxIterations readCount).getD 1000
    maxCalls := ← single items .maxCalls readCount
    skipHeader := ← isSet items .skipHeader
    parallel := ← isSet items .parallel
    hessianCheck := !(← isSet items .noHessianCheck)
    verbose := ← isSet items .verbose }

/-- Reads the words after the name of the program. -/
def parse (words : List String) : Except UsageError Arguments := do
  ofItems (← items words)

end Arguments

end CurveFitting.CommandLine
