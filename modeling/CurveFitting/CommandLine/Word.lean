/-! # Words of a command line

What the words of a command line stand for: a data file, a flag, or a setting
with its value. A setting takes its value from the same word or from the next.
-/

namespace CurveFitting.CommandLine

/-- The settings that take a value. -/
inductive Setting where
  | degree
  | start
  | step
  | tolerance
  | maxIterations
  | maxCalls
  deriving DecidableEq

inductive Flag where
  | skipHeader
  | parallel
  | noHessianCheck
  | verbose
  deriving DecidableEq

inductive Item where
  | file (path : String)
  | flag (flag : Flag)
  | setting (setting : Setting) (value : String)

inductive UsageError where
  | unknownOption (word : String)
  | missingValue (setting : Setting)
  | unexpectedValue (flag : Flag)
  | invalidValue (setting : Setting) (value : String)
  | repeatedSetting (setting : Setting)
  | repeatedFlag (flag : Flag)
  | invalidFile
  | missingFile
  | extraFile (path : String)

namespace Setting

def name : Setting → String
  | degree => "degree"
  | start => "start"
  | step => "step"
  | tolerance => "tolerance"
  | maxIterations => "max-iters"
  | maxCalls => "max-calls"

def all : List Setting := [degree, start, step, tolerance, maxIterations, maxCalls]

def ofName? (name : String) : Option Setting := all.find? (·.name = name)

end Setting

namespace Flag

def name : Flag → String
  | skipHeader => "skip-header"
  | parallel => "parallel"
  | noHessianCheck => "no-hessian-check"
  | verbose => "verbose"

def all : List Flag := [skipHeader, parallel, noHessianCheck, verbose]

def ofName? (name : String) : Option Flag := all.find? (·.name = name)

end Flag

namespace UsageError

def message : UsageError → String
  | unknownOption word => "unknown option " ++ word
  | missingValue setting => "--" ++ setting.name ++ " needs a value"
  | unexpectedValue flag => "--" ++ flag.name ++ " takes no value"
  | invalidValue setting value => "invalid value for --" ++ setting.name ++ ": " ++ value
  | repeatedSetting setting => "--" ++ setting.name ++ " is given twice"
  | repeatedFlag flag => "--" ++ flag.name ++ " is given twice"
  | invalidFile => "the name of the data file is empty"
  | missingFile => "no data file is given"
  | extraFile path => "a second data file is given: " ++ path

end UsageError

/-- What a single word stands for: some items, and a setting that still waits
for its value, or the end of all options. -/
inductive Word where
  | items (items : List Item) (pending : Option Setting)
  | endOfOptions

namespace Word

/-- A word after two hyphens: a name, and a value after an equals sign. -/
def ofLong (text : List Char) : Except UsageError Word :=
  let name := String.ofList (text.takeWhile (· ≠ '='))
  let value := match text.dropWhile (· ≠ '=') with
    | [] => none
    | _ :: value => some (String.ofList value)
  match Setting.ofName? name, Flag.ofName? name, value with
  | some setting, _, some value => .ok (items [.setting setting value] none)
  | some setting, _, none => .ok (items [] (some setting))
  | none, some flag, none => .ok (items [.flag flag] none)
  | none, some flag, some _ => .error (.unexpectedValue flag)
  | none, none, _ => .error (.unknownOption (String.ofList text))

/-- A word after one hyphen: letters of flags, then maybe the letter of a setting.
What follows that letter is its value, with or without an equals sign. -/
def ofShort (before : List Item) : List Char → Except UsageError Word
  | [] => .ok (items before none)
  | 'v' :: rest => ofShort (before ++ [.flag .verbose]) rest
  | ['d'] => .ok (items before (some .degree))
  | 'd' :: '=' :: value => .ok (items (before ++ [.setting .degree (String.ofList value)]) none)
  | 'd' :: value => .ok (items (before ++ [.setting .degree (String.ofList value)]) none)
  | letter :: _ => .error (.unknownOption (String.ofList [letter]))

/-- A hyphen alone is no option. -/
def ofText (text : String) : Except UsageError Word :=
  match text.toList with
  | ['-', '-'] => .ok endOfOptions
  | '-' :: '-' :: long => ofLong long
  | '-' :: letter :: rest => ofShort [] (letter :: rest)
  | _ => .ok (items [.file text] none)

end Word

/-- Whether a word may be the value of the setting before it. Only starting
values may look like an option. -/
def mayBeValue (setting : Setting) (text : String) : Bool :=
  setting = .start || text = "-" || text.toList.head? ≠ some '-'

/-- The items of a command line, in order. -/
def items : List String → Except UsageError (List Item)
  | [] => .ok []
  | text :: rest => do
      match ← Word.ofText text with
      | .endOfOptions => return rest.map .file
      | .items found none => return found ++ (← items rest)
      | .items found (some setting) =>
          match rest with
          | [] => throw (.missingValue setting)
          | value :: rest =>
              if mayBeValue setting value then
                return found ++ .setting setting value :: (← items rest)
              else
                throw (.missingValue setting)

end CurveFitting.CommandLine
