import CurveFitting.CommandLine.Program

/-! # The command

Reads the data file, runs the program, and shows what it has to say.
-/

namespace CurveFitting.CommandLine

/-- The system's number for an attempt to read a directory. -/
def isDirectoryCode : UInt32 := 21

/-- The bytes of a file, or why there are none. -/
def readFile (path : String) : IO (Except ReadFailure ByteArray) := do
  try
    return .ok (← IO.FS.readBinFile path)
  catch error =>
    match error with
    | .noFileOrDirectory .. => return .error .notFound
    | .inappropriateType _ code _ =>
        return .error (if code = isDirectoryCode then .isDirectory else .notDirectory)
    | error => return .error (.other (toString error))

/-- Runs the program on the words after its name. The file that they name is read
before the program asks for it. -/
def execute (words : List String) : IO UInt32 := do
  let content ← match Arguments.parse words with
    | .ok arguments => readFile arguments.file
    | .error _ => pure (.error .notFound)
  let outcome := run (fun _ => content) words
  IO.eprint outcome.standardError
  IO.print outcome.output
  return outcome.exitCode.toUInt32

end CurveFitting.CommandLine

def main (words : List String) : IO UInt32 :=
  CurveFitting.CommandLine.execute words
