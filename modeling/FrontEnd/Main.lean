/-
FrontEnd/Main.lean

The program: takes arguments, environment and the one file that the command names
from the system, and hands them to the command line function.
-/
import FrontEnd.Command.Run

namespace FrontEnd

/-- The number of a system error.  Some of them arrive negated. -/
def errorNumber (code : UInt32) : Nat :=
  if code.toNat < 0x80000000 then code.toNat else 0x100000000 - code.toNat

/-- A system error other than the ones that have a name of their own. -/
def otherFailure (code : UInt32) (details : String) : ReadFailure :=
  match errorNumber code with
  | 20 => .notDirectory
  | 21 => .isDirectory
  | 36 => .nameTooLong
  | number => .other s!"{details} (os error {number})"

/-- Why the system could not read a file. -/
def readFailureOf : IO.Error → ReadFailure
  | .noFileOrDirectory .. => .notFound
  | .permissionDenied .. => .permissionDenied
  | .inappropriateType _ code details | .invalidArgument _ code details
  | .resourceExhausted _ code details => otherFailure code details
  | .hardwareFault code details | .otherError code details => otherFailure code details
  | failure => .other failure.toString

/-- The content of one file, as far as it can be read. -/
def readText (path : String) : IO (Except ReadFailure String) := do
  try
    let bytes ← IO.FS.readBinFile path
    return match String.fromUTF8? bytes with
      | some text => .ok text
      | none => .error .invalidUtf8
  catch failure => return .error (readFailureOf failure)

/-- The file that a command reads. -/
def commandPath? : Command → Option String
  | .lex request => request.path
  | _ => none

/-- Runs the command of the arguments, and gives its exit code. -/
def runProgram (arguments : List String) : IO UInt32 := do
  let command := Command.parse arguments
  let files ← match commandPath? command with
    | none => pure Files.none
    | some path =>
      let content ← readText path
      pure ⟨fun other => if other = path then content else .error .notFound⟩
  let mut settings := []
  for name in ["KLANG_COLOR", "NO_COLOR", "TERM", "WT_SESSION"] do
    if let some value ← IO.getEnv name then
      settings := (name, value) :: settings
  let environment : Environment :=
    ⟨(settings.lookup ·), ← (← IO.getStderr).isTty, false⟩
  let outcome := command.run environment files
  IO.print outcome.stdout
  IO.eprint outcome.stderr
  return outcome.exitCode.toUInt32

end FrontEnd

def main (arguments : List String) : IO UInt32 := FrontEnd.runProgram arguments
