/-
FrontEnd/Command/Failure.lean

Everything that a command can fail with, and the report of a failure.
-/
import FrontEnd.Report.Annotated

namespace FrontEnd

open Document

/-- Why a command fails. -/
inductive Failure
  /-- The source text has a problem. -/
  | diagnostic (diagnostic : Diagnostic)
  | notFound (path : String)
  | permissionDenied (path : String)
  | invalidUtf8 (path : String)
  /-- The file cannot be read, for a reason in the words of the system. -/
  | unreadable (path reason : String)
  /-- The file is not a source file; `command` is what should have been done with it. -/
  | invalidFileType (path command : String)
  | unknownCode (text : String)
  | missingExplanation (code : Code)
  | invalidColorMode (text : String)
  /-- An argument is missing; `arguments` shows how they are given. -/
  | usage (command arguments : String)
  /-- The output cannot be written, for a reason in the words of the system. -/
  | unwritable (reason : String)
deriving DecidableEq, Repr

namespace Failure

/-- The failure to read the file at a path. -/
def ofRead (path : String) : ReadFailure → Failure
  | .notFound => .notFound path
  | .permissionDenied => .permissionDenied path
  | .invalidUtf8 => .invalidUtf8 path
  | .other reason => .unreadable path reason

/-- The failure in one sentence. -/
def message : Failure → String
  | .diagnostic d => d.summary
  | .notFound path => s!"cannot find file '{path}'"
  | .permissionDenied path => s!"permission denied reading '{path}'"
  | .invalidUtf8 path => s!"'{path}' contains invalid UTF-8 data"
  | .unreadable path reason => s!"error reading '{path}': {reason}"
  | .invalidFileType path _ => s!"'{path}' is not a Klang source file"
  | .unknownCode text => s!"unknown error code: {text}"
  | .missingExplanation code => s!"no documentation available for {code.label}"
  | .invalidColorMode text => s!"invalid color mode '{text}'"
  | .usage command _ => s!"missing argument for `kc {command}`"
  | .unwritable reason => s!"failed to write output: {reason}"

/-- What to try instead. -/
def hint? : Failure → Option String
  | .unknownCode _ =>
    some ("Known codes: " ++ String.intercalate ", " (Code.all.map Code.label))
  | .invalidColorMode _ => some "Expected one of: auto, always, never, debug."
  | .usage _ arguments => some s!"Usage: {arguments}"
  | _ => none

/-- A title over one indented line. -/
def titledLine (title body : String) : Document :=
  blankLine ++ (painted .framing title).line ++ (plain "  " ++ painted .neutral body).line

/-- The report that a file is not a source file. -/
def fileTypeReport (path command : String) : Document :=
  (painted .error "InvalidFileType").line ++
    (painted .framing "ERROR (Cli)").line ++
    (painted .framing "at input file").line ++
    blankLine ++
    (painted .framing "The file '" ++ painted .neutral path ++
      painted .framing "' is not a Klang source file.").line ++
    titledLine "Cause:" "Klang only processes files with the '.k' extension." ++
    titledLine "Fix:" "Rename the file or select a valid '.k' source." ++
    titledLine "Example:" s!"kc {command} program.k"

/-- The report of a failure. -/
def report (files : Files) : Failure → Document
  | .diagnostic d => d.report files
  | .invalidFileType path command => fileTypeReport path command
  | failure =>
    (painted .error "error" ++ plain s!": {failure.message}").line ++
      match failure.hint? with
      | some hint => (painted .help hint).line
      | none => []

end Failure

end FrontEnd
