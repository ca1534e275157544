/-
FrontEnd/Command/Run.lean

The command line as a function: from arguments, environment and files to what is
written and the exit code.  A command that fails writes to the standard error
alone.  A word that is no command fails too, and shows the help on the standard
output beside its error.
-/
import FrontEnd.Command.Explain
import FrontEnd.Command.Lex

namespace FrontEnd

/-! ### Arguments -/

/-- What is asked of the `lex` command. -/
structure LexRequest where
  path : Option String
  /-- The colour mode asked for last. -/
  color : Option String
deriving DecidableEq, Repr

/-- The value of a colour flag. -/
def colorFlag? (argument : String) : Option String :=
  let flag := "--color=".toList
  if flag.isPrefixOf argument.toList then
    some (String.ofList (argument.toList.drop flag.length))
  else none

/-- Takes up the arguments one by one; hands back the first that cannot be used. -/
def LexRequest.parse (request : LexRequest) : List String → Except String LexRequest
  | [] => .ok request
  | argument :: more =>
    match colorFlag? argument with
    | some value => LexRequest.parse { request with color := some value } more
    | none =>
      -- a second path is refused like an unknown flag
      if argument.toList.head? != some '-' && request.path.isNone then
        LexRequest.parse { request with path := some argument } more
      else .error argument

/-- What a command line asks for. -/
inductive Command
  | help
  | version
  | explain (code : Option String)
  | lex (request : LexRequest)
  /-- The `lex` command with an argument that it does not take. -/
  | lexArgument (argument : String)
  | unknown (word : String)
deriving DecidableEq, Repr

/-- The command of a list of arguments. -/
def Command.parse : List String → Command
  | [] => .help
  | word :: arguments =>
    if word = "lex" then
      match LexRequest.parse ⟨none, none⟩ arguments with
      | .ok request => .lex request
      | .error argument => .lexArgument argument
    else if word = "explain" || word = "--explain" then .explain arguments.head?
    else if word = "version" || word = "--version" || word = "-V" then .version
    else if word = "help" || word = "--help" || word = "-h" then .help
    else .unknown word

/-! ### Fixed texts -/

/-- The answer to the question for the version. -/
def versionText : String := "Klang version 0.0.1-dev\n"

/-- How the `lex` command is used. -/
def lexUsage : String := "kc lex <file.k> [--color=<mode>]"

/-- How the `explain` command is used. -/
def explainUsage : String := "kc explain <CODE>   (e.g. kc explain E002)"

/-- The lines of the help. -/
def helpLines : List String :=
  ["Klang Compiler",
   "",
   "Usage: kc <command> [options]",
   "",
   "Commands:",
   "  lex <file.k>         Tokenize a file and print one token per line",
   "  explain <code>       Explain a diagnostic code (e.g., E002)",
   "  help                 Show this help message",
   "  version              Show version information",
   "",
   "Lex options:",
   "  --color=<mode>       Diagnostic colors: auto, always, never, debug",
   "                       (default: $KLANG_COLOR, then auto)",
   "",
   "Environment:",
   "  KLANG_COLOR          Default for --color",
   "  NO_COLOR             Disable colors in auto mode",
   "  RUST_LOG             Enable compiler tracing (e.g., klang_lexer=trace)",
   "",
   "Examples:",
   "  kc lex main.k",
   "  kc lex main.k --color=never",
   "  kc explain E002"]

/-- The help, each line ended by a newline. -/
def helpText : String := String.join (helpLines.map (· ++ "\n"))

/-! ### Running -/

/-- What a run can see of the system, files apart. -/
structure Environment where
  /-- The environment variables. -/
  setting? : String → Option String
  /-- Whether errors are shown on a terminal. -/
  interactive : Bool
  windows : Bool

/-- What is known of the terminal. -/
def Environment.terminal (e : Environment) : Terminal where
  noColor := (e.setting? "NO_COLOR").isSome
  kind := e.setting? "TERM"
  windowsSession := (e.setting? "WT_SESSION").isSome
  windows := e.windows
  interactive := e.interactive

/-- What a run leaves behind. -/
structure Outcome where
  exitCode : Nat
  stdout : String
  stderr : String
deriving DecidableEq, Repr

namespace Outcome

/-- A run that succeeds with some output. -/
def success (stdout : String) : Outcome := ⟨0, stdout, ""⟩

/-- A run that fails; a diagnostic is followed by the tally of errors. -/
def failed (files : Files) (mode : Mode) (failure : Failure) : Outcome :=
  let ending :=
    match failure with
    | .diagnostic _ => tally 1 0
    | _ => []
  ⟨1, "", (failure.report files ++ ending).print mode⟩

end Outcome

/-- Runs the `lex` command: first the mode is settled, then the file is looked at. -/
def LexRequest.run (request : LexRequest) (environment : Environment) (files : Files) : Outcome :=
  match Mode.choose request.color (environment.setting? "KLANG_COLOR") environment.terminal with
  -- without a mode there is none to print the failure in
  | .error word => .failed files .plain (.invalidColorMode word)
  | .ok mode =>
    match request.path with
    | none => .failed files mode (.usage "lex" lexUsage)
    | some path =>
      match lexFile files path with
      | .error failure => .failed files mode failure
      | .ok tokens => .success tokens.listing

/-- Runs a command. -/
def Command.run (command : Command) (environment : Environment) (files : Files) : Outcome :=
  match command with
  | .help => .success helpText
  | .version => .success versionText
  | .explain none => .failed files .plain (.usage "explain" explainUsage)
  | .explain (some text) =>
    match FrontEnd.explain text with
    | .error failure => .failed files .plain failure
    | .ok page => .success page
  | .lex request => request.run environment files
  | .lexArgument argument =>
    ⟨1, "", s!"error: unexpected argument '{argument}'\nUsage: {lexUsage}\n"⟩
  | .unknown word => ⟨1, helpText, s!"Unknown command: {word}\n\n"⟩

end FrontEnd
