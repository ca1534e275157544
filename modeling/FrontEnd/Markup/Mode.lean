/-
FrontEnd/Markup/Mode.lean

The ways in which a report is printed, and how the way is chosen: a command line
flag, else an environment variable, else what the terminal can show.
-/
import FrontEnd.Markup.Role

namespace FrontEnd

/-- How the roles of a report are written. -/
inductive Mode
  /-- As the terminal allows.  Used without asking the terminal, it writes colours. -/
  | auto
  /-- As colours. -/
  | rich
  /-- Not at all. -/
  | plain
  /-- As markers that name the role. -/
  | debug
deriving DecidableEq, Repr

namespace Mode

/-- Every mode. -/
def all : List Mode := [.auto, .rich, .plain, .debug]

/-- The mode as it is written. -/
def name : Mode → String
  | .auto => "auto"
  | .rich => "rich"
  | .plain => "plain"
  | .debug => "debug"

/-- The mode that a word asks for.  Blanks around it and the case of ASCII letters do not matter. -/
def parse? (text : String) : Option Mode :=
  match lowerAscii (trimBlanks text) with
  | "auto" => some .auto
  | "always" | "rich" => some .rich
  | "never" | "plain" => some .plain
  | "debug" => some .debug
  | _ => none

end Mode

/-! ### The terminal -/

/-- What is known of the place where reports go. -/
structure Terminal where
  /-- The user wants no colours. -/
  noColor : Bool
  /-- The kind of terminal. -/
  kind : Option String
  /-- It is a Windows Terminal session. -/
  windowsSession : Bool
  /-- The system is Windows. -/
  windows : Bool
  /-- Reports go to a terminal at all. -/
  interactive : Bool
deriving DecidableEq, Repr

/-- Whether `part` stands somewhere in `text`. -/
def occursIn (part text : List Char) : Bool :=
  part.isPrefixOf text ||
    match text with
    | [] => false
    | _ :: rest => occursIn part rest

namespace Terminal

/-- The kinds of terminal that show colours: by a word in the name, or by the whole name. -/
def kindShowsColor (kind : String) : Bool :=
  ["color", "xterm", "screen"].any (fun word => occursIn word.toList kind.toList) ||
    kind == "linux"

/-- Whether colours may be written. -/
def showsColor (t : Terminal) : Bool :=
  !t.noColor && t.interactive &&
    if t.windows then t.windowsSession else t.kind.any kindShowsColor

end Terminal

/-- Settles `auto` by what the terminal shows. -/
def Mode.resolve (mode : Mode) (terminal : Terminal) : Mode :=
  match mode with
  | .auto => if terminal.showsColor then .rich else .plain
  | other => other

/-- The mode to print in.  The flag goes before the variable; a word that names no mode is
handed back. -/
def Mode.choose (flag setting : Option String) (terminal : Terminal) : Except String Mode :=
  match flag <|> setting with
  | none => .ok (Mode.auto.resolve terminal)
  | some word =>
    match Mode.parse? word with
    | some mode => .ok (mode.resolve terminal)
    | none => .error word

end FrontEnd
