/-
FrontEnd/Markup/Document.lean

Marked-up text: a list of fragments, some of them with a role.  All modes print
the same fragments, so two printings of one document differ in the marks around
the fragments and in nothing else.
-/
import FrontEnd.Markup.Mode

namespace FrontEnd

/-- The character that starts a terminal sequence. -/
def escapeCharacter : Char := '\x1b'

/-- The terminal sequence with the given parameters. -/
def terminalSequence (parameters : String) : String :=
  String.ofList (escapeCharacter :: '[' :: parameters.toList ++ ['m'])

/-- Text written in a role. -/
def Mode.paint (mode : Mode) (role : Role) (text : String) : String :=
  match mode with
  | .plain => text
  | .debug => s!"[COLOR:{role.name}]{text}[/COLOR]"
  | .rich | .auto => terminalSequence role.colour ++ text ++ terminalSequence "0"

/-- A piece of text, and its role if it has one. -/
structure Fragment where
  role : Option Role
  text : String
deriving DecidableEq, Repr

/-- One fragment as a mode prints it. -/
def Fragment.print (mode : Mode) (f : Fragment) : String :=
  match f.role with
  | some role => mode.paint role f.text
  | none => f.text

/-- A marked-up text. -/
abbrev Document := List Fragment

namespace Document

/-- Text without a role. -/
def plain (text : String) : Document := [⟨none, text⟩]

/-- Text in a role, also when the text is empty. -/
def painted (role : Role) (text : String) : Document := [⟨some role, text⟩]

/-- The document as one line. -/
def line (d : Document) : Document := d ++ plain "\n"

/-- A line without text. -/
def blankLine : Document := plain "\n"

/-- The document as a mode prints it. -/
def print (mode : Mode) (d : Document) : String := String.join (d.map (Fragment.print mode))

@[simp] theorem print_nil (mode : Mode) : print mode [] = "" := rfl

/-- A document prints as its fragments one after the other. -/
@[simp] theorem print_cons (mode : Mode) (f : Fragment) (d : Document) :
    print mode (f :: d) = f.print mode ++ print mode d := by
  simp [print, String.join_cons]

@[simp] theorem print_append (mode : Mode) (d e : Document) :
    print mode (d ++ e) = print mode d ++ print mode e := by
  induction d with
  | nil => simp
  | cons f d ih => simp [ih, String.append_assoc]

end Document

end FrontEnd
