/-
FrontEnd/Lexer/Fault.lean

What can be wrong with a lexeme.  Each fault is a cause with the text it needs;
code, message, advice, sample, remark and width of its diagnostic follow from it.
-/
import FrontEnd.Diagnostic.Basic
import FrontEnd.Text.Escape

namespace FrontEnd

/-- Why a text has no lexeme at some place. -/
inductive Fault
  /-- A dollar sign that no letter or underscore follows. -/
  | loneDollar
  /-- A run of `&` or `|` that is not two long. -/
  | operatorRun (c : Char) (length : Nat)
  /-- A character that starts no lexeme. -/
  | strayCharacter (c : Char)
  /-- A line break in a string; `body` is what was read before it. -/
  | stringLineBreak (body : String)
  /-- The end of the text in a string. -/
  | stringOpen (body : String)
  /-- An unknown escape in a string. -/
  | stringEscape (escaped : Char) (body : String)
  /-- A character literal with nothing in it. -/
  | characterEmpty
  /-- A character literal that is not closed on its line. -/
  | characterOpen
  /-- An unknown escape in a character literal. -/
  | characterEscape (escaped : Char)
  /-- A character literal with so many characters after the first. -/
  | characterCrowded (extra : Nat)
  /-- A number directly followed by a word. -/
  | numberSuffix (suffix : String)
  /-- A block comment without an end. -/
  | commentOpen
deriving DecidableEq, Repr

namespace Fault

/-- The code in the catalogue. -/
def code : Fault → Code
  | .loneDollar | .operatorRun .. | .strayCharacter _ => .e001
  | .stringLineBreak _ | .stringOpen _ => .e002
  | .stringEscape .. | .characterEscape _ => .e003
  | .characterEmpty | .characterOpen => .e004
  | .characterCrowded _ => .e103
  | .numberSuffix _ => .e101
  | .commentOpen => .e005

/-- The cause, in words. -/
def message : Fault → String
  | .loneDollar => "The character '$' cannot start an identifier alone."
  | .operatorRun c length =>
    let run := String.ofList (List.replicate length c)
    if length = 1 then s!"Character '{run}' is not valid alone."
    else s!"Character sequence '{run}' is not valid."
  | .strayCharacter c => s!"Character '{escaped c}' is not valid in Klang."
  | .stringLineBreak _ => "String literal cannot span multiple lines."
  | .stringOpen _ => "Unclosed string literal."
  | .stringEscape c _ => "Invalid escape sequence: \\" ++ escaped c
  | .characterEmpty => "Empty character literal."
  | .characterOpen => "Unclosed character literal."
  | .characterEscape c => "Invalid escape in character literal: \\" ++ escaped c
  | .characterCrowded _ => "A character literal may only contain one character."
  | .numberSuffix suffix =>
    s!"Invalid numeric literal: a number cannot be followed by '{suffix}'."
  | .commentOpen => "Unclosed block comment."

/-- How to mend it. -/
def fix : Fault → String
  | .loneDollar => "Identifiers starting with '$' must contain a letter or underscore."
  | .operatorRun c _ =>
    if c = '&' then "Use '&&' for logical AND." else "Use '||' for logical OR."
  | .strayCharacter _ => "Remove or replace it."
  | .stringLineBreak _ =>
    "Close the string before the line break, or write the break as '\\n'."
  | .stringOpen _ => "Add a closing double quote (\")."
  | .stringEscape .. => "Use a valid escape: \\n, \\t, \\\" or \\\\."
  | .characterEmpty => "Put exactly one character between the quotes."
  | .characterOpen => "Add a closing single quote (')."
  | .characterEscape _ => "Use a valid escape: \\n, \\t, \\' or \\\\."
  | .characterCrowded _ => "Keep a single character, or use a String for text."
  | .numberSuffix _ =>
    "Separate the number from the name, or start the identifier with a letter."
  | .commentOpen => "Add '*/' to close the comment."

/-- A string literal around what had been read of one. -/
def closedString (body : String) : String := "\"" ++ trimBlanks body ++ "\""

/-- A conditional statement with a logical operator, and what it prints. -/
def logicalSample (operator text : String) : String :=
  "if (firstCondition " ++ operator ++ " secondCondition) \x7b\n" ++
    "    println(\"" ++ text ++ "\");\n\x7d"

/-- Text that would be correct. -/
def sample? : Fault → Option String
  | .loneDollar => some "integer $variableName = 10;"
  | .operatorRun c _ =>
    if c = '&' then some (logicalSample "&&" "Both conditions hold.")
    else some (logicalSample "||" "At least one condition holds.")
  | .strayCharacter _ => none
  | .stringLineBreak body | .stringOpen body | .stringEscape _ body => some (closedString body)
  | .characterEmpty | .characterOpen => some "'a'"
  | .characterEscape _ => some "'\\n'"
  | .characterCrowded _ => some "character c = 'a';\nString s = \"ab\";"
  | .numberSuffix _ => some "integer count = 123;"
  | .commentOpen => some "/* comment */"

/-- A remark on the language. -/
def note? : Fault → Option String
  | .operatorRun .. => some "Klang has no bitwise operators."
  | .numberSuffix _ => some "Identifiers cannot start with a digit."
  | _ => none

/-- The number of characters that are marked. -/
def width : Fault → Nat
  | .operatorRun _ length => length
  | .stringLineBreak body | .stringOpen body | .stringEscape _ body => body.length
  | .characterCrowded extra => extra
  | .numberSuffix suffix => suffix.length
  | .commentOpen => 2
  | .loneDollar | .strayCharacter _ | .characterEmpty | .characterOpen | .characterEscape _ => 1

/-- The diagnostic of a fault at a place, with the source lines around it. -/
def diagnostic (fault : Fault) (location : Location) (context : List String) : Diagnostic :=
  let d := Diagnostic.coded fault.code location fault.message
  { (((d.withContext context).withFix fault.fix).withSpanLength fault.width) with
    sample := fault.sample?
    note := fault.note? }

end Fault

end FrontEnd
