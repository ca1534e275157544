/-
FrontEnd/Report/Full.lean

The full layout: heading, place, the captured source lines with carets under the
offending text, then cause, advice, sample and note.

    [K:E002] UnterminatedStringLiteral
    ERROR (Lexical)
    at main.k:1:11

    1 | String s = "abc
      |            ^^^

    Cause:
      Unclosed string literal.
-/
import FrontEnd.Report.Basic
import FrontEnd.Text.Lines

namespace FrontEnd

open Document

/-! ### Carets -/

/-- What stands under the text before the carets.  A tab stays a tab, so that the carets keep
their place however wide a tab is shown. -/
def caretIndent (line : List Char) (column : Nat) : List Char :=
  let under := (line.take column).map fun c => if c = '\t' then '\t' else ' '
  -- a place behind the end of the line is reached by blanks
  under ++ List.replicate (column - under.length) ' '

/-- The number of carets: the width of the offending text, cut at the end of the line, and at
least one. -/
def caretCount (line : List Char) (column width : Nat) : Nat :=
  max (min width (line.length - column)) 1

namespace Diagnostic

/-! ### The parts of the layout -/

/-- Code and name, phase, and place. -/
def fullHeading (d : Diagnostic) : Document :=
  let title : Document :=
    match d.code? with
    | some code =>
      (painted .framing "[K:" ++ painted .error code.label ++ painted .framing "] " ++
        painted .error code.name).line
    | none => []
  let phase := (d.phase?.map Phase.label).getD d.category.label
  title ++
    (painted .framing s!"ERROR ({phase})").line ++
    (painted .framing "at " ++ painted .neutral d.location.file ++ painted .separator ":" ++
      painted .framing (toString d.location.line) ++ painted .separator ":" ++
      painted .framing (toString d.location.column)).line

/-- The width of the column of line numbers. -/
def numberWidth (d : Diagnostic) : Nat := (toString d.location.line).length

/-- The number of the first captured line. -/
def firstNumber (d : Diagnostic) : Nat := d.location.line + 1 - d.context.length

/-- A source line with its number. -/
def sourceRow (d : Diagnostic) (number : Nat) (text : String) : Document :=
  (painted .framing (rightAligned d.numberWidth number) ++ painted .separator " | " ++
    painted .neutral text).line

/-- The row under the offending line. -/
def caretRow (d : Diagnostic) (text : String) : Document :=
  let line := text.toList
  let carets := List.replicate (caretCount line d.location.column d.spanLength) '^'
  (plain (spaces d.numberWidth) ++ painted .separator " | " ++
    plain (String.ofList (caretIndent line d.location.column)) ++
    painted .error (String.ofList carets)).line

/-- The captured lines from the one with the given number on, the offending line with its
carets. -/
def sourceRows (d : Diagnostic) : Nat → List String → Document
  | _, [] => []
  | number, text :: more =>
    d.sourceRow number text ++ (if number = d.location.line then d.caretRow text else []) ++
      d.sourceRows (number + 1) more

/-- A titled part: a blank line, the title, and the rows of the body indented by two. -/
def titledPart (title : String) (titleRole : Role) (body : String) (bodyRole : Role) : Document :=
  blankLine ++ (painted titleRole title).line ++
    (rowsOf body).flatMap fun row => (plain "  " ++ painted bodyRole row).line

/-- The same for a body that may be absent. -/
def titledPart? (title : String) (titleRole : Role) (body : Option String) (bodyRole : Role) :
    Document :=
  match body with
  | some text => titledPart title titleRole text bodyRole
  | none => []

/-- The report in the full layout. -/
def fullReport (d : Diagnostic) : Document :=
  d.fullHeading ++ blankLine ++
    d.sourceRows d.firstNumber d.context ++
    titledPart "Cause:" .framing d.message .neutral ++
    titledPart "Fix:" .help d.advice .help ++
    titledPart? "Example:" .help d.sample .helpAccent ++
    titledPart? "Note:" .framing d.note .neutral

end Diagnostic

end FrontEnd
