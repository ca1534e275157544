/-
FrontEnd/Report/Annotated.lean

The annotated layout, for diagnostics without a code or without captured lines:
category and cause, place, the offending line, then related places and remarks.
The line comes from the file if it was not captured; a file that cannot be read
shows as an empty line.

    SYNTAX ERROR: Expected ')', found '{'.
    --> main.k:3:14

     3 | if (ready {
                  ^
     fix: Insert ')' before '{'.
-/
import FrontEnd.Report.Full
import FrontEnd.Files.Basic

namespace FrontEnd

open Document

/-- One row of a file, counted from one; empty if there is no such file or row. -/
def Files.row (files : Files) (path : String) (number : Nat) : String :=
  if path.isEmpty then ""
  else
    match files.read path with
    | .error _ => ""
    | .ok text =>
      match number with
      | 0 => ""
      | n + 1 => ((rowsOf text)[n]?).getD ""

/-- A remark as the report shows it. -/
def Note.label (note : Note) : String :=
  match note.span with
  | some span => s!"{note.message} --> {span.label}"
  | none => note.message

namespace Diagnostic

/-- The category as the annotated layout shows it. -/
def annotatedLabel (d : Diagnostic) : String :=
  if d.isError then d.category.label ++ " ERROR" else d.category.label

/-- The offending line: the last captured one, else the one in the file. -/
def offendingLine (files : Files) (d : Diagnostic) : String :=
  match d.context.getLast? with
  | some line => line
  | none => files.row d.location.file d.location.line

/-- The report in the annotated layout. -/
def annotatedReport (files : Files) (d : Diagnostic) : Document :=
  let number := toString d.location.line
  let advice : Document :=
    if d.isError || d.fix.isSome then
      (plain " " ++ painted .help "fix" ++ plain s!": {d.advice}").line
    else []
  blankLine ++
    (painted d.category.role d.annotatedLabel ++ plain s!": {d.message}").line ++
    (plain s!"--> {d.primarySpan.label}").line ++
    blankLine ++
    (plain s!" {number} | {d.offendingLine files}").line ++
    -- the blank before the number and the " | " behind it make the four
    (plain (spaces (number.length + 4 + d.location.column)) ++
      painted d.category.role "^").line ++
    d.secondary.flatMap (fun span => (plain s!" note: referenced at {span.label}").line) ++
    d.notes.flatMap (fun note => (plain s!" note: {note.label}").line) ++
    advice ++ blankLine

/-- The report of a diagnostic: in the full layout if it has a code and captured lines. -/
def report (files : Files) (d : Diagnostic) : Document :=
  if d.code?.isSome && !d.context.isEmpty then d.fullReport else d.annotatedReport files

end Diagnostic

end FrontEnd
