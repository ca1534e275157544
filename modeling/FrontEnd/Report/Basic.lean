/-
FrontEnd/Report/Basic.lean

Parts that the report layouts share: advice where a diagnostic brings none of its
own, indentation, and the tally at the end of a run.
-/
import FrontEnd.Diagnostic.Basic
import FrontEnd.Markup.Document

namespace FrontEnd

open Document

/-- The advice for a diagnostic without advice of its own. -/
def genericFix : Option Code → String
  | some code => s!"Run `kc explain {code.label}` for details on this error."
  | none => "Review the code at the reported location."

/-- The advice that a report gives. -/
def Diagnostic.advice (d : Diagnostic) : String := d.fix.getD (genericFix d.code?)

/-- So many spaces. -/
def spaces (n : Nat) : String := String.ofList (List.replicate n ' ')

/-- A number with spaces before it, at least `width` characters wide. -/
def rightAligned (width n : Nat) : String :=
  let digits := toString n
  spaces (width - digits.length) ++ digits

/-- A count and a noun, with a plural `s` unless the count is one. -/
def counted (n : Nat) (noun : String) : String :=
  s!"{n} {noun}" ++ if n = 1 then "" else "s"

/-- The line that ends a run: how many errors and warnings there were.  A run without any has
no such line. -/
def tally (errors warnings : Nat) : Document :=
  let found := if errors = 1 then "previous error" else counted errors "previous error"
  let warned := counted warnings "warning" ++ " emitted"
  if 0 < errors then
    let aborting := ": aborting due to " ++ found
    (painted .error "error" ++
      plain (if 0 < warnings then aborting ++ "; " ++ warned else aborting)).line
  else if 0 < warnings then (painted .yellow "warning" ++ plain (": " ++ warned)).line
  else []

end FrontEnd
