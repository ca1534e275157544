/-
FrontEnd/Diagnostic/Basic.lean

One detected problem, as a value: what is wrong, where, how wide the offending
text is, and whatever helps to mend it.  How it is shown is decided elsewhere.
-/
import FrontEnd.Diagnostic.Code
import FrontEnd.Diagnostic.Location

namespace FrontEnd

/-- A remark on a diagnostic, which may point at a place of its own. -/
structure Note where
  message : String
  span : Option Span
deriving DecidableEq, Repr

/-- A problem is either in the catalogue or names its category itself. -/
inductive Heading
  | coded (code : Code)
  | general (category : Category)
deriving DecidableEq, Repr

/-- The category; that of a catalogued problem follows from its phase. -/
def Heading.category : Heading → Category
  | .coded code => code.phase.category
  | .general category => category

/-- One detected problem. -/
structure Diagnostic where
  heading : Heading
  /-- The cause: what is wrong. -/
  message : String
  /-- Where the offending text starts. -/
  location : Location
  /-- The width of the offending text in characters. -/
  spanLength : Nat
  /-- The source lines captured with the problem, its own line last. -/
  context : List String
  /-- How to mend it. -/
  fix : Option String
  /-- Text that would be correct. -/
  sample : Option String
  /-- A remark shown after the sample. -/
  note : Option String
  /-- Related places. -/
  secondary : List Span
  /-- Further remarks. -/
  notes : List Note
deriving DecidableEq, Repr

namespace Diagnostic

/-- A problem that so far consists of its heading, cause and place. -/
def ofHeading (heading : Heading) (location : Location) (message : String) : Diagnostic :=
  ⟨heading, message, location, 1, [], none, none, none, [], []⟩

/-- A catalogued problem. -/
def coded (code : Code) : Location → String → Diagnostic := ofHeading (.coded code)

/-- A problem outside the catalogue. -/
def general (category : Category) : Location → String → Diagnostic := ofHeading (.general category)

/-! ### Adding detail -/

/-- Sets the captured source lines. -/
def withContext (d : Diagnostic) (lines : List String) : Diagnostic := { d with context := lines }

/-- Sets how to mend it. -/
def withFix (d : Diagnostic) (fix : String) : Diagnostic := { d with fix := some fix }

/-- Sets the text that would be correct. -/
def withSample (d : Diagnostic) (sample : String) : Diagnostic := { d with sample := some sample }

/-- Sets the remark after the sample. -/
def withNote (d : Diagnostic) (note : String) : Diagnostic := { d with note := some note }

/-- Sets the width of the offending text; the width is at least one. -/
def withSpanLength (d : Diagnostic) (length : Nat) : Diagnostic :=
  { d with spanLength := max length 1 }

/-- Adds a related place. -/
def withSecondary (d : Diagnostic) (span : Span) : Diagnostic :=
  { d with secondary := d.secondary ++ [span] }

/-- Adds a further remark. -/
def withRemark (d : Diagnostic) (note : Note) : Diagnostic := { d with notes := d.notes ++ [note] }

/-! ### Reading it -/

/-- The code of a catalogued problem. -/
def code? (d : Diagnostic) : Option Code :=
  match d.heading with
  | .coded code => some code
  | .general _ => none

/-- The category of the heading. -/
def category (d : Diagnostic) : Category := d.heading.category

/-- The phase that found a catalogued problem. -/
def phase? (d : Diagnostic) : Option Phase := d.code?.map Code.phase

/-- Whether the problem stops compilation. -/
def isError (d : Diagnostic) : Bool := d.category.isError

/-- The offending text as a span on one line.  Its columns stop at the largest column.  A location
at the largest column would have its span start behind it; in a text with fewer characters than
that, reading makes no such location. -/
def primarySpan (d : Diagnostic) : Span :=
  let start := d.location.column + 1
  let width := min d.spanLength maxColumn
  ⟨d.location.file, d.location.line, start, d.location.line, min (start + (width - 1)) maxColumn⟩

/-- The problem on one line. -/
def summary (d : Diagnostic) : String :=
  match d.heading with
  | .coded code => s!"[K:{code.label}] {code.name}: {d.message} (at {d.location.label})"
  | .general category => s!"{category.label} ERROR: {d.message} (at {d.location.label})"

end Diagnostic

end FrontEnd
