/-
FrontEnd/Text/Lines.lean

Two ways to see a text as lines.

* `splitLines` cuts at every newline and nowhere else.  Line numbers count these
  pieces, and a carriage return stays in its piece.
* `rows` gives the lines as a terminal shows them: a carriage return before a
  newline belongs to the line break, and a newline at the very end starts no
  further row.
-/
import FrontEnd.Text.Split

namespace FrontEnd

/-- The pieces between the newlines of a text. -/
def splitLines (text : List Char) : List (List Char) := splitAtEach '\n' text

/-- A line without the carriage return that ends it. -/
def dropReturn : List Char → List Char
  | [] => []
  | ['\r'] => []
  | c :: text => c :: dropReturn text

/-- The displayed rows of a text that has been cut at its newlines. -/
def rowsOfPieces : List (List Char) → List (List Char)
  | [] => []
  | [[]] => []
  | [line] => [line]
  | line :: more => dropReturn line :: rowsOfPieces more

/-- The displayed rows of a text. -/
def rows (text : List Char) : List (List Char) := rowsOfPieces (splitLines text)

/-- The displayed rows of a string. -/
def rowsOf (text : String) : List String := (rows text.toList).map String.ofList

end FrontEnd
