/-
FrontEnd/Files/Path.lean

The name at the end of a path, and its extension.
-/
import FrontEnd.Text.Split

namespace FrontEnd

/-- The parts of a path between its slashes. -/
def pathParts (path : String) : List (List Char) := splitAtEach '/' path.toList

/-- A part that stays in the same directory. -/
def isIdlePart (part : List Char) : Bool := part == [] || part == ['.']

/-- The name at the end of a path.  Slashes and single dots after it do not count; a path that
ends in two dots has no such name. -/
def fileName? (path : String) : Option (List Char) :=
  match (pathParts path).reverse.dropWhile isIdlePart with
  | [] => none
  | part :: _ => if part = ['.', '.'] then none else some part

/-- What follows the last dot of a name.  A dot in front does not start an extension. -/
def extensionOf? (name : List Char) : Option (List Char) :=
  match name.reverse.dropWhile (· != '.') with
  | [] | [_] => none
  | _ => some (name.reverse.takeWhile (· != '.')).reverse

/-- Whether the file that a path names has the given extension. -/
def hasExtension (path extension : String) : Bool :=
  (fileName? path).bind extensionOf? == some extension.toList

end FrontEnd
