/-
FrontEnd/Text/CharClass.lean

The character classes that reading and reporting depend on.  All of them are
Unicode classes, so a source text may use the letters and digits of any script;
only the digits of a number are ASCII digits (`Char.isDigit`).
-/
import FrontEnd.Text.Alphabetic
import FrontEnd.Text.Numeric
import FrontEnd.Text.Extending
import FrontEnd.Text.Unprintable

namespace FrontEnd

/-- Code points with the Unicode property White_Space. -/
def blankRanges : CodeRanges :=
  [(0x9, 0xD), (0x20, 0x20), (0x85, 0x85), (0xA0, 0xA0), (0x1680, 0x1680), (0x2000, 0x200A),
   (0x2028, 0x2029), (0x202F, 0x202F), (0x205F, 0x205F), (0x3000, 0x3000)]

/-- White space of any kind, line breaks included. -/
def isBlank (c : Char) : Bool := blankRanges.contains c

/-- A letter of any script. -/
def isLetter (c : Char) : Bool := alphabeticRanges.contains c

/-- A digit or other number character of any script. -/
def isNumeral (c : Char) : Bool := numericRanges.contains c

/-- A mark that attaches to the character before it. -/
def isExtending (c : Char) : Bool := extendingRanges.contains c

/-- A character that shows itself when it is printed. -/
def isPrintable (c : Char) : Bool := !unprintableRanges.contains c

/-! ### Names -/

/-- A name starts with a letter, an underscore or a dollar sign. -/
def isNameStart (c : Char) : Bool := isLetter c || c == '_' || c == '$'

/-- After its first character a name goes on with letters, digits and underscores. -/
def isNamePart (c : Char) : Bool := isLetter c || isNumeral c || c == '_'

end FrontEnd
