/-
FrontEnd/Text/Trim.lean

Small normalisations of what a user types: blanks cut off at both ends, and
ASCII letters brought to one case.  Letters beyond ASCII keep their case.
-/
import FrontEnd.Text.CharClass

namespace FrontEnd

/-- The text without the blanks at its start and its end. -/
def trimmed (text : List Char) : List Char :=
  ((text.dropWhile isBlank).reverse.dropWhile isBlank).reverse

/-- The string without the blanks at its start and its end. -/
def trimBlanks (text : String) : String := String.ofList (trimmed text.toList)

/-- The string with `A` to `Z` made small. -/
def lowerAscii (text : String) : String := text.map Char.toLower

/-- The string with `a` to `z` made capital. -/
def upperAscii (text : String) : String := text.map Char.toUpper

end FrontEnd
