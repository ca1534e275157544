/-
FrontEnd/Text/Escape.lean

A character written so that a message stays readable on one line: the usual
two-character escapes, a `\u` escape for whatever would not show or would attach
to its neighbour, and the character itself otherwise.
-/
import FrontEnd.Text.CharClass

namespace FrontEnd

/-- The number in lower-case hexadecimal, without leading zeros. -/
def hexDigits (n : Nat) : List Char := Nat.toDigits 16 n

/-- The code point escape of `c`: `\u`, then its number in braces. -/
def codePointEscape (c : Char) : List Char :=
  ['\\', 'u', '\x7b'] ++ hexDigits c.toNat ++ ['\x7d']

/-- The letter after the backslash, for a character that has a two-character escape. -/
def shortEscape? : Char → Option Char
  | '\x00' => some '0'
  | '\t' => some 't'
  | '\r' => some 'r'
  | '\n' => some 'n'
  | '\'' => some '\''
  | '"' => some '"'
  | '\\' => some '\\'
  | _ => none

/-- The readable form of one character. -/
def escapeChar (c : Char) : List Char :=
  match shortEscape? c with
  | some letter => ['\\', letter]
  | none => if isExtending c || !isPrintable c then codePointEscape c else [c]

/-- The readable form as text. -/
def escaped (c : Char) : String := String.ofList (escapeChar c)

end FrontEnd
