/-
FrontEnd/Lexer/Literal.lean

The bodies of string literals, character literals and block comments, as functions
of the text behind their opening.  Each tells how far the body goes and how it
ends.
-/
import FrontEnd.Lexer.Fault
import FrontEnd.Token.Kind

namespace FrontEnd

/-- The character that a backslash and `c` stand for inside the given quotes. -/
def unescape? (quote c : Char) : Option Char :=
  if c = 'n' then some '\n'
  else if c = 't' then some '\t'
  else if c = '\\' then some '\\'
  else if c = quote then some quote
  else none

/-! ### Strings -/

/-- How the body of a string ends. -/
inductive StringEnd
  | closed
  | lineBreak
  | endOfText
  | badEscape (c : Char)
deriving DecidableEq, Repr

/-- The body of a string as far as it can be read. -/
structure StringBody where
  /-- The characters that it stands for. -/
  payload : List Char
  /-- The number of characters in the source, a closing quote included. -/
  length : Nat
  ending : StringEnd
deriving DecidableEq, Repr

/-- One more character in front, written with `width` characters. -/
def StringBody.cons (c : Char) (width : Nat) (body : StringBody) : StringBody :=
  { body with payload := c :: body.payload, length := body.length + width }

/-- Reads the body of a string behind its opening quote. -/
def stringBody : List Char → StringBody
  | [] => ⟨[], 0, .endOfText⟩
  | '"' :: _ => ⟨[], 1, .closed⟩
  | '\n' :: _ => ⟨[], 0, .lineBreak⟩
  | ['\\'] => ⟨[], 0, .endOfText⟩
  | '\\' :: c :: text =>
    match unescape? '"' c with
    | some meant => (stringBody text).cons meant 2
    | none => ⟨[], 0, .badEscape c⟩
  | c :: text => (stringBody text).cons c 1

/-! ### Characters -/

/-- What follows the opening quote of a character literal. -/
inductive CharacterBody
  /-- One character and the closing quote. -/
  | closed (payload : Char) (length : Nat)
  /-- One character, written with `length` characters, then more before a closing quote. -/
  | crowded (length extra : Nat)
  /-- Nothing but the closing quote. -/
  | empty
  /-- No closing quote on the line. -/
  | unclosed
  | badEscape (c : Char)
deriving DecidableEq, Repr

/-- What follows the one character of a character literal, which took `length` characters. -/
def characterTail (payload : Char) (length : Nat) (text : List Char) : CharacterBody :=
  let restOfLine := text.takeWhile (· != '\n')
  let extra := restOfLine.takeWhile (· != '\'')
  -- no quote before the end of the line
  if extra.length = restOfLine.length then .unclosed
  else if extra.isEmpty then .closed payload (length + 1)
  else .crowded length extra.length

/-- Reads a character literal behind its opening quote. -/
def characterBody : List Char → CharacterBody
  | [] => .unclosed
  | '\n' :: _ => .unclosed
  | '\'' :: _ => .empty
  | ['\\'] => .unclosed
  | '\\' :: c :: text =>
    match unescape? '\'' c with
    | some meant => characterTail meant 2 text
    | none => .badEscape c
  | c :: text => characterTail c 1 text

/-! ### Block comments -/

/-- The number of characters up to and with the end of a block comment, behind its opening. -/
def commentLength? : List Char → Option Nat
  | [] => none
  | '*' :: '/' :: _ => some 2
  | _ :: text => (commentLength? text).map (· + 1)

end FrontEnd
