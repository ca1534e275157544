/-
FrontEnd/Source/Position.lean

Places in a source text.  Lines count from one and columns from zero, and only a
newline starts a line: every other character, a carriage return or a tab among
them, is one column wide.

Both numbers are natural numbers, where 32 bits would do for any text with fewer
than 2 ^ 32 - 1 characters: no place in it has a larger line or column
(`FrontEnd.Proofs.Bounds`).
-/

namespace FrontEnd

/-- A place between two characters of a source text. -/
structure Position where
  /-- One more than the number of newlines before the place. -/
  line : Nat
  /-- The number of characters between the last newline and the place. -/
  column : Nat
deriving DecidableEq, Repr, Inhabited

namespace Position

/-- The place before the first character. -/
def start : Position := ⟨1, 0⟩

/-- The place one character further on. -/
def advance (p : Position) (c : Char) : Position :=
  if c = '\n' then ⟨p.line + 1, 0⟩ else ⟨p.line, p.column + 1⟩

/-- The place after a stretch of text. -/
def after (p : Position) (text : List Char) : Position := text.foldl advance p

@[simp] theorem after_nil (p : Position) : p.after [] = p := rfl

@[simp] theorem after_cons (p : Position) (c : Char) (text : List Char) :
    p.after (c :: text) = (p.advance c).after text := rfl

@[simp] theorem after_append (p : Position) (text more : List Char) :
    p.after (text ++ more) = (p.after text).after more := by
  simp [after]

end Position

end FrontEnd
