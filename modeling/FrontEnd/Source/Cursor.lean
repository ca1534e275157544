/-
FrontEnd/Source/Cursor.lean

A reading position in a source text: what is still unread, how many bytes have
been read, and the line and column reached.  A cursor is a value; reading gives a
new one.

Lookahead past the end answers the NUL character.  NUL may also stand in the
text, so the end is told by `atEnd`, never by the character that is seen.
-/
import FrontEnd.Source.Position

namespace FrontEnd

/-- A reading position in a source text. -/
structure Cursor where
  /-- The text that has not been read. -/
  unread : List Char
  /-- The number of bytes that have been read. -/
  offset : Nat
  /-- The line and column before the first unread character. -/
  position : Position
deriving DecidableEq, Repr

namespace Cursor

/-- The cursor at the start of a text. -/
def ofText (text : List Char) : Cursor := ⟨text, 0, Position.start⟩

/-! ### Looking ahead -/

/-- Whether everything has been read. -/
def atEnd (c : Cursor) : Bool := c.unread.isEmpty

/-- The next unread character, NUL at the end. -/
def current (c : Cursor) : Char := c.unread.headD '\x00'

/-- The character after the current one, NUL if there is none. -/
def peek (c : Cursor) : Char := c.unread.tail.headD '\x00'

/-- How often `x` is repeated from here on. -/
def runLength (c : Cursor) (x : Char) : Nat := (c.unread.takeWhile (· == x)).length

/-! ### Reading -/

/-- The cursor after one more character; at the end it stays.  Line and column count on without a
limit, and stay below 2 ^ 32 in every text that has fewer than 2 ^ 32 - 1 characters. -/
def bump (c : Cursor) : Cursor :=
  match c.unread with
  | [] => c
  | x :: rest => ⟨rest, c.offset + x.utf8Size, c.position.advance x⟩

/-- The cursor after `n` more characters. -/
def skip (c : Cursor) : Nat → Cursor
  | 0 => c
  | n + 1 => c.bump.skip n

/-- Reads the current character if it is `x`, and tells whether it was. -/
def eat (c : Cursor) (x : Char) : Bool × Cursor :=
  if !c.atEnd && c.current == x then (true, c.bump) else (false, c)

/-- Reads as long as the characters satisfy `p`, and gives what was read. -/
def eatWhile (c : Cursor) (p : Char → Bool) : List Char × Cursor :=
  let text := c.unread.takeWhile p
  (text, c.skip text.length)

/-! ### What reading does to the unread text -/

@[simp] theorem bump_unread (c : Cursor) : c.bump.unread = c.unread.tail := by
  unfold bump
  split <;> simp_all

@[simp] theorem skip_unread (c : Cursor) (n : Nat) : (c.skip n).unread = c.unread.drop n := by
  induction n generalizing c with
  | zero => rfl
  | succ n ih => simp [skip, ih]

theorem bump_position {c : Cursor} {x : Char} {rest : List Char} (h : c.unread = x :: rest) :
    c.bump.position = c.position.advance x := by
  simp [bump, h]

/-- Skipping moves the position over exactly the text that was skipped. -/
theorem skip_position (c : Cursor) (n : Nat) :
    (c.skip n).position = c.position.after (c.unread.take n) := by
  induction n generalizing c with
  | zero => simp [skip]
  | succ n ih =>
    cases h : c.unread with
    | nil => simp [skip, ih, bump, h]
    | cons x rest => simp [skip, ih, bump_position h, h]

end Cursor

end FrontEnd
