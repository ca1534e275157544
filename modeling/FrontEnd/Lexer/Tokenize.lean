/-
FrontEnd/Lexer/Tokenize.lean

From a source text to its tokens, piece by piece.  The first fault ends the
reading: there are then no tokens, only a diagnostic that holds the source lines
up to the fault.
-/
import FrontEnd.Lexer.Piece
import FrontEnd.Source.LineIndex
import FrontEnd.Token.Basic

namespace FrontEnd

/-- A fault and the place that it is reported at. -/
structure LexicalFailure where
  fault : Fault
  position : Position
deriving DecidableEq, Repr

/-- Skipping a piece leaves less to read. -/
theorem Cursor.length_skip_lt {c : Cursor} {n : Nat} (hc : c.unread ≠ [])
    (hn : (Piece.next c).length? = some n) : (c.skip n).unread.length < c.unread.length := by
  have hpos := Piece.length_next_pos hn
  have hlen := List.length_pos_iff.2 hc
  simp only [Cursor.skip_unread, List.length_drop]
  omega

/-- The tokens from a cursor on.  A token is placed behind its last character. -/
def Cursor.tokens (c : Cursor) : Except LexicalFailure TokenList :=
  if hc : c.unread = [] then .ok [⟨.eof, none, c.position⟩]
  else
    match hn : Piece.next c with
    | .trivia length =>
      have := Cursor.length_skip_lt (n := length) hc (by rw [hn]; rfl)
      (c.skip length).tokens
    | .lexeme kind value length =>
      have := Cursor.length_skip_lt (n := length) hc (by rw [hn]; rfl)
      let behind := c.skip length
      behind.tokens.map (⟨kind, value, behind.position⟩ :: ·)
    | .fault fault offset => .error ⟨fault, (c.skip offset).position⟩
termination_by c.unread.length
decreasing_by all_goals assumption

/-! ### One step of the reading -/

theorem Cursor.tokens_of_atEnd {c : Cursor} (hc : c.unread = []) :
    c.tokens = .ok [⟨.eof, none, c.position⟩] := by
  rw [Cursor.tokens, dif_pos hc]

theorem Cursor.tokens_of_trivia {c : Cursor} {length : Nat} (hc : c.unread ≠ [])
    (h : Piece.next c = .trivia length) : c.tokens = (c.skip length).tokens := by
  rw [Cursor.tokens, dif_neg hc]
  split <;> simp_all

theorem Cursor.tokens_of_lexeme {c : Cursor} {kind : Kind} {value : Option String}
    {length : Nat} (hc : c.unread ≠ []) (h : Piece.next c = .lexeme kind value length) :
    c.tokens =
      (c.skip length).tokens.map (⟨kind, value, (c.skip length).position⟩ :: ·) := by
  rw [Cursor.tokens, dif_neg hc]
  split <;> simp_all

theorem Cursor.tokens_of_fault {c : Cursor} {fault : Fault} {offset : Nat} (hc : c.unread ≠ [])
    (h : Piece.next c = .fault fault offset) :
    c.tokens = .error ⟨fault, (c.skip offset).position⟩ := by
  rw [Cursor.tokens, dif_neg hc]
  split <;> simp_all

/-! ### Source texts -/

/-- The tokens of a source text, or its first fault. -/
def scan (source : String) : Except LexicalFailure TokenList :=
  (Cursor.ofText source.toList).tokens

/-- The number of lines before a fault that its diagnostic holds, unless asked otherwise. -/
def defaultContext : Nat := 2

/-- The diagnostic of a failure in a source text, with up to `before` lines before its line. -/
def LexicalFailure.diagnostic (failure : LexicalFailure) (source file : String) (before : Nat) :
    Diagnostic :=
  failure.fault.diagnostic (Location.ofPosition file failure.position)
    ((LineIndex.ofText source).window failure.position.line before)

/-- The tokens of a source text, or the diagnostic of its first fault. -/
def tokenize (source file : String) (before : Nat) : Except Diagnostic TokenList :=
  (scan source).mapError (·.diagnostic source file before)

end FrontEnd
