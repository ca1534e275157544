/-
FrontEnd/Lexer/Piece.lean

The next piece of a source text: a stretch of trivia, a lexeme, or a fault.  A
piece that is no fault takes up at least one character (`length_next_pos`), so
reading on from behind it comes to an end.

The order of the tests settles which piece it is where several could start: a
comment goes before a division, a keyword is a name that is reserved, and a pair
of characters goes before a single one.
-/
import FrontEnd.Lexer.Literal
import FrontEnd.Source.Cursor

namespace FrontEnd

/-- What stands next in a source text. -/
inductive Piece
  /-- White space or a comment of the given length. -/
  | trivia (length : Nat)
  /-- The text of a token, of the given length. -/
  | lexeme (kind : Kind) (value : Option String) (length : Nat)
  /-- A fault, so many characters after the start of the piece. -/
  | fault (fault : Fault) (offset : Nat)
deriving DecidableEq, Repr

namespace Piece

/-! ### The kinds of pieces, each at the start of the unread text -/

/-- A string literal; the current character is its opening quote. -/
def stringLiteral (c : Cursor) : Piece :=
  let body := stringBody c.bump.unread
  let payload := String.ofList body.payload
  match body.ending with
  | .closed => .lexeme .stringLiteral (some payload) (1 + body.length)
  | .lineBreak => .fault (.stringLineBreak payload) 0
  | .endOfText => .fault (.stringOpen payload) 0
  | .badEscape escaped => .fault (.stringEscape escaped payload) 0

/-- A character literal; the current character is its opening quote. -/
def characterLiteral (c : Cursor) : Piece :=
  match characterBody c.bump.unread with
  | .closed payload length =>
    .lexeme .characterLiteral (some (String.ofList [payload])) (1 + length)
  | .crowded length extra => .fault (.characterCrowded extra) (1 + length)
  | .empty => .fault .characterEmpty 0
  | .unclosed => .fault .characterOpen 0
  | .badEscape escaped => .fault (.characterEscape escaped) 0

/-- A comment up to the end of the line. -/
def lineComment (c : Cursor) : Piece :=
  .trivia (2 + ((c.skip 2).eatWhile (· != '\n')).1.length)

/-- A comment between its two marks.  The marks do not overlap. -/
def blockComment (c : Cursor) : Piece :=
  match commentLength? (c.skip 2).unread with
  | some length => .trivia (2 + length)
  | none => .fault .commentOpen 0

/-- A logical operator: a run of exactly two. -/
def logicalOperator (c : Cursor) : Piece :=
  let run := c.runLength c.current
  if run = 2 then .lexeme (.punctuator (if c.current = '&' then .and else .or)) none 2
  else .fault (.operatorRun c.current run) 0

/-- A name: a reserved word or an identifier.  A dollar sign may lead it, but only before a
letter or an underscore. -/
def name (c : Cursor) : Piece :=
  if c.current = '$' ∧ ¬(isLetter c.peek ∨ c.peek = '_') then .fault .loneDollar 0
  else
    let word := c.current :: (c.bump.eatWhile isNamePart).1
    match Keyword.ofWord? word with
    | some keyword => .lexeme (.keyword keyword) none word.length
    | none => .lexeme .identifier (some (String.ofList word)) word.length

/-- The text of a number: digits, and a fraction if a point and a digit follow. -/
def numeral (c : Cursor) : List Char :=
  let digits := (c.eatWhile Char.isDigit).1
  let behind := c.skip digits.length
  if behind.current = '.' ∧ behind.peek.isDigit then
    digits ++ '.' :: (behind.bump.eatWhile Char.isDigit).1
  else digits

/-- A number.  No letter may follow it. -/
def number (c : Cursor) : Piece :=
  let text := numeral c
  let behind := c.skip text.length
  if isLetter behind.current then
    .fault (.numberSuffix (String.ofList (behind.eatWhile isNamePart).1)) text.length
  else .lexeme .number (some (String.ofList text)) text.length

/-- An operator, bracket or separator: two characters if they form one, else one. -/
def operator (c : Cursor) : Piece :=
  match Punctuator.pair? c.current c.peek with
  | some mark => .lexeme (.punctuator mark) none 2
  | none =>
    match Punctuator.single? c.current with
    | some mark => .lexeme (.punctuator mark) none 1
    | none => .fault (.strayCharacter c.current) 0

/-- The piece at a cursor that is not at the end. -/
def next (c : Cursor) : Piece :=
  if isBlank c.current then .trivia 1
  else if c.current = '"' then stringLiteral c
  else if c.current = '\'' then characterLiteral c
  else if c.current = '/' ∧ c.peek = '/' then lineComment c
  else if c.current = '/' ∧ c.peek = '*' then blockComment c
  else if c.current = '&' ∨ c.current = '|' then logicalOperator c
  else if isNameStart c.current then name c
  else if c.current.isDigit then number c
  else operator c

/-! ### Pieces take up room -/

/-- The number of characters of a piece that is no fault. -/
def length? : Piece → Option Nat
  | .trivia length | .lexeme _ _ length => some length
  | .fault .. => none

theorem numeral_length_pos {c : Cursor} (h : c.current.isDigit = true) :
    0 < (numeral c).length := by
  have hd : 0 < (c.unread.takeWhile Char.isDigit).length := by
    cases hu : c.unread with
    | nil => simp [Cursor.current, hu] at h
    | cons x rest =>
      simp only [Cursor.current, hu, List.headD_cons] at h
      simp [h]
  simp only [numeral]
  split
  · simp only [List.length_append, List.length_cons]; omega
  · exact hd

/-- The piece takes up room, unless it is a fault. -/
def TakesRoom (piece : Piece) : Prop := ∀ n, piece.length? = some n → 0 < n

theorem takesRoom_trivia {length : Nat} (h : 0 < length) : (trivia length).TakesRoom := by
  rintro n ⟨⟩
  exact h

theorem takesRoom_lexeme {kind : Kind} {value : Option String} {length : Nat} (h : 0 < length) :
    (lexeme kind value length).TakesRoom := by
  rintro n ⟨⟩
  exact h

theorem takesRoom_fault (reason : Fault) (offset : Nat) : (fault reason offset).TakesRoom :=
  nofun

section Readers

variable (c : Cursor)

theorem takesRoom_stringLiteral : (stringLiteral c).TakesRoom := by
  unfold stringLiteral
  dsimp only
  split
  · exact takesRoom_lexeme (Nat.add_pos_left Nat.one_pos _)
  · exact takesRoom_fault _ _
  · exact takesRoom_fault _ _
  · exact takesRoom_fault _ _

theorem takesRoom_characterLiteral : (characterLiteral c).TakesRoom := by
  unfold characterLiteral
  split
  · exact takesRoom_lexeme (Nat.add_pos_left Nat.one_pos _)
  · exact takesRoom_fault _ _
  · exact takesRoom_fault _ _
  · exact takesRoom_fault _ _
  · exact takesRoom_fault _ _

theorem takesRoom_lineComment : (lineComment c).TakesRoom :=
  takesRoom_trivia (Nat.add_pos_left Nat.two_pos _)

theorem takesRoom_blockComment : (blockComment c).TakesRoom := by
  unfold blockComment
  split
  · exact takesRoom_trivia (Nat.add_pos_left Nat.two_pos _)
  · exact takesRoom_fault _ _

theorem takesRoom_logicalOperator : (logicalOperator c).TakesRoom := by
  unfold logicalOperator
  dsimp only
  split
  · exact takesRoom_lexeme Nat.two_pos
  · exact takesRoom_fault _ _

/-- A name has at least the character that it starts with. -/
theorem takesRoom_name : (name c).TakesRoom := by
  unfold name
  split
  · exact takesRoom_fault _ _
  · dsimp only
    split
    · exact takesRoom_lexeme (Nat.succ_pos _)
    · exact takesRoom_lexeme (Nat.succ_pos _)

/-- A number that starts with a digit has at least this one. -/
theorem takesRoom_number (h : c.current.isDigit = true) : (number c).TakesRoom := by
  unfold number
  dsimp only
  split
  · exact takesRoom_fault _ _
  · exact takesRoom_lexeme (numeral_length_pos h)

theorem takesRoom_operator : (operator c).TakesRoom := by
  unfold operator
  split
  · exact takesRoom_lexeme Nat.two_pos
  split
  · exact takesRoom_lexeme Nat.one_pos
  · exact takesRoom_fault _ _

/-- Whatever is read next takes up room, in the order in which `next` looks for it. -/
theorem takesRoom_next : (next c).TakesRoom := by
  unfold next
  split
  · exact takesRoom_trivia Nat.one_pos
  split
  · exact takesRoom_stringLiteral c
  split
  · exact takesRoom_characterLiteral c
  split
  · exact takesRoom_lineComment c
  split
  · exact takesRoom_blockComment c
  split
  · exact takesRoom_logicalOperator c
  split
  · exact takesRoom_name c
  split
  · next hdigit => exact takesRoom_number c hdigit
  · exact takesRoom_operator c

end Readers

theorem length_next_pos {c : Cursor} {n : Nat} (h : (next c).length? = some n) : 0 < n :=
  takesRoom_next c n h

end Piece

end FrontEnd
