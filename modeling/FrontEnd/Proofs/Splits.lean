/-
FrontEnd/Proofs/Splits.lean

A whole text against the grammar: a list of stretches, each of which fits the
text that follows it.

The tokens of a text are those of its stretches (`Cursor.tokens_of_splits`, by induction
on the stretches), and every text splits into stretches up to its end or up to a
fault (`exists_split`, by induction on the text).  So reading succeeds exactly if the
stretches reach the end (`tokens_eq_ok_iff`) and fails exactly if they reach a fault
(`tokens_eq_error_iff`); neither needs a hypothesis on the text.
-/
import FrontEnd.Lexer.Tokenize
import FrontEnd.Proofs.Coverage

namespace FrontEnd

/-! ### Stretches -/

/-- A stretch of a text: one piece of trivia, or the whole of a token. -/
inductive Stretch
  | trivia (text : List Char)
  | lexeme (text : List Char) (kind : Kind) (value : Option String)
deriving DecidableEq, Repr

/-- The characters of a stretch. -/
def Stretch.text : Stretch → List Char
  | .trivia text => text
  | .lexeme text _ _ => text

/-- The piece that a stretch is read as. -/
def Stretch.piece : Stretch → Piece
  | .trivia text => .trivia text.length
  | .lexeme text kind value => .lexeme kind value text.length

theorem Stretch.length?_piece (stretch : Stretch) :
    stretch.piece.length? = some stretch.text.length := by
  cases stretch <;> rfl

/-- A stretch is what the grammar allows before `rest`. -/
def Stretch.Fits : Stretch → List Char → Prop
  | .trivia text, rest => IsTrivia text rest
  | .lexeme text kind value, rest => IsLexeme text rest kind value

/-- The characters of all stretches, in order. -/
def textOf (stretches : List Stretch) : List Char := stretches.flatMap Stretch.text

/-- `Splits stretches rest`: each stretch fits what follows it, up to and with `rest`. -/
def Splits : List Stretch → List Char → Prop
  | [], _ => True
  | stretch :: more, rest => stretch.Fits (textOf more ++ rest) ∧ Splits more rest

/-- The tokens of stretches that start at a place: one for each lexeme, placed behind it. -/
def tokensOf : Position → List Stretch → TokenList
  | _, [] => []
  | p, .trivia text :: more => tokensOf (p.after text) more
  | p, .lexeme text kind value :: more =>
    ⟨kind, value, p.after text⟩ :: tokensOf (p.after text) more

@[simp] theorem textOf_nil : textOf [] = [] := rfl

@[simp] theorem textOf_cons (stretch : Stretch) (more : List Stretch) :
    textOf (stretch :: more) = stretch.text ++ textOf more := by
  simp [textOf]

@[simp] theorem textOf_append (stretches more : List Stretch) :
    textOf (stretches ++ more) = textOf stretches ++ textOf more := by
  simp [textOf]

theorem Stretch.Fits.of_append {stretch : Stretch} {rest more : List Char}
    (h : stretch.Fits (rest ++ more)) : stretch.Fits rest := by
  cases stretch with
  | trivia text => exact IsTrivia.of_append h
  | lexeme text kind value => exact IsLexeme.of_append h

section Splits

variable {stretches more : List Stretch} {rest : List Char}

/-- Stretches still fit when the end of the text is cut off. -/
theorem Splits.of_append {tail : List Char} (h : Splits stretches (rest ++ tail)) :
    Splits stretches rest := by
  induction stretches with
  | nil => trivial
  | cons stretch stretches ih =>
    refine ⟨?_, ih h.2⟩
    have hfits := h.1
    rw [← List.append_assoc] at hfits
    exact hfits.of_append

theorem splits_append :
    Splits (stretches ++ more) rest ↔ Splits stretches (textOf more ++ rest) ∧ Splits more rest := by
  induction stretches with
  | nil => simp [Splits]
  | cons stretch stretches ih => simp [Splits, ih, and_assoc]

/-- A token of a stretch is the token of a lexeme that fits what follows it. -/
theorem exists_lexeme_of_mem_tokensOf {p : Position} {token : Token} (h : Splits stretches rest)
    (ht : token ∈ tokensOf p stretches) :
    ∃ text behind, IsLexeme text behind token.kind token.value := by
  induction stretches generalizing p with
  | nil => cases ht
  | cons stretch stretches ih =>
    cases stretch with
    | trivia text => exact ih h.2 ht
    | lexeme text kind value =>
      rcases List.mem_cons.1 ht with rfl | ht
      · exact ⟨text, _, h.1⟩
      · exact ih h.2 ht

/-- The end is no lexeme. -/
theorem IsLexeme.kind_ne_eof {text : List Char} {kind : Kind} {value : Option String}
    (h : IsLexeme text rest kind value) : kind ≠ .eof := by
  cases h <;> exact Kind.noConfusion

/-! ### Every text splits -/

/-- A stretch that fits is read as one piece. -/
theorem Stretch.Fits.next_eq {stretch : Stretch} {c : Cursor} (h : stretch.Fits rest)
    (hc : c.unread = stretch.text ++ rest) : Piece.next c = stretch.piece := by
  cases stretch with
  | trivia text => exact IsTrivia.next_eq h hc
  | lexeme text kind value => exact IsLexeme.next_eq h hc

/-- A stretch that fits takes up room. -/
theorem Stretch.Fits.text_ne_nil {stretch : Stretch} (h : stretch.Fits rest) :
    stretch.text ≠ [] := by
  let c := Cursor.ofText (stretch.text ++ rest)
  have hlength : (Piece.next c).length? = some stretch.text.length := by
    rw [h.next_eq rfl, stretch.length?_piece]
  exact List.length_pos_iff.1 (Piece.length_next_pos hlength)

theorem Stretch.Fits.textOf_ne_nil {stretch : Stretch} (h : stretch.Fits rest)
    (more : List Stretch) : textOf (stretch :: more) ≠ [] := by
  rw [textOf_cons]
  exact List.append_ne_nil_of_left_ne_nil h.text_ne_nil (textOf more)

/-- A fault is a fault of some text. -/
theorem Malformed.ne_nil {fault : Fault} {offset : Nat} (h : Malformed rest fault offset) :
    rest ≠ [] := by
  rintro rfl
  generalize he : ([] : List Char) = text at h
  cases h with
  | numberSuffix hn =>
    obtain ⟨x, tail, rfl, -⟩ := hn.exists_cons
    cases he
  | operatorRun _ hpos =>
    obtain ⟨n, rfl⟩ := Nat.exists_eq_add_one.2 hpos
    cases he
  | _ => cases he

/-- A text that is not empty starts with a stretch or with a fault. -/
theorem exists_stretch_or_malformed {text : List Char} (ht : text ≠ []) :
    (∃ (stretch : Stretch) (rest : List Char), text = stretch.text ++ rest ∧ stretch.Fits rest) ∨
      ∃ fault offset, Malformed text fault offset := by
  obtain ⟨piece, hp⟩ := Piece.exists_fits ht
  cases piece with
  | trivia length =>
    obtain ⟨front, rest, rfl, -, hf⟩ := hp
    exact .inl ⟨.trivia front, rest, rfl, hf⟩
  | lexeme kind value length =>
    obtain ⟨front, rest, rfl, -, hf⟩ := hp
    exact .inl ⟨.lexeme front kind value, rest, rfl, hf⟩
  | fault reason offset => exact .inr ⟨reason, offset, hp⟩

/-- Every text splits into stretches, up to its end or up to a fault. -/
theorem exists_split (text : List Char) :
    ∃ stretches rest, text = textOf stretches ++ rest ∧ Splits stretches rest ∧
      (rest = [] ∨ ∃ fault offset, Malformed rest fault offset) := by
  by_cases ht : text = []
  · exact ⟨[], [], by simp [ht], trivial, .inl rfl⟩
  rcases exists_stretch_or_malformed ht with ⟨stretch, behind, he, hf⟩ | hm
  · -- a stretch takes up room, so less is left to split
    have hlt : behind.length < text.length := by
      have := List.length_pos_iff.2 hf.text_ne_nil
      rw [he, List.length_append]
      omega
    obtain ⟨stretches, rest, rfl, hs, hend⟩ := exists_split behind
    exact ⟨stretch :: stretches, rest, by simp [he], ⟨hf, hs⟩, hend⟩
  · exact ⟨[], text, rfl, trivial, .inr hm⟩
termination_by text.length

/-- A text starts with one stretch at most. -/
theorem Stretch.Fits.unique {stretch other : Stretch} {behind : List Char}
    (h : stretch.Fits rest) (h' : other.Fits behind)
    (he : stretch.text ++ rest = other.text ++ behind) : stretch = other ∧ rest = behind := by
  let c := Cursor.ofText (stretch.text ++ rest)
  -- both are read as the piece that comes next, and a piece tells its length
  have hpiece : stretch.piece = other.piece := by
    rw [← h.next_eq (c := c) rfl, ← h'.next_eq (c := c) he]
  have hlength : stretch.text.length = other.text.length := by
    rw [← Option.some.injEq, ← stretch.length?_piece, ← other.length?_piece, hpiece]
  obtain ⟨htext, hrest⟩ := List.append_inj he hlength
  refine ⟨?_, hrest⟩
  cases stretch with
  | trivia text =>
    cases other with
    | trivia => exact congrArg Stretch.trivia htext
    | lexeme => cases hpiece
  | lexeme text kind value =>
    cases other with
    | trivia => cases hpiece
    | lexeme more =>
      obtain ⟨rfl, rfl, -⟩ := Piece.lexeme.inj hpiece
      obtain rfl : text = more := htext
      rfl

/-- A text splits in one way only. -/
theorem Splits.unique {others : List Stretch} (h : Splits stretches []) (h' : Splits others [])
    (he : textOf stretches = textOf others) : stretches = others := by
  induction stretches generalizing others with
  | nil =>
    cases others with
    | nil => rfl
    | cons other others => exact absurd he.symm (h'.1.textOf_ne_nil others)
  | cons stretch stretches ih =>
    cases others with
    | nil => exact absurd he (h.1.textOf_ne_nil stretches)
    | cons other others =>
      rw [textOf_cons, textOf_cons, ← List.append_nil (textOf stretches),
        ← List.append_nil (textOf others)] at he
      obtain ⟨rfl, hrest⟩ := h.1.unique h'.1 he
      rw [List.append_nil, List.append_nil] at hrest
      rw [ih h.2 h'.2 hrest]

/-! ### Reading along the stretches -/

/-- The place behind a stretch. -/
theorem Cursor.skip_position_of_append {c : Cursor} {front behind : List Char}
    (hc : c.unread = front ++ behind) :
    (c.skip front.length).position = c.position.after front := by
  rw [Cursor.skip_position, hc, List.take_left]

theorem Cursor.skip_add (c : Cursor) (m n : Nat) : c.skip (m + n) = (c.skip m).skip n := by
  induction m generalizing c with
  | zero => rw [Nat.zero_add]; rfl
  | succ m ih => rw [Nat.succ_add]; exact ih c.bump

/-- One stretch is one step of the reading. -/
theorem Cursor.tokens_of_fits {c : Cursor} {stretch : Stretch} (h : stretch.Fits rest)
    (hc : c.unread = stretch.text ++ rest) :
    c.tokens = (c.skip stretch.text.length).tokens.map (tokensOf c.position [stretch] ++ ·) := by
  have hne : c.unread ≠ [] := by
    rw [hc]
    exact List.append_ne_nil_of_left_ne_nil h.text_ne_nil rest
  cases stretch with
  | trivia text =>
    rw [Cursor.tokens_of_trivia hne (IsTrivia.next_eq h hc)]
    exact (congrFun Except.map_id _).symm
  | lexeme text kind value =>
    have hp : (c.skip text.length).position = c.position.after text :=
      Cursor.skip_position_of_append hc
    rw [Cursor.tokens_of_lexeme hne (IsLexeme.next_eq h hc), hp]
    rfl

/-- The tokens of several stretches in a row. -/
theorem tokensOf_append (p : Position) (stretches more : List Stretch) :
    tokensOf p (stretches ++ more) =
      tokensOf p stretches ++ tokensOf (p.after (textOf stretches)) more := by
  induction stretches generalizing p with
  | nil => rfl
  | cons stretch stretches ih =>
    cases stretch <;> simp [tokensOf, Stretch.text, ih]

/-- The tokens of the stretches come first, then those of the text behind them. -/
theorem Cursor.tokens_of_splits {c : Cursor} (h : Splits stretches rest)
    (hc : c.unread = textOf stretches ++ rest) :
    c.tokens =
      (c.skip (textOf stretches).length).tokens.map (tokensOf c.position stretches ++ ·) := by
  induction stretches generalizing c with
  | nil => exact (congrFun Except.map_id _).symm
  | cons stretch stretches ih =>
    have hc' : c.unread = stretch.text ++ (textOf stretches ++ rest) := by
      rw [hc, textOf_cons, List.append_assoc]
    have hbehind : (c.skip stretch.text.length).unread = textOf stretches ++ rest := by
      rw [Cursor.skip_unread, hc', List.drop_left]
    have htokens : tokensOf c.position (stretch :: stretches) =
        tokensOf c.position [stretch] ++ tokensOf (c.position.after stretch.text) stretches := by
      simpa using tokensOf_append c.position [stretch] stretches
    -- one step for the first stretch, and the others from the place behind it
    rw [Cursor.tokens_of_fits h.1 hc', ih h.2 hbehind, textOf_cons, List.length_append,
      Cursor.skip_add, Cursor.skip_position_of_append hc', htokens]
    cases ((c.skip stretch.text.length).skip (textOf stretches).length).tokens with
    | error failure => rfl
    | ok tokens => simp [Except.map]

/-! ### Success and failure -/

/-- The token that marks the end of a text. -/
def endToken (p : Position) : Token := ⟨.eof, none, p⟩

/-- Stretches up to the end of the text give its tokens. -/
theorem Cursor.tokens_of_splits_end {c : Cursor} (h : Splits stretches [])
    (hc : c.unread = textOf stretches) :
    c.tokens = .ok (tokensOf c.position stretches ++ [endToken (c.position.after c.unread)]) := by
  have hc' : c.unread = textOf stretches ++ [] := by rw [hc, List.append_nil]
  have hend : (c.skip (textOf stretches).length).unread = [] := by
    rw [Cursor.skip_unread, hc, List.drop_length]
  rw [Cursor.tokens_of_splits h hc', Cursor.tokens_of_atEnd hend,
    Cursor.skip_position_of_append hc', hc]
  rfl

/-- Stretches up to a fault give the fault. -/
theorem Cursor.tokens_of_splits_malformed {c : Cursor} {fault : Fault} {offset : Nat}
    (h : Splits stretches rest) (hm : Malformed rest fault offset)
    (hc : c.unread = textOf stretches ++ rest) :
    c.tokens = .error ⟨fault, c.position.after (textOf stretches ++ rest.take offset)⟩ := by
  have hbehind : (c.skip (textOf stretches).length).unread = rest := by
    rw [Cursor.skip_unread, hc, List.drop_left]
  have hne : (c.skip (textOf stretches).length).unread ≠ [] := by
    rw [hbehind]
    exact hm.ne_nil
  rw [Cursor.tokens_of_splits h hc, Cursor.tokens_of_fault hne (hm.next_eq hbehind),
    Cursor.skip_position, Cursor.skip_position_of_append hc, hbehind, Position.after_append]
  rfl

/-- Reading succeeds exactly if stretches reach the end of the text. -/
theorem Cursor.tokens_eq_ok_iff {c : Cursor} {tokens : TokenList} :
    c.tokens = .ok tokens ↔
      ∃ stretches, c.unread = textOf stretches ∧ Splits stretches [] ∧
        tokens = tokensOf c.position stretches ++ [endToken (c.position.after c.unread)] := by
  constructor
  · intro h
    obtain ⟨stretches, rest, hc, hs, rfl | ⟨fault, offset, hm⟩⟩ := exists_split c.unread
    · rw [List.append_nil] at hc
      rw [Cursor.tokens_of_splits_end hs hc] at h
      exact ⟨stretches, hc, hs, (Except.ok.inj h).symm⟩
    · -- with a fault ahead there are no tokens
      rw [Cursor.tokens_of_splits_malformed hs hm hc] at h
      cases h
  · rintro ⟨stretches, hc, hs, rfl⟩
    exact Cursor.tokens_of_splits_end hs hc

/-- Reading fails exactly if stretches reach a fault. -/
theorem Cursor.tokens_eq_error_iff {c : Cursor} {failure : LexicalFailure} :
    c.tokens = .error failure ↔
      ∃ stretches rest fault offset, c.unread = textOf stretches ++ rest ∧
        Splits stretches rest ∧ Malformed rest fault offset ∧
        failure = ⟨fault, c.position.after (textOf stretches ++ rest.take offset)⟩ := by
  constructor
  · intro h
    obtain ⟨stretches, rest, hc, hs, rfl | ⟨fault, offset, hm⟩⟩ := exists_split c.unread
    · rw [List.append_nil] at hc
      rw [Cursor.tokens_of_splits_end hs hc] at h
      cases h
    · rw [Cursor.tokens_of_splits_malformed hs hm hc] at h
      exact ⟨stretches, rest, fault, offset, hc, hs, hm, (Except.error.inj h).symm⟩
  · rintro ⟨stretches, rest, fault, offset, hc, hs, hm, rfl⟩
    exact Cursor.tokens_of_splits_malformed hs hm hc

end Splits

end FrontEnd
