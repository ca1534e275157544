/-
FrontEnd/Proofs/Coverage.lean

Some rule of the grammar applies to every text that is not empty, so the next
piece is *exactly* the one that the grammar describes (`Piece.next_eq_iff`).

A text is cut where the lexeme that it starts with has to stop: behind a word, a
numeral or a run (`exists_word_cut`, `exists_numeral_cut`, `exists_run_cut`), or
where a literal cannot be read on.  What stands behind the cut decides which rule
it is.  No reader occurs in this; that the rules exclude each other follows because
each of them determines the next piece.
-/
import FrontEnd.Proofs.Pieces

namespace FrontEnd

/-! ### Pieces that fit a text -/

/-- What a piece says about the text that it is read from. -/
def Piece.Fits : Piece → List Char → Prop
  | .trivia length, text =>
    ∃ front rest, text = front ++ rest ∧ front.length = length ∧ IsTrivia front rest
  | .lexeme kind value length, text =>
    ∃ front rest, text = front ++ rest ∧ front.length = length ∧ IsLexeme front rest kind value
  | .fault reason offset, text => Malformed text reason offset

theorem Piece.next_eq_of_fits {c : Cursor} {piece : Piece} (h : piece.Fits c.unread) :
    Piece.next c = piece := by
  cases piece with
  | trivia length =>
    obtain ⟨front, rest, hc, rfl, ht⟩ := h
    exact ht.next_eq hc
  | lexeme kind value length =>
    obtain ⟨front, rest, hc, rfl, hl⟩ := h
    exact hl.next_eq hc
  | fault fault offset => exact h.next_eq rfl

section Cuts

variable {x : Char} {text : List Char}

theorem IsTrivia.exists_fits {front rest : List Char} (h : IsTrivia front rest) :
    ∃ piece : Piece, piece.Fits (front ++ rest) :=
  ⟨.trivia front.length, front, rest, rfl, rfl, h⟩

theorem IsLexeme.exists_fits {front rest : List Char} {kind : Kind} {value : Option String}
    (h : IsLexeme front rest kind value) : ∃ piece : Piece, piece.Fits (front ++ rest) :=
  ⟨.lexeme kind value front.length, front, rest, rfl, rfl, h⟩

theorem Malformed.exists_fits {fault : Fault} {offset : Nat} (h : Malformed text fault offset) :
    ∃ piece : Piece, piece.Fits text :=
  ⟨.fault fault offset, h⟩

/-! ### Cutting behind a class of characters -/

/-- A text is cut behind the characters of a class that it begins with. -/
theorem exists_class_cut (p : Char → Bool) (text : List Char) :
    ∃ front rest, text = front ++ rest ∧ (∀ c ∈ front, p c = true) ∧
      startsWith p rest = false :=
  ⟨text.takeWhile p, text.dropWhile p, List.takeWhile_append_dropWhile.symm,
    List.all_eq_true.1 List.all_takeWhile, startsWith_dropWhile⟩

theorem exists_word_cut (hx : isNameStart x = true)
    (hd : x = '$' → startsWith mayFollowDollar text = true) :
    ∃ word rest, x :: text = word ++ rest ∧ IsWord word ∧ startsWith isNamePart rest = false := by
  obtain ⟨tail, rest, rfl, ht, hs⟩ := exists_class_cut isNamePart text
  refine ⟨x :: tail, rest, rfl, ⟨hx, ht, fun hdollar => ?_⟩, hs⟩
  obtain ⟨d, more, he, hm⟩ := exists_cons_of_startsWith (hd hdollar)
  cases tail with
  | nil =>
    -- the word cannot stop here: what may follow the dollar sign belongs to it
    obtain rfl : rest = d :: more := he
    simp only [startsWith_cons, isNamePart_eq_false_iff] at hs
    simp [mayFollowDollar, hs.1, hs.2.2] at hm
  | cons y tail =>
    obtain ⟨rfl, -⟩ := List.cons.inj he
    simpa using hm

theorem exists_digits_cut (hx : x.isDigit = true) (text : List Char) :
    ∃ digits rest, x :: text = digits ++ rest ∧ IsDigits digits ∧
      startsWith Char.isDigit rest = false := by
  obtain ⟨tail, rest, rfl, ht, hs⟩ := exists_class_cut Char.isDigit text
  refine ⟨x :: tail, rest, rfl, ⟨List.cons_ne_nil _ _, ?_⟩, hs⟩
  rintro d (_ | ⟨_, hd⟩)
  · exact hx
  · exact ht d hd

theorem exists_numeral_cut (hx : x.isDigit = true) (text : List Char) :
    ∃ numeral rest, x :: text = numeral ++ rest ∧ IsNumeral numeral ∧
      NumeralStops numeral rest := by
  obtain ⟨digits, rest, he, hd, hs⟩ := exists_digits_cut hx text
  -- a point belongs to the numeral only if a digit stands behind it
  by_cases hf : FractionAhead rest
  · obtain ⟨more, rfl, hm⟩ := hf
    obtain ⟨y, ys, rfl, hy⟩ := exists_cons_of_startsWith hm
    obtain ⟨fraction, rest, he', hfr, hs'⟩ := exists_digits_cut hy ys
    refine ⟨digits ++ '.' :: fraction, rest, ?_, .fraction hd hfr, hs', ?_⟩
    · rw [he, he', List.append_assoc, List.cons_append]
    · intro hdot
      exact absurd (List.mem_append_right digits List.mem_cons_self) hdot
  · exact ⟨digits, rest, he, .whole hd, hs, fun _ => hf⟩

theorem exists_run_cut (x : Char) (text : List Char) :
    ∃ n rest, x :: text = List.replicate (n + 1) x ++ rest ∧
      startsWith (· == x) rest = false := by
  obtain ⟨run, rest, rfl, hr, hs⟩ := exists_class_cut (· == x) text
  have hrun : run = List.replicate run.length x :=
    List.eq_replicate_of_mem fun y hy => by simpa using hr y hy
  refine ⟨run.length, rest, ?_, hs⟩
  rw [List.replicate_succ, List.cons_append, ← hrun]

/-! ### Every text fits, by its first character -/

theorem exists_fits_of_doubleQuote (text : List Char) :
    ∃ piece : Piece, piece.Fits ('"' :: text) := by
  obtain ⟨payload, body, rest, rfl, hw, hs⟩ := exists_string_cut text
  cases hs with
  | @close rest =>
    have hlexeme : IsLexeme _ rest _ _ := .stringLiteral hw
    simpa using hlexeme.exists_fits
  | lineBreak => exact (Malformed.stringLineBreak hw).exists_fits
  | endOfText => exact (Malformed.stringOpen hw (.inl rfl)).exists_fits
  | lastBackslash => exact (Malformed.stringOpen hw (.inr rfl)).exists_fits
  | badEscape hc => exact (Malformed.stringEscape hw hc).exists_fits

/-- Behind the one character of a character literal stands a quote, more text before a quote on
the line, or no quote on the line. -/
theorem exists_fits_of_character {c : Char} {body : List Char} (hw : Writes '\'' [c] body)
    (text : List Char) : ∃ piece : Piece, piece.Fits ('\'' :: (body ++ text)) := by
  obtain ⟨extra, rest, rfl, he, hs⟩ := exists_class_cut (fun d => d != '\'' && d != '\n') text
  have hq : '\'' ∉ extra := fun h => by simpa using he _ h
  have hn : '\n' ∉ extra := fun h => by simpa using he _ h
  by_cases hclose : startsWith (· == '\'') rest = true
  · obtain ⟨d, more, rfl, hd⟩ := exists_cons_of_startsWith hclose
    obtain rfl : d = '\'' := by simpa using hd
    by_cases hextra : extra = []
    · subst hextra
      have hlexeme : IsLexeme _ more _ _ := .characterLiteral hw
      simpa using hlexeme.exists_fits
    · have hcrowded : Malformed ('\'' :: (body ++ extra ++ '\'' :: more)) _ _ :=
        .characterCrowded hw hextra hq hn
      simpa using hcrowded.exists_fits
  · -- no quote stopped the extra text, so the line or the text ends here
    have hline : startsWith (· != '\n') rest = false := by
      cases rest with
      | nil => rfl
      | cons d rest =>
        simp only [startsWith_cons, beq_iff_eq] at hclose
        simpa [hclose] using hs
    refine (Malformed.characterUnclosed hw ?_).exists_fits
    rwa [takeWhile_append_of_stop (all_ne_of_not_mem hn) hline]

theorem exists_fits_of_apostrophe (text : List Char) :
    ∃ piece : Piece, piece.Fits ('\'' :: text) := by
  cases text with
  | nil => exact (Malformed.characterOpen (.inl rfl)).exists_fits
  | cons c text =>
    by_cases hn : c = '\n'
    · exact (Malformed.characterOpen (.inr (.inr (by simp [hn])))).exists_fits
    by_cases hq : c = '\''
    · exact hq ▸ Malformed.characterEmpty.exists_fits
    by_cases hb : c = '\\'
    · subst hb
      cases text with
      | nil => exact (Malformed.characterOpen (.inr (.inl rfl))).exists_fits
      | cons letter text =>
        rcases escapes_or_not '\'' letter with ⟨d, hd⟩ | hd
        · exact exists_fits_of_character (.escape hd .nil) text
        · exact (Malformed.characterEscape hd).exists_fits
    · exact exists_fits_of_character (.plain hq hb hn .nil) text

theorem exists_fits_of_logical (hx : isLogical x = true) (text : List Char) :
    ∃ piece : Piece, piece.Fits (x :: text) := by
  obtain ⟨n, rest, he, hs⟩ := exists_run_cut x text
  rw [he]
  by_cases hn : n + 1 = 2
  · obtain rfl : n = 1 := by omega
    exact (IsLexeme.logical hx (pair?_of_isLogical hx) hs).exists_fits
  · exact (Malformed.operatorRun hx (Nat.succ_pos n) hn hs).exists_fits

theorem exists_fits_of_nameStart (hx : isNameStart x = true) (text : List Char) :
    ∃ piece : Piece, piece.Fits (x :: text) := by
  by_cases hdollar : x = '$' ∧ startsWith mayFollowDollar text = false
  · obtain ⟨rfl, hs⟩ := hdollar
    exact (Malformed.loneDollar hs).exists_fits
  · obtain ⟨word, rest, he, hw, hs⟩ :=
      exists_word_cut hx fun h => by simpa [h] using hdollar
    rw [he]
    rcases hk : Keyword.ofWord? word with - | keyword
    · exact (IsLexeme.identifier hw hs hk).exists_fits
    · exact (IsLexeme.keyword hw hs hk).exists_fits

theorem exists_fits_of_digit (hx : x.isDigit = true) (text : List Char) :
    ∃ piece : Piece, piece.Fits (x :: text) := by
  obtain ⟨numeral, rest, he, hn, hs⟩ := exists_numeral_cut hx text
  rw [he]
  rcases hl : startsWith isLetter rest with - | -
  · exact (IsLexeme.number hn hs hl).exists_fits
  · obtain ⟨suffix, rest, rfl, hp, hs'⟩ := exists_class_cut isNamePart rest
    -- a letter is a name character, so the suffix holds it
    have hsuffix : startsWith isLetter suffix = true := by
      cases suffix with
      | nil =>
        obtain ⟨y, more, rfl, hy⟩ := exists_cons_of_startsWith hl
        simp [isNamePart, hy] at hs'
      | cons y suffix => simpa using hl
    exact (Malformed.numberSuffix hn hsuffix hp hs').exists_fits

theorem exists_fits_of_slash (text : List Char) : ∃ piece : Piece, piece.Fits ('/' :: text) := by
  by_cases hopens : startsWith opensComment text = true
  · obtain ⟨d, more, rfl, hd⟩ := exists_cons_of_startsWith hopens
    have hd' : d = '/' ∨ d = '*' := by simpa [opensComment] using hd
    rcases hd' with rfl | rfl
    · obtain ⟨body, rest, rfl, hb, hs⟩ := exists_class_cut (· != '\n') more
      refine (IsTrivia.lineComment (fun h => by simpa using hb _ h) ?_).exists_fits
      cases rest with
      | nil => exact .inl rfl
      | cons y rest => exact .inr (by simpa using hs)
    · rcases exists_comment_cut more with hopen | ⟨body, rest, rfl, hb⟩
      · exact (Malformed.commentOpen hopen).exists_fits
      · have hcomment : IsTrivia _ rest := .blockComment hb
        simpa using hcomment.exists_fits
  · have hdivision : Punctuator.single? '/' = some .division := by decide +kernel
    refine (IsLexeme.single hdivision ?_ ?_).exists_fits
    · cases text with
      | nil => rfl
      | cons d text => simp [pair?_slash]
    · exact fun _ => by simpa using hopens

/-- A character that begins no comment, name, literal or logical operator: an operator of one
or two characters, or nothing. -/
theorem exists_fits_of_other (hb : isBlank x = false) (hq : x ≠ '"') (ha : x ≠ '\'')
    (hs : x ≠ '/') (hl : isLogical x = false) (hn : isNameStart x = false)
    (hd : x.isDigit = false) (text : List Char) : ∃ piece : Piece, piece.Fits (x :: text) := by
  by_cases hp : startsWith (fun d => (Punctuator.pair? x d).isSome) text = true
  · obtain ⟨d, rest, rfl, hd⟩ := exists_cons_of_startsWith hp
    obtain ⟨mark, hm⟩ := Option.isSome_iff_exists.1 hd
    exact (IsLexeme.pair hl hm).exists_fits
  · rcases hm : Punctuator.single? x with - | mark
    · exact (Malformed.strayCharacter hb hn hd hq ha hl hm).exists_fits
    · exact (IsLexeme.single hm (by simpa using hp) fun h => absurd h hs).exists_fits

end Cuts

/-- Some rule applies to every text that is not empty. -/
theorem Piece.exists_fits {text : List Char} (h : text ≠ []) :
    ∃ piece : Piece, piece.Fits text := by
  obtain ⟨x, text, rfl⟩ := List.exists_cons_of_ne_nil h
  by_cases hb : isBlank x = true
  · exact (IsTrivia.blank hb).exists_fits
  by_cases hq : x = '"'
  · exact hq ▸ exists_fits_of_doubleQuote text
  by_cases ha : x = '\''
  · exact ha ▸ exists_fits_of_apostrophe text
  by_cases hs : x = '/'
  · exact hs ▸ exists_fits_of_slash text
  by_cases hl : isLogical x = true
  · exact exists_fits_of_logical hl text
  by_cases hn : isNameStart x = true
  · exact exists_fits_of_nameStart hn text
  by_cases hd : x.isDigit = true
  · exact exists_fits_of_digit hd text
  · simp only [Bool.not_eq_true] at hb hl hn hd
    exact exists_fits_of_other hb hq ha hs hl hn hd text

/-- **The next piece is the one that the grammar describes.** -/
theorem Piece.next_eq_iff {c : Cursor} {piece : Piece} (hc : c.unread ≠ []) :
    Piece.next c = piece ↔ piece.Fits c.unread := by
  constructor
  · rintro rfl
    obtain ⟨piece, hp⟩ := Piece.exists_fits hc
    rwa [Piece.next_eq_of_fits hp]
  · exact Piece.next_eq_of_fits

end FrontEnd
