/-
FrontEnd/Proofs/LineBreaks.lean

Texts that are joined at a line break are read one after the other.

Let `source` be readable and `more` any text.  Then `source`, a newline and `more` are
read as the tokens of `source` and whatever `more` is read as, that many lines further
down (`tokenize_append_newline`).  Two facts carry this:

* a newline continues no lexeme, so what has been split up to the end of its text
  still splits with a newline behind it (`Splits.append_newline`);
* reading depends on where it starts only through the places that it gives, and
  starting on a later line moves all of them alike (`Cursor.tokens_down`).

A space in place of the newline would not do: it does not end a line comment.
-/
import Mathlib.Control.Monad.Basic
import FrontEnd.Proofs.Lines
import FrontEnd.Proofs.Reading

namespace FrontEnd

/-! ### A newline continues nothing -/

section AppendNewline

variable {text rest : List Char} (more : List Char)

theorem startsWith_append_newline {p : Char → Bool} (hp : p '\n' = false)
    (h : startsWith p rest = false) : startsWith p (rest ++ '\n' :: more) = false := by
  cases rest with
  | nil => exact hp
  | cons c rest => exact h

theorem not_fractionAhead_append_newline (h : ¬ FractionAhead rest) :
    ¬ FractionAhead (rest ++ '\n' :: more) := by
  rintro ⟨tail, he, hd⟩
  cases rest with
  | nil => exact absurd (List.cons.inj he).1 (by decide)
  | cons c rest =>
    rw [List.cons_append] at he
    obtain ⟨rfl, rfl⟩ := List.cons.inj he
    have hrest : startsWith Char.isDigit rest = false :=
      Bool.eq_false_iff.2 fun hrest => h ⟨rest, rfl, hrest⟩
    rw [startsWith_append_newline more (by decide) hrest] at hd
    cases hd

theorem IsTrivia.append_newline (h : IsTrivia text rest) :
    IsTrivia text (rest ++ '\n' :: more) := by
  cases h with
  | blank hb => exact .blank hb
  | lineComment hbody hrest =>
    refine .lineComment hbody (.inr ?_)
    rcases hrest with rfl | hrest
    · rfl
    · obtain ⟨c, tail, rfl, hc⟩ := exists_cons_of_startsWith hrest
      simpa using hc
  | blockComment hbody => exact .blockComment hbody

theorem IsLexeme.append_newline {kind : Kind} {value : Option String}
    (h : IsLexeme text rest kind value) : IsLexeme text (rest ++ '\n' :: more) kind value := by
  -- the rules look at most at the next character, and a newline goes on with no lexeme
  have hpart : isNamePart '\n' = false := by decide +kernel
  have hletter : isLetter '\n' = false := by decide +kernel
  cases h with
  | keyword hw hs hk => exact .keyword hw (startsWith_append_newline more hpart hs) hk
  | identifier hw hs hk => exact .identifier hw (startsWith_append_newline more hpart hs) hk
  | number hn hs hl =>
    have hdigit := startsWith_append_newline more (by decide) hs.1
    have hfraction := fun hdot => not_fractionAhead_append_newline more (hs.2 hdot)
    exact .number hn ⟨hdigit, hfraction⟩ (startsWith_append_newline more hletter hl)
  | stringLiteral hw => exact .stringLiteral hw
  | characterLiteral hw => exact .characterLiteral hw
  | @logical c _ mark hc hp hs =>
    have hne : ('\n' == c) = false := beq_eq_false_iff_ne.2 (ne_of_class hc (by decide)).symm
    exact .logical hc hp (startsWith_append_newline more hne hs)
  | pair hc hp => exact .pair hc hp
  | @single c _ mark hm hp hs =>
    have hpair : (Punctuator.pair? c '\n').isSome = false := by
      rw [pair?_eq_none_of_not_isSymbol (by decide)]
      rfl
    refine .single hm (startsWith_append_newline more hpair hp) fun hc => ?_
    exact startsWith_append_newline more (by decide) (hs hc)

/-- Stretches still fit when a newline and more text come behind them. -/
theorem Splits.append_newline {stretches : List Stretch} (h : Splits stretches rest) :
    Splits stretches (rest ++ '\n' :: more) := by
  induction stretches with
  | nil => trivial
  | cons stretch stretches ih =>
    refine ⟨?_, ih h.2⟩
    have hfits := h.1
    rw [← List.append_assoc]
    cases stretch with
    | trivia text => exact IsTrivia.append_newline more hfits
    | lexeme text kind value => exact IsLexeme.append_newline more hfits

/-- The newline itself is a stretch of its own. -/
theorem Splits.concat_newline {stretches : List Stretch} (h : Splits stretches []) :
    Splits (stretches ++ [.trivia ['\n']]) more := by
  refine splits_append.2 ⟨?_, ?_, trivial⟩
  · exact h.append_newline more
  · exact IsTrivia.blank (by decide)

end AppendNewline

/-! ### Moving a text down -/

/-- The same column, so many lines further down. -/
def Position.down (p : Position) (lines : Nat) : Position := ⟨p.line + lines, p.column⟩

/-- The same token, so many lines further down. -/
def Token.down (token : Token) (lines : Nat) : Token :=
  { token with position := token.position.down lines }

/-- The same fault, so many lines further down. -/
def LexicalFailure.down (failure : LexicalFailure) (lines : Nat) : LexicalFailure :=
  { failure with position := failure.position.down lines }

section Down

variable (lines : Nat)

theorem advance_down (p : Position) (c : Char) :
    (p.down lines).advance c = (p.advance c).down lines := by
  unfold Position.advance
  split
  · show Position.mk (p.line + lines + 1) 0 = Position.mk (p.line + 1 + lines) 0
    rw [Nat.add_right_comm]
  · rfl

theorem after_down (p : Position) (text : List Char) :
    (p.down lines).after text = (p.after text).down lines := by
  induction text generalizing p with
  | nil => rfl
  | cons c text ih => rw [Position.after_cons, Position.after_cons, advance_down, ih]

theorem tokensOf_down (p : Position) (stretches : List Stretch) :
    tokensOf (p.down lines) stretches = (tokensOf p stretches).map (·.down lines) := by
  induction stretches generalizing p with
  | nil => rfl
  | cons stretch stretches ih =>
    cases stretch with
    | trivia text => rw [tokensOf, after_down, ih, tokensOf]
    | lexeme text kind value =>
      rw [tokensOf, after_down, ih, tokensOf, List.map_cons]
      rfl

/-- Reading that starts on a later line gives the same on later lines. -/
theorem Cursor.tokens_down {c d : Cursor} (hu : d.unread = c.unread)
    (hp : d.position = c.position.down lines) :
    d.tokens = (c.tokens.map (List.map (·.down lines))).mapError (·.down lines) := by
  -- how a text splits does not depend on where it stands
  obtain ⟨stretches, rest, hc, hs, rfl | ⟨fault, offset, hm⟩⟩ := exists_split c.unread
  · rw [List.append_nil] at hc
    rw [Cursor.tokens_of_splits_end hs hc, Cursor.tokens_of_splits_end hs (hu.trans hc), hp, hu,
      tokensOf_down, after_down]
    simp only [Except.map, Except.mapError, List.map_append]
    rfl
  · rw [Cursor.tokens_of_splits_malformed hs hm hc,
      Cursor.tokens_of_splits_malformed hs hm (hu.trans hc), hp, after_down]
    rfl

end Down

/-! ### Joined texts -/

section Join

variable {source : String} {tokens : TokenList}

/-- Behind a text and a newline, a line starts. -/
theorem start_after_newline (text : List Char) :
    Position.start.after (text ++ ['\n']) = Position.start.down (text.count '\n' + 1) := by
  rw [Position.after_append, Position.after_cons, Position.after_nil, Position.advance,
    if_pos rfl, after_line]
  rfl

/-- Reading goes through the first text and on to the second. -/
theorem scan_append_newline (h : scan source = .ok tokens) (more : String) :
    scan (source ++ "\n" ++ more) =
      ((scan more).map fun others =>
        tokens.dropLast ++ others.map (·.down (source.toList.count '\n' + 1))).mapError
          (·.down (source.toList.count '\n' + 1)) := by
  obtain ⟨stretches, hsource, hs, rfl⟩ := scan_eq_ok_iff.1 h
  let front := stretches ++ [Stretch.trivia ['\n']]
  let c := Cursor.ofText (source ++ "\n" ++ more).toList
  have hfront : textOf front = source.toList ++ ['\n'] := by
    rw [textOf_append, ← hsource]
    rfl
  have hc : c.unread = textOf front ++ more.toList := by
    rw [hfront]
    simp [c, Cursor.ofText]
  have hunread : (c.skip (textOf front).length).unread = more.toList := by
    rw [Cursor.skip_unread, hc, List.drop_left]
  have hposition : (c.skip (textOf front).length).position =
      (Cursor.ofText more.toList).position.down (source.toList.count '\n' + 1) := by
    rw [Cursor.skip_position_of_append hc, hfront]
    exact start_after_newline source.toList
  have htokens : tokensOf c.position front = tokensOf .start stretches := by
    rw [tokensOf_append]
    exact List.append_nil _
  -- the first text gives its tokens, and the second is read from the line behind it
  have hread := Cursor.tokens_of_splits (hs.concat_newline more.toList) hc
  rw [Cursor.tokens_down (source.toList.count '\n' + 1) hunread hposition, htokens] at hread
  rw [List.dropLast_concat]
  refine hread.trans ?_
  show _ = ((Cursor.ofText more.toList).tokens.map _).mapError _
  cases (Cursor.ofText more.toList).tokens with
  | error failure => rfl
  | ok others => rfl

end Join

/-- **Reading is compositional at line breaks.**  Behind a text that can be read and a newline,
another text gives what it gives by itself, so many lines further down. -/
theorem tokenize_append_newline {source file : String} {before : Nat} {tokens : TokenList}
    (h : tokenize source file before = .ok tokens) (more : String) :
    (∃ finish, tokens = tokens.dropLast ++ [endToken finish]) ∧
      (∀ others, tokenize more file before = .ok others →
        tokenize (source ++ "\n" ++ more) file before =
          .ok (tokens.dropLast ++ others.map (·.down (source.toList.count '\n' + 1)))) ∧
      ∀ d, tokenize more file before = .error d →
        tokenize (source ++ "\n" ++ more) file before =
          .error { d with
            location :=
              { d.location with line := d.location.line + (source.toList.count '\n' + 1) }
            context := (LineIndex.ofText (source ++ "\n" ++ more)).window
              (d.location.line + (source.toList.count '\n' + 1)) before } := by
  have hscan := tokenize_eq_ok_iff.1 h
  have hjoined := scan_append_newline hscan more
  refine ⟨?_, ?_, ?_⟩
  · obtain ⟨stretches, -, -, rfl⟩ := scan_eq_ok_iff.1 hscan
    exact ⟨_, by rw [List.dropLast_concat]⟩
  · intro others hothers
    rw [tokenize_eq_ok_iff.1 hothers] at hjoined
    exact tokenize_of_scan_ok hjoined
  · intro d hd
    obtain ⟨failure, hfailure, rfl⟩ := tokenize_eq_error_iff.1 hd
    rw [hfailure] at hjoined
    exact tokenize_of_scan_error hjoined

/-- A line comment ends at the break.  What follows is read by itself, or fails by itself. -/
theorem tokenize_append_newline_comment :
    tokenize "a;\n//&" "m.k" 1 =
        .ok [⟨.identifier, some "a", ⟨1, 1⟩⟩, ⟨.punctuator .semicolon, none, ⟨1, 2⟩⟩,
          ⟨.eof, none, ⟨2, 3⟩⟩] ∧
      tokenize ("a;\n//&" ++ "\n" ++ "/=") "m.k" 1 =
        .ok [⟨.identifier, some "a", ⟨1, 1⟩⟩, ⟨.punctuator .semicolon, none, ⟨1, 2⟩⟩,
          ⟨.punctuator .division, none, ⟨3, 1⟩⟩, ⟨.punctuator .assignment, none, ⟨3, 2⟩⟩,
          ⟨.eof, none, ⟨3, 2⟩⟩] ∧
      tokenize ("a;\n//&" ++ "\n" ++ "\n&") "m.k" 1 =
        .error ((Fault.operatorRun '&' 1).diagnostic ⟨"m.k", 4, 0⟩ ["", "&"]) := by
  have h : tokenize "a;\n//&" "m.k" 1 =
      .ok [⟨.identifier, some "a", ⟨1, 1⟩⟩, ⟨.punctuator .semicolon, none, ⟨1, 2⟩⟩,
        ⟨.eof, none, ⟨2, 3⟩⟩] := by
    decide +kernel
  have hread : tokenize "/=" "m.k" 1 =
      .ok [⟨.punctuator .division, none, ⟨1, 1⟩⟩, ⟨.punctuator .assignment, none, ⟨1, 2⟩⟩,
        ⟨.eof, none, ⟨1, 2⟩⟩] := by
    decide +kernel
  have hfault : tokenize "\n&" "m.k" 1 =
      .error ((Fault.operatorRun '&' 1).diagnostic ⟨"m.k", 2, 0⟩ ["", "&"]) := by
    decide +kernel
  refine ⟨h, ?_, ?_⟩
  · exact (tokenize_append_newline h "/=").2.1 _ hread
  · exact (tokenize_append_newline h "\n&").2.2 _ hfault

end FrontEnd
