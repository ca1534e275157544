/-
FrontEnd/Proofs/Places.lean

Where the tokens of a text stand.

A token holds the place *behind* its lexeme, counted while the text was read.  Here
that place is compared with the line index, which cuts the whole text at once:
on the line that the token names, the lexeme is what ends at the token's column
(`Placed.Faithful`).  The one property of the grammar behind it is that no lexeme
goes past the end of a line (`IsLexeme.newline_not_mem`).  Comments do, so the order of
two tokens (`Placed.Precedes`) goes through whatever stands between them.

A text splits in one way only (`Splits.unique`), so the lexeme of a token is well
defined.  Main result: `exists_placement`.
-/
import FrontEnd.Proofs.Anchors

namespace FrontEnd

/-! ### What a lexeme shows of its token -/

section Lexeme

variable {text rest : List Char} {kind : Kind} {value : Option String}

theorem Writes.newline_not_mem_quoted {quote : Char} {payload : List Char}
    (hq : quote ≠ '\n') (h : Writes quote payload text) :
    '\n' ∉ quote :: (text ++ [quote]) := by
  have htext := h.newline_not_mem hq
  simp [htext, hq.symm]

theorem Punctuator.newline_not_mem_spelling (mark : Punctuator) :
    '\n' ∉ mark.spelling.toList := by
  intro hm
  have hs := mark.isSymbol_of_mem_spelling hm
  exact absurd hs (by decide)

/-- No lexeme goes past the end of a line. -/
theorem IsLexeme.newline_not_mem (h : IsLexeme text rest kind value) : '\n' ∉ text := by
  cases h with
  | keyword hw | identifier hw => exact hw.not_mem (by decide +kernel) (by decide +kernel)
  | number hn => exact hn.not_mem (by decide) (by decide)
  | stringLiteral hw => exact hw.newline_not_mem_quoted (by decide)
  | characterLiteral hw => exact hw.newline_not_mem_quoted (by decide)
  | @logical _ _ mark _ hp | @pair _ _ _ mark _ hp =>
    rw [← Punctuator.pair?_eq_some_iff.1 hp]
    exact mark.newline_not_mem_spelling
  | @single _ _ mark hm =>
    rw [← Punctuator.single?_eq_some_iff.1 hm]
    exact mark.newline_not_mem_spelling

/-- A lexeme has at least one character. -/
theorem IsLexeme.text_ne_nil (h : IsLexeme text rest kind value) : text ≠ [] := by
  have hfits : (Stretch.lexeme text kind value).Fits rest := h
  exact hfits.text_ne_nil

/-- A kind with a spelling is written so. -/
theorem IsLexeme.eq_spelling {spelling : String} (h : IsLexeme text rest kind value)
    (hs : kind.spelling? = some spelling) : text = spelling.toList := by
  cases h with
  | keyword _ _ hk =>
    obtain rfl := Option.some.inj hs
    exact (Keyword.ofWord?_eq_some_iff.1 hk).symm
  | logical _ hp | pair _ hp =>
    obtain rfl := Option.some.inj hs
    exact (Punctuator.pair?_eq_some_iff.1 hp).symm
  | single hm =>
    obtain rfl := Option.some.inj hs
    exact (Punctuator.single?_eq_some_iff.1 hm).symm
  | identifier | number | stringLiteral | characterLiteral => cases hs

/-- Names and numbers are their own value. -/
theorem IsLexeme.value_eq (h : IsLexeme text rest kind value)
    (hk : kind = .identifier ∨ kind = .number) : value = some (String.ofList text) := by
  cases h with
  | identifier | number => rfl
  | keyword | stringLiteral | characterLiteral | logical | pair | single =>
    rcases hk with hk | hk <;> cases hk

end Lexeme

/-! ### Lexemes in a text -/

/-- A lexeme where it stands: the text before it, its own text, and its token. -/
structure Placed where
  front : List Char
  text : List Char
  token : Token
deriving DecidableEq, Repr

/-- The place of the first character of a lexeme. -/
def Placed.start (p : Placed) : Position := Position.start.after p.front

/-- The lexemes among stretches that stand behind `front`, in order. -/
def placedOf (front : List Char) : List Stretch → List Placed
  | [] => []
  | .trivia text :: more => placedOf (front ++ text) more
  | .lexeme text kind value :: more =>
    ⟨front, text, ⟨kind, value, Position.start.after (front ++ text)⟩⟩ ::
      placedOf (front ++ text) more

/-- What a token tells of its lexeme is so in the lines of the source text. -/
structure Placed.Faithful (source : String) (p : Placed) : Prop where
  stands : ∃ behind, source.toList = p.front ++ p.text ++ behind
  on_one_line : '\n' ∉ p.text
  /-- The line is the one on which the lexeme stands. -/
  line_eq : p.token.position.line = p.front.count '\n' + 1
  length_le : p.text.length ≤ p.token.position.column
  /-- The lexeme is what ends at the column. -/
  ends_at_column : ∃ line,
    (LineIndex.ofText source).line? p.token.position.line = some line ∧
      p.token.position.column ≤ line.length ∧
      (line.toList.take p.token.position.column).drop
        (p.token.position.column - p.text.length) = p.text
  kind_ne_eof : p.token.kind ≠ .eof
  eq_spelling : ∀ spelling, p.token.kind.spelling? = some spelling → p.text = spelling.toList
  value_eq : p.token.kind = .identifier ∨ p.token.kind = .number →
    p.token.value = some (String.ofList p.text)

/-- One place lies before another: on an earlier line, or further left on the same line. -/
def Position.Before (p q : Position) : Prop :=
  p.line < q.line ∨ p.line = q.line ∧ p.column < q.column

/-- One lexeme is over before another begins. -/
structure Placed.Precedes (p q : Placed) : Prop where
  before : p.token.position.Before q.token.position
  /-- On one line, the second begins at the end of the first or behind it. -/
  apart : p.token.position.line = q.token.position.line →
    p.token.position.column + q.text.length ≤ q.token.position.column

/-! ### The tokens of stretches -/

section Placed

variable {stretches : List Stretch} {front : List Char} {p : Placed}

theorem map_token_placedOf (front : List Char) (stretches : List Stretch) :
    (placedOf front stretches).map Placed.token =
      tokensOf (Position.start.after front) stretches := by
  induction stretches generalizing front with
  | nil => rfl
  | cons stretch stretches ih =>
    cases stretch with
    | trivia text =>
      rw [placedOf, ih, tokensOf, Position.after_append]
    | lexeme text kind value =>
      rw [placedOf, List.map_cons, ih, tokensOf, Position.after_append]

/-- What stands before a lexeme starts with what stands before all of them. -/
theorem front_prefix_of_mem_placedOf (hp : p ∈ placedOf front stretches) : front <+: p.front := by
  induction stretches generalizing front with
  | nil => cases hp
  | cons stretch stretches ih =>
    cases stretch with
    | trivia text => exact (List.prefix_append front text).trans (ih hp)
    | lexeme text kind value =>
      rcases List.mem_cons.1 hp with rfl | hp
      · exact List.prefix_rfl
      · exact (List.prefix_append front text).trans (ih hp)

/-- The token of a lexeme is placed behind it, and the grammar allows the lexeme there. -/
theorem isLexeme_of_mem_placedOf {rest : List Char} (hs : Splits stretches rest)
    (hp : p ∈ placedOf front stretches) :
    p.token.position = Position.start.after (p.front ++ p.text) ∧
      ∃ behind, front ++ textOf stretches ++ rest = p.front ++ p.text ++ behind ∧
        IsLexeme p.text behind p.token.kind p.token.value := by
  induction stretches generalizing front with
  | nil => cases hp
  | cons stretch stretches ih =>
    have htext : front ++ textOf (stretch :: stretches) ++ rest =
        front ++ stretch.text ++ textOf stretches ++ rest := by
      rw [textOf_cons, ← List.append_assoc front]
    rw [htext]
    cases stretch with
    | trivia text => exact ih hs.2 hp
    | lexeme text kind value =>
      rcases List.mem_cons.1 hp with rfl | hp
      · exact ⟨rfl, textOf stretches ++ rest, List.append_assoc (front ++ text) _ _, hs.1⟩
      · exact ih hs.2 hp

/-- A lexeme stays on its line, so the place behind it is further right by its length. -/
theorem Placed.position_eq {behind : List Char}
    (hposition : p.token.position = Position.start.after (p.front ++ p.text))
    (h : IsLexeme p.text behind p.token.kind p.token.value) :
    p.token.position = ⟨p.start.line, p.start.column + p.text.length⟩ := by
  rw [hposition, Position.after_append]
  exact after_of_no_newline p.start h.newline_not_mem

/-! ### Faithful places -/

/-- The lexeme ends its line's part before the column, so it can be cut out there. -/
theorem faithful_of_isLexeme {source : String} {behind : List Char}
    (hposition : p.token.position = Position.start.after (p.front ++ p.text))
    (hsource : source.toList = p.front ++ p.text ++ behind)
    (h : IsLexeme p.text behind p.token.kind p.token.value) : p.Faithful source := by
  have hn := h.newline_not_mem
  have hlast : lastLine (p.front ++ p.text) = lastLine p.front ++ p.text := lastLine_append hn
  have hline := LineIndex.line?_ofText_after hsource
  have hcolumn : p.token.position.column = (lastLine p.front).length + p.text.length := by
    rw [hposition, after_start, hlast, List.length_append]
  have hnumber : p.token.position.line = p.front.count '\n' + 1 := by
    rw [hposition, after_start, List.count_append, List.count_eq_zero_of_not_mem hn,
      Nat.add_zero]
  refine ⟨⟨behind, hsource⟩, hn, hnumber, ?_, ⟨_, hposition ▸ hline, ?_, ?_⟩, h.kind_ne_eof,
    fun _ => h.eq_spelling, h.value_eq⟩
  · rw [hcolumn]
    exact Nat.le_add_left _ _
  · rw [String.length_ofList, hlast, List.length_append, List.length_append, hcolumn]
    exact Nat.le_add_right _ _
  · -- up to the column stand the text before the lexeme and the lexeme
    have htake : (lastLine p.front ++ p.text ++ firstLine behind).take
        ((lastLine p.front).length + p.text.length) = lastLine p.front ++ p.text := by
      rw [← List.length_append, List.take_left]
    rw [String.toList_ofList, hcolumn, hlast, htake, Nat.add_sub_cancel, List.drop_left]

/-! ### The order of places -/

/-- Text moves a place to a later line, or to the right by its length. -/
theorem after_line_lt_or (p : Position) (text : List Char) :
    p.line < (p.after text).line ∨ p.after text = ⟨p.line, p.column + text.length⟩ := by
  by_cases hn : '\n' ∈ text
  · have hcount := List.count_pos_iff.2 hn
    refine .inl ?_
    rw [after_line]
    omega
  · exact .inr (after_of_no_newline p hn)

/-- A lexeme precedes one that stands somewhere behind its end. -/
theorem precedes_of_prefix {q : Placed}
    (hp : p.token.position = Position.start.after (p.front ++ p.text))
    (hq : q.token.position = Position.start.after (q.front ++ q.text))
    (hpq : p.front ++ p.text <+: q.front) (hne : q.text ≠ []) : p.Precedes q := by
  obtain ⟨between, hfront⟩ := hpq
  have hlength := List.length_pos_iff.2 hne
  have hafter : q.token.position = p.token.position.after (between ++ q.text) := by
    rw [hq, hp, ← hfront, List.append_assoc, Position.after_append]
  -- a line break between the two settles it, or else in the second lexeme
  rcases after_line_lt_or p.token.position (between ++ q.text) with hlt | heq
  · rw [← hafter] at hlt
    exact ⟨.inl hlt, fun h => absurd h (Nat.ne_of_lt hlt)⟩
  · rw [← hafter] at heq
    have hcolumn : q.token.position.column =
        p.token.position.column + (between.length + q.text.length) := by
      rw [heq, List.length_append]
    have hline : q.token.position.line = p.token.position.line := by rw [heq]
    refine ⟨.inr ⟨hline.symm, ?_⟩, fun _ => ?_⟩
    · omega
    · omega

/-- What stands before a lexeme starts with all lexemes before it. -/
theorem pairwise_prefix_placedOf (front : List Char) (stretches : List Stretch) :
    (placedOf front stretches).Pairwise fun p q => p.front ++ p.text <+: q.front := by
  induction stretches generalizing front with
  | nil => exact .nil
  | cons stretch stretches ih =>
    cases stretch with
    | trivia text => exact ih (front ++ text)
    | lexeme text kind value =>
      exact .cons (fun q hq => front_prefix_of_mem_placedOf hq) (ih (front ++ text))

/-- The lexemes of a text stand one behind the other. -/
theorem pairwise_placedOf {rest : List Char} (hs : Splits stretches rest) :
    (placedOf front stretches).Pairwise Placed.Precedes := by
  refine (pairwise_prefix_placedOf front stretches).imp_of_mem fun {p q} hp hq hprefix => ?_
  obtain ⟨hposition, -⟩ := isLexeme_of_mem_placedOf hs hp
  obtain ⟨hposition', behind, -, hl⟩ := isLexeme_of_mem_placedOf hs hq
  exact precedes_of_prefix hposition hposition' hprefix hl.text_ne_nil

end Placed

/-! ### The places of a text -/

/-- The stretches into which a text splits, and its tokens where the lexemes stand. -/
structure Placement (source : String) (tokens : TokenList) (stretches : List Stretch) : Prop where
  text_eq : source.toList = textOf stretches
  splits : Splits stretches []
  /-- The text splits in no other way. -/
  unique : ∀ others, source.toList = textOf others → Splits others [] → others = stretches
  faithful : ∀ p ∈ placedOf [] stretches, p.Faithful source
  ordered : (placedOf [] stretches).Pairwise Placed.Precedes
  /-- Behind the tokens of the lexemes stands the end, at the end of the last line. -/
  tokens_eq : ∃ finish line,
    tokens = (placedOf [] stretches).map Placed.token ++ [endToken finish] ∧
      finish.line = (LineIndex.ofText source).count ∧
      (LineIndex.ofText source).line? finish.line = some line ∧
      finish.column = line.length

/-- **Tokens stand where their lexemes do.** -/
theorem exists_placement {source file : String} {before : Nat} {tokens : TokenList}
    (h : tokenize source file before = .ok tokens) :
    ∃ stretches, Placement source tokens stretches := by
  obtain ⟨stretches, hsource, hs, rfl⟩ := scan_eq_ok_iff.1 (tokenize_eq_ok_iff.1 h)
  refine ⟨stretches, hsource, hs, ?_, ?_, pairwise_placedOf hs, ?_⟩
  · intro others hothers hs'
    exact hs'.unique hs (hothers.symm.trans hsource)
  · intro p hp
    obtain ⟨hposition, behind, hbehind, hl⟩ := isLexeme_of_mem_placedOf hs hp
    rw [List.nil_append, List.append_nil, ← hsource] at hbehind
    exact faithful_of_isLexeme hposition hbehind hl
  · have hcut : source.toList = source.toList ++ [] := (List.append_nil _).symm
    have hline := LineIndex.line?_ofText_after hcut
    refine ⟨Position.start.after source.toList, _, ?_, ?_, hline, ?_⟩
    · rw [map_token_placedOf]
      rfl
    · rw [after_start, LineIndex.count_ofText]
    · rw [after_start, String.length_ofList]
      exact congrArg List.length (List.append_nil _).symm

/-- A string with an escape, and a number behind a comment that ends two lines further down. -/
theorem exists_placement_comment :
    tokenize "é=\"\\n\"/*\n\n*/\t1.5" "m.k" 2 =
        .ok [⟨.identifier, some "é", ⟨1, 1⟩⟩, ⟨.punctuator .assignment, none, ⟨1, 2⟩⟩,
          ⟨.stringLiteral, some "\n", ⟨1, 6⟩⟩, ⟨.number, some "1.5", ⟨3, 6⟩⟩,
          ⟨.eof, none, ⟨3, 6⟩⟩] ∧
      ∃ stretches, Placement "é=\"\\n\"/*\n\n*/\t1.5"
        [⟨.identifier, some "é", ⟨1, 1⟩⟩, ⟨.punctuator .assignment, none, ⟨1, 2⟩⟩,
          ⟨.stringLiteral, some "\n", ⟨1, 6⟩⟩, ⟨.number, some "1.5", ⟨3, 6⟩⟩,
          ⟨.eof, none, ⟨3, 6⟩⟩] stretches :=
  have h : tokenize "é=\"\\n\"/*\n\n*/\t1.5" "m.k" 2 =
      .ok [⟨.identifier, some "é", ⟨1, 1⟩⟩, ⟨.punctuator .assignment, none, ⟨1, 2⟩⟩,
        ⟨.stringLiteral, some "\n", ⟨1, 6⟩⟩, ⟨.number, some "1.5", ⟨3, 6⟩⟩,
        ⟨.eof, none, ⟨3, 6⟩⟩] := by
    decide +kernel
  ⟨h, exists_placement h⟩

end FrontEnd
