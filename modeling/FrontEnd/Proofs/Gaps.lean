/-
FrontEnd/Proofs/Gaps.lean

Where a missing token is reported.

An expected token belongs in the gap between the token that was read last and the one
that stands there instead.  Seen from the text, a gap is what lies between two
lexemes: the second starts behind the end of the first, with whatever trivia in between
(`pairwise_prefix_withEnd`).  The end of the text counts as a lexeme without characters here
(`Placed.withEnd`), so that there is always a second one.

A token holds the place behind its lexeme, so the place of the token before is the very
start of the gap.  Where nothing has been read there is no such token, and the error takes
its place from the token that was found, which is behind the gap unless that is the end of
the text.  Main result: `expect_error_in_gap`.
-/
import FrontEnd.Proofs.Places
import FrontEnd.Proofs.TypeNames

namespace FrontEnd

/-! ### Before and behind -/

theorem Position.not_before_self (p : Position) : ¬ p.Before p := by
  rintro (hline | ⟨-, hcolumn⟩)
  · exact Nat.lt_irrefl _ hline
  · exact Nat.lt_irrefl _ hcolumn

/-- Text never leads back. -/
theorem Position.not_after_before (p : Position) (text : List Char) :
    ¬ (p.after text).Before p := by
  rcases after_line_lt_or p text with hlt | heq
  · rintro (hline | ⟨hline, -⟩)
    · exact Nat.lt_asymm hlt hline
    · exact Nat.ne_of_gt hlt hline
  · rw [heq]
    rintro (hline | ⟨-, hcolumn⟩)
    · exact Nat.lt_irrefl _ hline
    · exact absurd hcolumn (Nat.not_lt.2 (Nat.le_add_right _ _))

/-- A text on one line leads further on that line. -/
theorem Position.before_of_column_lt (p : Position) {n : Nat} (hn : 0 < n) :
    p.Before ⟨p.line, p.column + n⟩ :=
  .inr ⟨rfl, Nat.lt_add_of_pos_right hn⟩

/-! ### Lexemes up to the end -/

/-- The lexemes of a text and then its end, which has no characters. -/
def Placed.withEnd (stretches : List Stretch) : List Placed :=
  placedOf [] stretches ++
    [⟨textOf stretches, [], endToken (Position.start.after (textOf stretches))⟩]

section WithEnd

variable {stretches : List Stretch} {p q : Placed}

theorem map_token_withEnd (stretches : List Stretch) :
    (Placed.withEnd stretches).map Placed.token =
      tokensOf .start stretches ++ [endToken (Position.start.after (textOf stretches))] := by
  rw [Placed.withEnd, List.map_append, map_token_placedOf]
  rfl

/-- A token stands behind its lexeme, and only the end has no characters. -/
theorem position_of_mem_withEnd (hs : Splits stretches []) (hp : p ∈ Placed.withEnd stretches) :
    (p.token.kind = .eof ∧ p.token.position = p.start) ∨
      (p.token.kind ≠ .eof ∧ 0 < p.text.length ∧
        p.token.position = ⟨p.start.line, p.start.column + p.text.length⟩) := by
  rcases List.mem_append.1 hp with hp | hp
  · obtain ⟨hplace, behind, -, hl⟩ := isLexeme_of_mem_placedOf hs hp
    exact .inr ⟨hl.kind_ne_eof, List.length_pos_iff.2 hl.text_ne_nil, Placed.position_eq hplace hl⟩
  · obtain rfl := List.mem_singleton.1 hp
    exact .inl ⟨rfl, rfl⟩

theorem position_eq_after_of_mem_withEnd (hs : Splits stretches [])
    (hp : p ∈ Placed.withEnd stretches) :
    p.token.position = Position.start.after (p.front ++ p.text) := by
  rcases List.mem_append.1 hp with hp | hp
  · exact (isLexeme_of_mem_placedOf hs hp).1
  · obtain rfl := List.mem_singleton.1 hp
    show _ = Position.start.after (textOf stretches ++ [])
    rw [List.append_nil]
    rfl

/-- The text up to the end of a lexeme, and up to the end itself. -/
theorem prefix_textOf_of_mem_withEnd (hs : Splits stretches []) (hp : p ∈ Placed.withEnd stretches) :
    p.front ++ p.text <+: textOf stretches := by
  rcases List.mem_append.1 hp with hp | hp
  · obtain ⟨-, behind, htext, -⟩ := isLexeme_of_mem_placedOf hs hp
    rw [List.nil_append, List.append_nil] at htext
    exact ⟨behind, htext.symm⟩
  · obtain rfl := List.mem_singleton.1 hp
    exact ⟨[], by rw [List.append_nil, List.append_nil]⟩

/-- What stands before a lexeme, or before the end, starts with all lexemes before it. -/
theorem pairwise_prefix_withEnd (hs : Splits stretches []) :
    (Placed.withEnd stretches).Pairwise fun p q => p.front ++ p.text <+: q.front := by
  refine List.pairwise_append.2
    ⟨pairwise_prefix_placedOf [] stretches, List.pairwise_singleton _ _, fun p hp q hq => ?_⟩
  obtain rfl := List.mem_singleton.1 hq
  exact prefix_textOf_of_mem_withEnd hs (List.mem_append_left _ hp)

/-- A lexeme starts where the one before it ends, or behind. -/
theorem not_start_before_end (hs : Splits stretches []) {i : Nat}
    (hp : (Placed.withEnd stretches)[i]? = some p)
    (hq : (Placed.withEnd stretches)[i + 1]? = some q) : ¬ q.start.Before p.token.position := by
  obtain ⟨hi, rfl⟩ := List.getElem?_eq_some_iff.1 hp
  obtain ⟨hj, rfl⟩ := List.getElem?_eq_some_iff.1 hq
  -- what is between two lexemes leads from the end of one to the start of the other
  obtain ⟨between, hfront⟩ :=
    List.pairwise_iff_getElem.1 (pairwise_prefix_withEnd hs) i (i + 1) hi hj (Nat.lt_succ_self i)
  have hstart : (Placed.withEnd stretches)[i + 1].start =
      (Placed.withEnd stretches)[i].token.position.after between := by
    rw [position_eq_after_of_mem_withEnd hs (List.getElem_mem hi), Placed.start, ← hfront,
      Position.after_append]
  rw [hstart]
  exact Position.not_after_before _ between

end WithEnd

/-! ### The place of an error -/

namespace TokenStream

variable {s : TokenStream}

/-- The place behind the token that was read last, the start of the text if there is none. -/
def reached (s : TokenStream) : Position :=
  match (s.tokens.take s.index).getLast? with
  | some token => token.position
  | none => .start

theorem reached_of_zero (h : s.index = 0) : s.reached = .start := by
  rw [reached, h]
  rfl

theorem reached_of_succ {n : Nat} {token : Token} (h : s.index = n + 1)
    (htoken : s.tokens[n]? = some token) : s.reached = token.position := by
  have hlast : (s.tokens.take (n + 1)).getLast? = some token := by
    rw [List.take_add_one, htoken]
    exact List.getLast?_concat
  rw [reached, h, hlast]

/-- Where nothing has been read, the place is behind the token that was found. -/
theorem gap_of_zero {token : Token} (h : s.index = 0) (hpeek : s.peek = some token) :
    s.gap = token.position := by
  simp only [gap, h, hpeek]
  rfl

/-- Else the place is behind the token before. -/
theorem gap_of_succ {n : Nat} {token : Token} (h : s.index = n + 1)
    (htoken : s.tokens[n]? = some token) : s.gap = token.position := by
  simp only [gap, h, Nat.add_sub_cancel, htoken]
  rfl

end TokenStream

/-- What an error tells about a stream where `p` stands next: nothing was read, and how the place
of the error lies to the gap before `p`. -/
structure Unexpected.Located (u : Unexpected) (s : TokenStream) (kind : Kind) (p : Placed) :
    Prop where
  expect_eq : s.expect kind = (.error u, s)
  expected_eq : u.expected = kind
  found_eq : u.found = p.token.kind
  location_eq : ∀ label, (u.diagnostic label).location = Location.ofPosition label u.position
  /-- Behind a token the place is the end of that token. -/
  position_eq : 0 < s.index → u.position = s.reached
  not_before : ¬ u.position.Before s.reached
  /-- At the first token the place is behind it, unless it is the end of the text. -/
  not_behind_iff : ¬ p.start.Before u.position ↔ 0 < s.index ∨ p.token.kind = .eof

theorem Unexpected.location_diagnostic (u : Unexpected) (label : String) :
    (u.diagnostic label).location = Location.ofPosition label u.position := by
  unfold diagnostic
  by_cases hsemicolon : u.expected = .punctuator .semicolon
  · rw [if_pos hsemicolon]
    rfl
  · rw [if_neg hsemicolon]
    rfl

section Located

variable {stretches : List Stretch} {s : TokenStream} {kind : Kind} {p : Placed}

/-- At the first token the error is placed behind that token. -/
theorem located_of_zero (hs : Splits stretches [])
    (hp : (Placed.withEnd stretches)[s.index]? = some p) (hpeek : s.peek = some p.token)
    (hzero : s.index = 0) (hkind : s.peekKind ≠ kind) :
    Unexpected.Located ⟨kind, s.peekKind, s.gap⟩ s kind p := by
  have hfound : s.peekKind = p.token.kind := TokenStream.kindAhead_zero hpeek
  have hplace : s.gap = p.token.position := TokenStream.gap_of_zero hzero hpeek
  refine ⟨TokenStream.expect_of_peekKind_ne hkind, rfl, hfound,
    Unexpected.location_diagnostic _, fun hpos => ?_, ?_, ?_⟩
  · exact absurd hzero (Nat.ne_of_gt hpos)
  · show ¬ s.gap.Before s.reached
    rw [hplace, TokenStream.reached_of_zero hzero,
      position_eq_after_of_mem_withEnd hs (List.mem_of_getElem? hp)]
    exact Position.not_after_before _ _
  · show ¬ p.start.Before s.gap ↔ _
    rw [hplace, hzero]
    rcases position_of_mem_withEnd hs (List.mem_of_getElem? hp) with
      ⟨heof, hposition⟩ | ⟨heof, hlength, hposition⟩
    · rw [hposition]
      exact iff_of_true p.start.not_before_self (.inr heof)
    · rw [hposition]
      refine iff_of_false (not_not_intro (p.start.before_of_column_lt hlength)) ?_
      rintro (hpos | hkind)
      · exact Nat.lt_irrefl 0 hpos
      · exact heof hkind

/-- Behind a token the error is placed at its end, which is the start of the gap. -/
theorem located_of_pos (hs : Splits stretches [])
    (htokens : s.tokens = (Placed.withEnd stretches).map Placed.token)
    (hp : (Placed.withEnd stretches)[s.index]? = some p) (hpeek : s.peek = some p.token)
    (hpos : 0 < s.index) (hkind : s.peekKind ≠ kind) :
    Unexpected.Located ⟨kind, s.peekKind, s.gap⟩ s kind p := by
  have hfound : s.peekKind = p.token.kind := TokenStream.kindAhead_zero hpeek
  obtain ⟨n, hn⟩ := Nat.exists_eq_add_one.2 hpos
  rw [hn] at hp
  -- there is a lexeme before, since there is one here
  have hlt : n < (Placed.withEnd stretches).length :=
    Nat.lt_of_succ_lt (List.getElem?_eq_some_iff.1 hp).1
  have hq := List.getElem?_eq_getElem hlt
  have htoken : s.tokens[n]? = some (Placed.withEnd stretches)[n].token := by
    rw [htokens, List.getElem?_map, hq]
    rfl
  have hplace := TokenStream.gap_of_succ hn htoken
  have hreached := TokenStream.reached_of_succ hn htoken
  have hsame : s.gap = s.reached := hplace.trans hreached.symm
  refine ⟨TokenStream.expect_of_peekKind_ne hkind, rfl, hfound,
    Unexpected.location_diagnostic _, fun _ => hsame, ?_, iff_of_true ?_ (.inl hpos)⟩
  · show ¬ s.gap.Before s.reached
    rw [hsame]
    exact s.reached.not_before_self
  · show ¬ p.start.Before s.gap
    rw [hplace]
    exact not_start_before_end hs hq hp

/-- **A missing token is reported in the gap where it belongs**, as soon as a token has been read:
at the end of the last one.  Before the first token the report is behind that token. -/
theorem expect_error_in_gap {source file : String} {before : Nat} {tokens : TokenList}
    (h : tokenize source file before = .ok tokens) (steps : List StreamStep)
    (hkind : ((Reader.start tokens).run steps).stream.peekKind ≠ kind) :
    ∃ stretches p, ∃ u : Unexpected, source.toList = textOf stretches ∧ Splits stretches [] ∧
      tokens = (Placed.withEnd stretches).map Placed.token ∧
      (Placed.withEnd stretches)[((Reader.start tokens).run steps).stream.index]? = some p ∧
      u.Located ((Reader.start tokens).run steps).stream kind p := by
  have hended := ended_of_tokenize h
  have hwithin := ((Reader.within_start hended).run hended steps).stream
  obtain ⟨stretches, hsource, hs, htokens⟩ := scan_eq_ok_iff.1 (tokenize_eq_ok_iff.1 h)
  rw [hsource, ← map_token_withEnd] at htokens
  obtain ⟨token, hpeek, htoken⟩ := hwithin.exists_token
  generalize ((Reader.start tokens).run steps).stream = s at *
  rw [htokens, List.getElem?_map] at htoken
  -- a stream that was reached has a token ahead, and each token is that of a lexeme or the end
  obtain ⟨p, hp, rfl⟩ := Option.map_eq_some_iff.1 htoken
  have hlocated : Unexpected.Located ⟨kind, s.peekKind, s.gap⟩ s kind p := by
    rcases Nat.eq_zero_or_pos s.index with hzero | hpos
    · exact located_of_zero hs hp hpeek hzero hkind
    · exact located_of_pos hs (hwithin.tokens_eq.trans htokens) hp hpeek hpos hkind
  exact ⟨stretches, p, _, hsource, hs, htokens, hp, hlocated⟩

end Located

/-- A semicolon is missing before a comment that ends on the next line. -/
theorem expect_error_in_gap_comment :
    let tokens : TokenList := [⟨.identifier, some "x", ⟨1, 1⟩⟩, ⟨.identifier, some "y", ⟨2, 4⟩⟩,
      ⟨.eof, none, ⟨2, 4⟩⟩]
    let s := ((Reader.start tokens).run [.read .advance]).stream
    tokenize "x /*\n*/ y" "a.k" 2 = .ok tokens ∧ s.peekKind ≠ .punctuator .semicolon ∧
      ∃ (p : Placed) (u : Unexpected), u.Located s (.punctuator .semicolon) p ∧
        u.position = ⟨1, 1⟩ ∧ ¬ p.start.Before u.position := by
  intro tokens s
  have h : tokenize "x /*\n*/ y" "a.k" 2 = .ok tokens := by decide +kernel
  have hkind : s.peekKind ≠ .punctuator .semicolon := by decide
  obtain ⟨_, p, u, -, -, -, -, hlocated⟩ := expect_error_in_gap h [.read .advance] hkind
  have hread : 0 < s.index := by decide
  exact ⟨h, hkind, p, u, hlocated, hlocated.position_eq hread,
    hlocated.not_behind_iff.2 (.inl hread)⟩

/-- What is missing before the first token is reported behind it. -/
theorem expect_error_behind_first :
    ¬ ∀ (source file : String) (tokens : TokenList) (steps : List StreamStep) (kind : Kind)
      (stretches : List Stretch) (p : Placed) (u : Unexpected),
      tokenize source file defaultContext = .ok tokens →
      source.toList = textOf stretches → Splits stretches [] →
      (Placed.withEnd stretches)[((Reader.start tokens).run steps).stream.index]? = some p →
      (((Reader.start tokens).run steps).stream.expect kind).1 = .error u →
      ¬ p.start.Before u.position := by
  intro hall
  let token : Token := ⟨.identifier, some "x", ⟨1, 1⟩⟩
  have htokens : tokenize "x" "a.k" defaultContext = .ok [token, endToken ⟨1, 1⟩] := by
    decide +kernel
  have hword : IsWord ['x'] := by decide +kernel
  have hs : Splits [.lexeme ['x'] .identifier (some "x")] [] :=
    ⟨IsLexeme.identifier hword rfl (by decide +kernel), trivial⟩
  have hplace := hall "x" "a.k" _ [] (.punctuator .semicolon) _ ⟨[], ['x'], token⟩
    ⟨.punctuator .semicolon, .identifier, ⟨1, 1⟩⟩ htokens rfl hs rfl rfl
  exact hplace (Position.before_of_column_lt ⟨1, 0⟩ Nat.one_pos)

end FrontEnd
