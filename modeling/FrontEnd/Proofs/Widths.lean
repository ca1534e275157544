/-
FrontEnd/Proofs/Widths.lean

How wide a token takes itself to be, and what is marked of it where it is no type.

A token holds the place behind its lexeme.  Where the lexeme starts has to be counted
back from there, by a width that is taken from the spelling or the value of the token
(`Token.width`).  A name, a number or a kind with a spelling is as wide as its lexeme
(`IsLexeme.width_eq`).  A literal between quotes is wider than its value by the quotes at
least, and by one for each escape (`IsLexeme.width_lt`).

So the mark of a diagnostic always ends with the lexeme and never starts before it
(`Diagnostic.MarksEnd`), and it is the whole lexeme exactly if there are no quotes.  Main
result: `typeFault_marksAll_iff`.
-/
import FrontEnd.Proofs.Places
import FrontEnd.Proofs.TypeNames

namespace FrontEnd

/-! ### The width of a token -/

/-- Tokens of the kind are written between quotes. -/
def Kind.Quoted (kind : Kind) : Prop := kind = .stringLiteral ∨ kind = .characterLiteral

instance (kind : Kind) : Decidable kind.Quoted := inferInstanceAs (Decidable (_ ∨ _))

section Width

variable {text rest : List Char} {token : Token}

theorem Token.width_of_spelling {spelling : String} (h : token.kind.spelling? = some spelling) :
    token.width = spelling.length := by
  rw [width, h]

theorem Token.width_of_value {value : String} (h : token.kind.spelling? = none)
    (hvalue : token.value = some value) : token.width = max value.length 1 := by
  rw [width, h, text, hvalue]
  rfl

/-- A kind without a spelling that a lexeme can have is quoted, or its value is the lexeme. -/
theorem IsLexeme.quoted_or {kind : Kind} {value : Option String}
    (h : IsLexeme text rest kind value) (hs : kind.spelling? = none) :
    kind.Quoted ∨ kind = .identifier ∨ kind = .number := by
  cases h with
  | stringLiteral => exact .inl (.inl rfl)
  | characterLiteral => exact .inl (.inr rfl)
  | identifier => exact .inr (.inl rfl)
  | number => exact .inr (.inr rfl)
  | keyword | logical | pair | single => cases hs

/-- Without quotes a token is as wide as its lexeme. -/
theorem IsLexeme.width_eq (h : IsLexeme text rest token.kind token.value)
    (hq : ¬ token.kind.Quoted) : token.width = text.length := by
  cases hs : token.kind.spelling? with
  | some spelling =>
    rw [Token.width_of_spelling hs, h.eq_spelling hs, String.length_toList]
  | none =>
    have hpos := List.length_pos_iff.2 h.text_ne_nil
    have hvalue := h.value_eq ((h.quoted_or hs).resolve_left hq)
    rw [Token.width_of_value hs hvalue, String.length_ofList]
    exact Nat.max_eq_left hpos

/-- The quotes of a literal are not counted, and an escape counts as one character. -/
theorem IsLexeme.width_lt (h : IsLexeme text rest token.kind token.value)
    (hq : token.kind.Quoted) : token.width < text.length := by
  obtain ⟨kind, value, position⟩ := token
  rcases hq with hkind | hkind
  · obtain rfl : kind = .stringLiteral := hkind
    cases (h : IsLexeme text rest .stringLiteral value) with
    | @stringLiteral payload text _ hw =>
      -- the value is not longer than the text between the quotes
      have hle := hw.length_le
      rw [Token.width_of_value rfl rfl, String.length_ofList]
      simp only [List.length_cons, List.length_append, List.length_nil]
      omega
  · obtain rfl : kind = .characterLiteral := hkind
    cases (h : IsLexeme text rest .characterLiteral value) with
    | @characterLiteral c text _ hw =>
      rw [Token.width_of_value rfl rfl, String.length_ofList]
      simp only [List.length_cons, List.length_append, List.length_nil]
      omega

theorem IsLexeme.width_le (h : IsLexeme text rest token.kind token.value) :
    token.width ≤ text.length := by
  by_cases hq : token.kind.Quoted
  · exact Nat.le_of_lt (h.width_lt hq)
  · exact Nat.le_of_eq (h.width_eq hq)

theorem Kind.length_spelling_pos {kind : Kind} {spelling : String}
    (h : kind.spelling? = some spelling) : 1 ≤ spelling.length := by
  cases kind with
  | keyword word =>
    obtain rfl := Option.some.inj h
    cases word <;> decide
  | punctuator mark =>
    obtain rfl := Option.some.inj h
    cases mark <;> decide
  | _ => cases h

/-- No token is without width. -/
theorem Token.width_pos (token : Token) : 1 ≤ token.width := by
  cases hs : token.kind.spelling? with
  | some spelling =>
    rw [width_of_spelling hs]
    exact Kind.length_spelling_pos hs
  | none =>
    rw [width, hs]
    exact Nat.le_max_right _ _

end Width

/-! ### What is marked -/

/-- What the diagnostics of a token that is no type have in common: their place is where the token
takes itself to start, and their width is its width. -/
theorem typeFault_marks_token {token : Token} {fault : TypeFault}
    (h : token.typeName = .error fault) (label : String) :
    (fault.diagnostic label).location = token.startLocation label ∧
      (fault.diagnostic label).spanLength = token.width := by
  obtain ⟨-, rfl⟩ := Token.typeName_eq_error_iff.1 h
  have hwidth : max token.width 1 = token.width := Nat.max_eq_left token.width_pos
  by_cases hname : token.kind = .identifier
  · rw [if_pos hname]
    exact ⟨rfl, hwidth⟩
  · rw [if_neg hname]
    exact ⟨rfl, hwidth⟩

/-- The mark of the diagnostic lies in the lexeme and ends where the lexeme ends. -/
structure Diagnostic.MarksEnd (d : Diagnostic) (label : String) (p : Placed) : Prop where
  file_eq : d.location.file = label
  line_eq : d.location.line = p.start.line
  start_le : p.start.column ≤ d.location.column
  spanLength_pos : 1 ≤ d.spanLength
  ends_at_column : d.location.column + d.spanLength = p.token.position.column
  /-- As a span the mark counts columns from one, its last column belongs to it, and its columns
  stop at the largest that a span holds. -/
  primarySpan_eq : d.primarySpan =
    ⟨label, p.start.line, d.location.column + 1, p.start.line,
      min p.token.position.column maxColumn⟩

/-- The mark of the diagnostic is the whole lexeme. -/
structure Diagnostic.MarksAll (d : Diagnostic) (label : String) (p : Placed) : Prop where
  location_eq : d.location = Location.ofPosition label p.start
  spanLength_eq : d.spanLength = p.text.length

/-- The span of a mark ends where the mark does. -/
theorem Diagnostic.primarySpan_of_ends {d : Diagnostic} {column : Nat} (hpos : 1 ≤ d.spanLength)
    (hends : d.location.column + d.spanLength = column) :
    d.primarySpan =
      ⟨d.location.file, d.location.line, d.location.column + 1, d.location.line,
        min column maxColumn⟩ := by
  have hend : min (d.location.column + 1 + (min d.spanLength maxColumn - 1)) maxColumn =
      min column maxColumn := by
    -- both sides stop at the largest column, so a width that was cut is cut again
    unfold maxColumn
    omega
  simp only [primarySpan, hend]

section Marks

variable {p : Placed} {behind : List Char} {fault : TypeFault}

/-- A token that is no type is marked at the end of its lexeme. -/
theorem marksEnd_of_typeName
    (hposition : p.token.position = ⟨p.start.line, p.start.column + p.text.length⟩)
    (h : IsLexeme p.text behind p.token.kind p.token.value)
    (hfault : p.token.typeName = .error fault) (label : String) :
    (fault.diagnostic label).MarksEnd label p := by
  obtain ⟨hlocation, hspan⟩ := typeFault_marks_token hfault label
  have hwidth := h.width_le
  have hpos := p.token.width_pos
  have hcolumn : p.token.position.column = p.start.column + p.text.length := by rw [hposition]
  have hline : p.token.position.line = p.start.line := by rw [hposition]
  have hstart : (fault.diagnostic label).location.column =
      p.token.position.column - p.token.width := by rw [hlocation]; rfl
  -- the width is at most the length of the lexeme, so nothing is cut off at the first column
  have hends : (fault.diagnostic label).location.column + (fault.diagnostic label).spanLength =
      p.token.position.column := by omega
  have hfile : (fault.diagnostic label).location.file = label := by rw [hlocation]; rfl
  have hlocationLine : (fault.diagnostic label).location.line = p.start.line := by
    rw [hlocation, ← hline]
    rfl
  refine ⟨hfile, hlocationLine, by omega, by omega, hends, ?_⟩
  rw [Diagnostic.primarySpan_of_ends (by omega) hends, hfile, hlocationLine]

/-- A mark at the end of a lexeme is the whole lexeme if it is as wide. -/
theorem Diagnostic.MarksEnd.marksAll_iff {d : Diagnostic} {label : String}
    (hposition : p.token.position = ⟨p.start.line, p.start.column + p.text.length⟩)
    (h : d.MarksEnd label p) : d.MarksAll label p ↔ d.spanLength = p.text.length := by
  refine ⟨fun hall => hall.spanLength_eq, fun hspan => ⟨?_, hspan⟩⟩
  have hcolumn : p.token.position.column = p.start.column + p.text.length := by rw [hposition]
  have hstart : d.location.column = p.start.column := by
    have hends := h.ends_at_column
    omega
  calc d.location
      = ⟨d.location.file, d.location.line, d.location.column⟩ := rfl
    _ = ⟨label, p.start.line, p.start.column⟩ := by rw [h.file_eq, h.line_eq, hstart]

end Marks

/-- **A token that is no type is marked up to its end.**  The mark starts with the token unless
it is a literal between quotes, whose quotes and escapes are not counted. -/
theorem typeFault_marksAll_iff {source file : String} {before : Nat} {tokens : TokenList}
    (h : tokenize source file before = .ok tokens) (label : String) :
    ∃ stretches, source.toList = textOf stretches ∧ Splits stretches [] ∧
      tokens = (placedOf [] stretches).map Placed.token ++
        [endToken (Position.start.after source.toList)] ∧
      ∀ p ∈ placedOf [] stretches, p.Faithful source ∧
        ∀ fault, p.token.typeName = .error fault →
          (fault.diagnostic label).MarksEnd label p ∧
            ((fault.diagnostic label).MarksAll label p ↔ ¬ p.token.kind.Quoted) := by
  obtain ⟨stretches, hsource, hs, rfl⟩ := scan_eq_ok_iff.1 (tokenize_eq_ok_iff.1 h)
  refine ⟨stretches, hsource, hs, ?_, fun p hp => ?_⟩
  · rw [map_token_placedOf]
    rfl
  obtain ⟨hplace, behind, hbehind, hl⟩ := isLexeme_of_mem_placedOf hs hp
  rw [List.nil_append, List.append_nil, ← hsource] at hbehind
  have hposition := Placed.position_eq hplace hl
  refine ⟨faithful_of_isLexeme hplace hbehind hl, fun fault hfault => ?_⟩
  have hend := marksEnd_of_typeName hposition hl hfault label
  refine ⟨hend, ?_⟩
  rw [hend.marksAll_iff hposition, (typeFault_marks_token hfault label).2]
  constructor
  · intro hwidth hq
    exact absurd hwidth (Nat.ne_of_lt (hl.width_lt hq))
  · exact hl.width_eq

/-- A name behind a blank, and a string on the line below. -/
theorem typeFault_marksAll_iff_name :
    let name : Token := ⟨.identifier, some "Foo", ⟨1, 4⟩⟩
    let literal : Token := ⟨.stringLiteral, some "\n", ⟨2, 4⟩⟩
    tokenize " Foo\n\"\\n\"" "a.k" 2 = .ok [name, literal, endToken ⟨2, 4⟩] ∧
      ∃ p q : Placed, p.token = name ∧ q.token = literal ∧
        (TypeFault.diagnostic "a.k" (.unknown name)).MarksAll "a.k" p ∧
        (TypeFault.diagnostic "a.k" (.notType literal)).MarksEnd "a.k" q ∧
        ¬ (TypeFault.diagnostic "a.k" (.notType literal)).MarksAll "a.k" q := by
  intro name literal
  have h : tokenize " Foo\n\"\\n\"" "a.k" 2 = .ok [name, literal, endToken ⟨2, 4⟩] := by
    decide +kernel
  obtain ⟨stretches, -, -, htokens, hall⟩ := typeFault_marksAll_iff h "a.k"
  have hmap : [name, literal] = (placedOf [] stretches).map Placed.token :=
    (List.append_inj' (htokens : [name, literal] ++ [endToken ⟨2, 4⟩] = _) rfl).1
  obtain ⟨p, hp, hname⟩ := List.mem_map.1 (hmap ▸ List.mem_cons_self : name ∈ _)
  obtain ⟨q, hq, hliteral⟩ :=
    List.mem_map.1 (hmap ▸ List.mem_cons_of_mem name List.mem_cons_self : literal ∈ _)
  have hmarks := (hall p hp).2 (.unknown name) (by rw [hname]; rfl)
  have hmarks' := (hall q hq).2 (.notType literal) (by rw [hliteral]; rfl)
  refine ⟨h, p, q, hname, hliteral, hmarks.2.2 ?_, hmarks'.1, fun hmarked => ?_⟩
  · rw [hname]
    decide
  · refine absurd (hmarks'.2.1 hmarked) (not_not_intro ?_)
    rw [hliteral]
    decide

/-- A string is not marked as a whole. -/
theorem not_marksAll_string :
    ¬ ∀ (source file : String) (tokens : TokenList) (stretches : List Stretch) (p : Placed)
      (fault : TypeFault),
      tokenize source file defaultContext = .ok tokens →
      source.toList = textOf stretches → Splits stretches [] → p ∈ placedOf [] stretches →
      p.token.typeName = .error fault → (fault.diagnostic file).MarksAll file p := by
  intro hall
  let token : Token := ⟨.stringLiteral, some "ab", ⟨1, 4⟩⟩
  have htokens : tokenize "\"ab\"" "a.k" defaultContext = .ok [token, endToken ⟨1, 4⟩] := by
    decide +kernel
  have hwrites : Writes '"' ['a', 'b'] ['a', 'b'] :=
    .plain (by decide) (by decide) (by decide) (.plain (by decide) (by decide) (by decide) .nil)
  have hs : Splits [.lexeme ['"', 'a', 'b', '"'] .stringLiteral (some "ab")] [] :=
    ⟨IsLexeme.stringLiteral hwrites, trivial⟩
  have hmarked := hall "\"ab\"" "a.k" _ _ _ (.notType token) htokens rfl hs
    List.mem_cons_self rfl
  exact absurd hmarked.spanLength_eq (by decide)

end FrontEnd
