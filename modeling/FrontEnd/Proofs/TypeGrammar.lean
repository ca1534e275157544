/-
FrontEnd/Proofs/TypeGrammar.lean

The grammar of type names, and that reading follows it.

A type name is a type keyword, with a pair of brackets behind it if it is an array.  Which
keyword belongs to which type is said by how they are written (`Kind.Names`): the keyword
is written as the type is called.  Only `null` is called like a keyword and has no type name.

The reading of a type name gives what the rules `TokenStream.ReadsType` call for
(`typeName_eq_iff`), and the rules speak of the kinds of three tokens ahead.  An error holds
more than kinds, namely a token or a place, but these are again those of the three tokens
(`gap_ahead`); so all of the answer is found in them (`ReadsType.of_same_ahead`).  Main
result: `typeName_follows_grammar`.
-/
import FrontEnd.Proofs.Gaps

namespace FrontEnd

/-! ### Type keywords -/

/-- Tokens of the kind are the type keyword of the type: the keyword is written as the type is
called.  The literal `null` is no type keyword, although it is called like its type. -/
def Kind.Names (kind : Kind) (type : Primitive) : Prop :=
  ∃ word, kind = .keyword word ∧ word.spelling = type.name ∧ type ≠ .null

theorem Keyword.spelling_injective {word other : Keyword} (h : word.spelling = other.spelling) :
    word = other := by
  have hword := word.ofWord?_spelling
  rw [h, other.ofWord?_spelling] at hword
  exact (Option.some.inj hword).symm

/-- Every type but that of `null` has a keyword. -/
theorem Primitive.exists_keyword {type : Primitive} (h : type ≠ .null) :
    ∃ word : Keyword, word.spelling = type.name ∧ word.isTypeName = true ∧
      Primitive.ofKeyword? word = some type := by
  cases type with
  | integer => exact ⟨.integerKw, rfl, rfl, rfl⟩
  | double => exact ⟨.doubleKw, rfl, rfl, rfl⟩
  | boolean => exact ⟨.booleanKw, rfl, rfl, rfl⟩
  | character => exact ⟨.characterKw, rfl, rfl, rfl⟩
  | string => exact ⟨.stringKw, rfl, rfl, rfl⟩
  | void => exact ⟨.voidKw, rfl, rfl, rfl⟩
  | null => exact absurd rfl h

/-- The type of a type keyword is called as the keyword is written. -/
theorem Keyword.spelling_of_isTypeName {word : Keyword} {type : Primitive}
    (h : word.isTypeName = true) (htype : Primitive.ofKeyword? word = some type) :
    word.spelling = type.name ∧ type ≠ .null := by
  cases word <;> cases h <;> cases htype <;> exact ⟨rfl, by decide⟩

/-- The type of a token is looked up by its kind, if that is a type keyword. -/
theorem Token.typeName_eq_ok_iff_ofKind {token : Token} {type : Primitive} :
    token.typeName = .ok type ↔
      token.kind.isTypeKeyword = true ∧ Primitive.ofKind? token.kind = some type := by
  unfold typeName
  cases Primitive.ofKind? token.kind with
  | none => by_cases hname : token.kind = .identifier <;> simp [hname]
  | some found => by_cases hkeyword : token.kind.isTypeKeyword = true <;> simp [hkeyword]

/-- A token names a type if and only if it is the keyword of that type. -/
theorem Token.typeName_eq_ok_iff {token : Token} {type : Primitive} :
    token.typeName = .ok type ↔ token.kind.Names type := by
  rw [typeName_eq_ok_iff_ofKind]
  constructor
  · rintro ⟨hkeyword, htype⟩
    cases hkind : token.kind with
    | keyword word =>
      rw [hkind] at hkeyword htype
      exact ⟨word, rfl, Keyword.spelling_of_isTypeName hkeyword htype⟩
    | _ =>
      rw [hkind] at hkeyword
      cases hkeyword
  · rintro ⟨word, hkind, hspelling, hnull⟩
    obtain ⟨other, hother, hname, htype⟩ := Primitive.exists_keyword hnull
    -- no two keywords are written alike
    obtain rfl := Keyword.spelling_injective (hspelling.trans hother.symm)
    rw [hkind]
    exact ⟨hname, htype⟩

namespace TokenStream

variable {s t : TokenStream} {result : Except TypeFault Symbol} {behind : TokenStream}
  {type : Primitive}

/-- What stands next names the type, said of the token and of the kind ahead. -/
theorem exists_peek_names_iff :
    (∃ token, s.peek = some token ∧ token.typeName = .ok type) ↔ (s.kindAhead 0).Names type := by
  simp only [Token.typeName_eq_ok_iff]
  constructor
  · rintro ⟨token, hpeek, hnames⟩
    rwa [kindAhead_zero hpeek]
  · intro hnames
    cases hpeek : s.peek with
    | none =>
      obtain ⟨word, hkind, -⟩ := hnames
      cases (kindAhead_zero_of_none hpeek).symm.trans hkind
    | some token =>
      rw [kindAhead_zero hpeek] at hnames
      exact ⟨token, rfl, hnames⟩

/-! ### Reading is what the rules call for -/

/-- Type names are read by the rules, and the rules leave no choice. -/
theorem typeName_eq_iff : s.typeName = (result, behind) ↔ s.ReadsType result behind := by
  constructor
  · intro h
    have hreads := s.readsType_typeName
    rwa [h] at hreads
  · intro h
    cases h with
    | noToken hpeek => rw [typeName, hpeek]
    | notType hpeek herror => simp only [typeName, hpeek, herror]
    | primitive hpeek htype hopen => exact typeName_primitive hpeek htype hopen
    | array hpeek htype hopen hclose => exact typeName_array hpeek htype hopen hclose
    | openArray hpeek htype hopen hclose => exact typeName_openArray hpeek htype hopen hclose

theorem readsType_primitive_iff : s.ReadsType (.ok (.primitive type)) (s.ahead 1) ↔
    (s.kindAhead 0).Names type ∧ s.kindAhead 1 ≠ .punctuator .lbracket := by
  rw [← exists_peek_names_iff]
  constructor
  · intro h
    generalize hbehind : s.ahead 1 = behind at h
    cases h with
    | primitive hpeek htype hopen => exact ⟨⟨_, hpeek, htype⟩, hopen⟩
  · rintro ⟨⟨token, hpeek, htype⟩, hopen⟩
    exact .primitive hpeek htype hopen

theorem readsType_array_iff : s.ReadsType (.ok (.array type)) (s.ahead 3) ↔
    (s.kindAhead 0).Names type ∧ s.kindAhead 1 = .punctuator .lbracket ∧
      s.kindAhead 2 = .punctuator .rbracket := by
  rw [← exists_peek_names_iff]
  constructor
  · intro h
    generalize hbehind : s.ahead 3 = behind at h
    cases h with
    | array hpeek htype hopen hclose => exact ⟨⟨_, hpeek, htype⟩, hopen, hclose⟩
  · rintro ⟨⟨token, hpeek, htype⟩, hopen, hclose⟩
    exact .array hpeek htype hopen hclose

/-- Nothing is refused but what does not start with a type keyword, and an array that is opened
and not closed. -/
theorem ReadsType.error_iff (h : s.ReadsType result behind) :
    (∃ fault, result = .error fault) ↔
      ∀ type, (s.kindAhead 0).Names type →
        s.kindAhead 1 = .punctuator .lbracket ∧ s.kindAhead 2 ≠ .punctuator .rbracket := by
  simp only [← exists_peek_names_iff]
  -- one case for each rule: three of them answer with an error, two with a type
  cases h with
  | noToken hpeek =>
    refine iff_of_true ⟨_, rfl⟩ ?_
    rintro type ⟨token, hsome, -⟩
    cases hpeek.symm.trans hsome
  | notType hpeek herror =>
    refine iff_of_true ⟨_, rfl⟩ ?_
    rintro type ⟨token, hsome, htype⟩
    obtain rfl := Option.some.inj (hpeek.symm.trans hsome)
    cases herror.symm.trans htype
  | openArray hpeek htype hopen hclose =>
    exact iff_of_true ⟨_, rfl⟩ fun _ _ => ⟨hopen, hclose⟩
  | primitive hpeek htype hopen =>
    apply iff_of_false
    · rintro ⟨fault, hfault⟩
      cases hfault
    · intro hall
      exact hopen (hall _ ⟨_, hpeek, htype⟩).1
  | array hpeek htype hopen hclose =>
    apply iff_of_false
    · rintro ⟨fault, hfault⟩
      cases hfault
    · intro hall
      exact (hall _ ⟨_, hpeek, htype⟩).2 hclose

/-- A name in the place of a type is the one error that is in the catalogue. -/
theorem ReadsType.heading_of_error {fault : TypeFault} (h : s.ReadsType (.error fault) behind)
    (label : String) :
    (s.kindAhead 0 = .identifier ∧ (fault.diagnostic label).heading = .coded .e201) ∨
      (s.kindAhead 0 ≠ .identifier ∧
        (fault.diagnostic label).heading = .general .syntactic) := by
  cases h with
  | noToken hpeek =>
    refine .inr ⟨?_, rfl⟩
    rw [kindAhead_zero_of_none hpeek]
    exact Kind.noConfusion
  | @notType token fault hpeek herror =>
    rw [kindAhead_zero hpeek]
    obtain ⟨-, rfl⟩ := Token.typeName_eq_error_iff.1 herror
    by_cases hname : token.kind = .identifier
    · rw [if_pos hname]
      exact .inl ⟨hname, rfl⟩
    · rw [if_neg hname]
      exact .inr ⟨hname, rfl⟩
  | openArray hpeek htype hopen hclose =>
    refine .inr ⟨?_, rfl⟩
    obtain ⟨word, hkind, -⟩ := exists_peek_names_iff.1 ⟨_, hpeek, htype⟩
    rw [hkind]
    exact Kind.noConfusion

/-! ### Three tokens decide -/

theorem exists_token_of_kindAhead {n : Nat} {kind : Kind} (h : s.kindAhead n = kind)
    (hkind : kind ≠ .eof) : ∃ token, s.tokens[s.index + n]? = some token := by
  cases htoken : s.tokens[s.index + n]? with
  | none =>
    rw [kindAhead, htoken] at h
    exact absurd h.symm hkind
  | some token => exact ⟨token, rfl⟩

/-- The place where a token is missing is the end of the one before, which is still ahead. -/
theorem gap_ahead {n : Nat} {token : Token} (h : s.tokens[s.index + n]? = some token) :
    (s.ahead (n + 1)).gap = token.position :=
  gap_of_succ (s := s.ahead (n + 1)) rfl h

/-- Where the same three tokens are ahead, the same rule applies. -/
theorem ReadsType.of_same_ahead (h : s.ReadsType result behind)
    (hahead : ∀ i < 3, t.tokens[t.index + i]? = s.tokens[s.index + i]?) :
    ∃ n, behind = s.ahead n ∧ t.ReadsType result (t.ahead n) := by
  have hkind : ∀ i < 3, t.kindAhead i = s.kindAhead i := by
    intro i hi
    simp only [kindAhead, hahead i hi]
  have hpeek : t.peek = s.peek := hahead 0 (by decide)
  cases h with
  | noToken hnone => exact ⟨0, rfl, .noToken (hpeek.trans hnone)⟩
  | notType hsome herror => exact ⟨0, rfl, .notType (hpeek.trans hsome) herror⟩
  | primitive hsome htype hopen =>
    rw [← hkind 1 (by decide)] at hopen
    exact ⟨1, rfl, .primitive (hpeek.trans hsome) htype hopen⟩
  | array hsome htype hopen hclose =>
    rw [← hkind 1 (by decide)] at hopen
    rw [← hkind 2 (by decide)] at hclose
    exact ⟨3, rfl, .array (hpeek.trans hsome) htype hopen hclose⟩
  | openArray hsome htype hopen hclose =>
    -- the error is placed behind the bracket, which is one of the three
    obtain ⟨bracket, hbracket⟩ := exists_token_of_kindAhead hopen Kind.noConfusion
    have hgap : (s.ahead 2).gap = (t.ahead 2).gap := by
      rw [gap_ahead hbracket, gap_ahead ((hahead 1 (by decide)).trans hbracket)]
    rw [← hkind 1 (by decide)] at hopen
    rw [← hkind 2 (by decide)] at hclose ⊢
    rw [hgap]
    exact ⟨2, rfl, .openArray (hpeek.trans hsome) htype hopen hclose⟩

/-! ### The grammar -/

/-- The stream reads type names by the grammar: what stands next decides what is read, how far
the reading goes, and what the diagnostic of an error says. -/
structure FollowsTypeGrammar (s : TokenStream) (label : String) : Prop where
  primitive_iff : ∀ type, s.typeName = (.ok (.primitive type), s.ahead 1) ↔
    (s.kindAhead 0).Names type ∧ s.kindAhead 1 ≠ .punctuator .lbracket
  array_iff : ∀ type, s.typeName = (.ok (.array type), s.ahead 3) ↔
    (s.kindAhead 0).Names type ∧ s.kindAhead 1 = .punctuator .lbracket ∧
      s.kindAhead 2 = .punctuator .rbracket
  /-- In all other cases, and in no case but these, there is an error. -/
  error_iff : (∃ d, s.typeName.1.mapError (TypeFault.diagnostic label) = .error d) ↔
    ∀ type, (s.kindAhead 0).Names type →
      s.kindAhead 1 = .punctuator .lbracket ∧ s.kindAhead 2 ≠ .punctuator .rbracket
  /-- A name is the one error in the catalogue, and a semantic one. -/
  error_cases : ∀ d, s.typeName.1.mapError (TypeFault.diagnostic label) = .error d →
    (s.kindAhead 0 = .identifier ∧ d.code? = some .e201 ∧ d.category = .semantic) ∨
      (s.kindAhead 0 ≠ .identifier ∧ d.code? = none ∧ d.category = .syntactic)
  /-- Whatever else the streams hold and wherever they stand, with the same three tokens ahead they
  read the same, and equally far. -/
  same_answer : ∀ t : TokenStream,
    (∀ i < 3, t.tokens[t.index + i]? = s.tokens[s.index + i]?) →
    ∃ n, s.typeName = (s.typeName.1, s.ahead n) ∧ t.typeName = (s.typeName.1, t.ahead n)

/-- **Type names are read by their grammar**, at every place in every list of tokens. -/
theorem typeName_follows_grammar (s : TokenStream) (label : String) :
    s.FollowsTypeGrammar label := by
  have hreads := s.readsType_typeName
  refine
    { primitive_iff := fun _ => typeName_eq_iff.trans readsType_primitive_iff
      array_iff := fun _ => typeName_eq_iff.trans readsType_array_iff
      error_iff := ?_
      error_cases := ?_
      same_answer := ?_ }
  · rw [← hreads.error_iff]
    cases s.typeName.1 with
    | error fault => exact iff_of_true ⟨_, rfl⟩ ⟨_, rfl⟩
    | ok symbol => simp [Except.mapError]
  · intro d hd
    cases hresult : s.typeName.1 with
    | ok symbol =>
      rw [hresult] at hd
      cases hd
    | error fault =>
      rw [hresult] at hreads hd
      obtain rfl := Except.error.inj hd
      simp only [Diagnostic.code?, Diagnostic.category]
      rcases hreads.heading_of_error label with ⟨hname, hheading⟩ | ⟨hname, hheading⟩
      · rw [hheading]
        exact .inl ⟨hname, rfl, rfl⟩
      · rw [hheading]
        exact .inr ⟨hname, rfl, rfl⟩
  · intro t hahead
    obtain ⟨n, hbehind, ht⟩ := hreads.of_same_ahead hahead
    exact ⟨n, Prod.ext rfl hbehind, typeName_eq_iff.2 ht⟩

end TokenStream

end FrontEnd
