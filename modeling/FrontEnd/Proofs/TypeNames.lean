/-
FrontEnd/Proofs/TypeNames.lean

What the reading of a type name takes from the stream, also where it fails.

Three tokens decide it: a type keyword, and behind it two brackets or none.
`TokenStream.ReadsType` says so with one rule for each outcome, in terms of the tokens
ahead and not of the steps that read them; that reading obeys the rules is shown once
(`readsType_typeName`), and everything else about type names is a case analysis on them.

A failure at the first token has read nothing.  A bracket that is not closed is noticed
at the third token only, and the two before it are not given back.  Main result:
`typeName_error_stays_iff`.
-/
import FrontEnd.Proofs.Streams

namespace FrontEnd

namespace TokenStream

/-! ### The tokens ahead -/

/-- The kind of the token `n` places after the next one, the end if there is none. -/
def kindAhead (s : TokenStream) (n : Nat) : Kind :=
  match s.tokens[s.index + n]? with
  | some token => token.kind
  | none => .eof

/-- The stream that many tokens further on. -/
def ahead (s : TokenStream) (n : Nat) : TokenStream := { s with index := s.index + n }

/-- A type keyword and an opening bracket stand next, and no closing bracket behind them. -/
def OpensArray (s : TokenStream) : Prop :=
  (s.kindAhead 0).isTypeKeyword = true ∧ s.kindAhead 1 = .punctuator .lbracket ∧
    s.kindAhead 2 ≠ .punctuator .rbracket

instance (s : TokenStream) : Decidable s.OpensArray :=
  inferInstanceAs (Decidable (_ ∧ _ ∧ _))

variable {s : TokenStream}

theorem peekKind_ahead (s : TokenStream) (n : Nat) : (s.ahead n).peekKind = s.kindAhead n := rfl

theorem ahead_ahead (s : TokenStream) (m n : Nat) : (s.ahead m).ahead n = s.ahead (m + n) := by
  show TokenStream.mk s.tokens (s.index + m + n) = ⟨s.tokens, s.index + (m + n)⟩
  rw [Nat.add_assoc]

theorem kindAhead_zero {token : Token} (h : s.peek = some token) :
    s.kindAhead 0 = token.kind := by
  show s.peekKind = token.kind
  rw [peekKind, h]

theorem kindAhead_zero_of_none (h : s.peek = none) : s.kindAhead 0 = .eof := by
  show s.peekKind = .eof
  rw [peekKind, h]

/-- A token that is not the end is passed. -/
theorem advance_of_peekKind (h : s.peekKind ≠ .eof) : s.advance = (s.peek, s.ahead 1) := by
  have hend : ¬ s.atEnd = true := by
    rw [atEnd, check, beq_iff_eq]
    exact h
  rw [advance, if_neg hend]
  rfl

/-- A token of a kind that is not the end is eaten. -/
theorem eat_of_peekKind {kind : Kind} (h : s.peekKind = kind) (hkind : kind ≠ .eof) :
    s.eat kind = (true, s.ahead 1) := by
  have hcheck : s.check kind = true := beq_iff_eq.2 h
  rw [eat_of_check hcheck, advance_of_peekKind (h ▸ hkind)]

theorem eat_of_peekKind_ne {kind : Kind} (h : s.peekKind ≠ kind) : s.eat kind = (false, s) :=
  eat_of_not_check fun hcheck => h (beq_iff_eq.1 hcheck)

/-- A token of the kind that is expected is handed out. -/
theorem expect_of_peekKind {kind : Kind} (h : s.peekKind = kind) (hkind : kind ≠ .eof) :
    ∃ token, s.expect kind = (.ok token, s.ahead 1) := by
  cases hpeek : s.peek with
  | none =>
    rw [peekKind, hpeek] at h
    exact absurd h.symm hkind
  | some token =>
    have htoken : token.kind = kind := by
      rw [← h, peekKind, hpeek]
    refine ⟨token, ?_⟩
    rw [expect, hpeek]
    show (if token.kind = kind then _ else _) = _
    rw [if_pos htoken, advance_of_peekKind (h ▸ hkind)]

/-- Any other token, or none, is an error, and nothing is read. -/
theorem expect_of_peekKind_ne {kind : Kind} (h : s.peekKind ≠ kind) :
    s.expect kind = (.error ⟨kind, s.peekKind, s.gap⟩, s) := by
  cases hpeek : s.peek with
  | none => rw [expect, peekKind, hpeek]
  | some token =>
    have hkind : s.peekKind = token.kind := by rw [peekKind, hpeek]
    rw [hkind] at h ⊢
    rw [expect, hpeek]
    exact if_neg h

/-! ### The rules for type names -/

/-- `ReadsType s result behind`: with the tokens that `s` has ahead, a type name is read with the
given result and leaves the stream `behind`. -/
inductive ReadsType (s : TokenStream) : Except TypeFault Symbol → TokenStream → Prop
  | noToken : s.peek = none → ReadsType s (.error .noToken) s
  | notType {token fault} : s.peek = some token → token.typeName = .error fault →
      ReadsType s (.error fault) s
  | primitive {token type} : s.peek = some token → token.typeName = .ok type →
      s.kindAhead 1 ≠ .punctuator .lbracket →
      ReadsType s (.ok (.primitive type)) (s.ahead 1)
  | array {token type} : s.peek = some token → token.typeName = .ok type →
      s.kindAhead 1 = .punctuator .lbracket → s.kindAhead 2 = .punctuator .rbracket →
      ReadsType s (.ok (.array type)) (s.ahead 3)
  /-- What was read up to the bracket is not given back. -/
  | openArray {token type} : s.peek = some token → token.typeName = .ok type →
      s.kindAhead 1 = .punctuator .lbracket → s.kindAhead 2 ≠ .punctuator .rbracket →
      ReadsType s
        (.error (.openArray ⟨.punctuator .rbracket, s.kindAhead 2, (s.ahead 2).gap⟩)) (s.ahead 2)

end TokenStream

/-! ### Single tokens -/

theorem Kind.exists_primitive {kind : Kind} (h : kind.isTypeKeyword = true) :
    ∃ type, Primitive.ofKind? kind = some type := by
  cases kind with
  | keyword word =>
    cases word <;> first | exact ⟨_, rfl⟩ | cases h
  | _ => cases h

namespace Token

variable {token : Token}

theorem typeName_of_isTypeKeyword (h : token.kind.isTypeKeyword = true) :
    ∃ type, token.typeName = .ok type := by
  obtain ⟨type, htype⟩ := Kind.exists_primitive h
  refine ⟨type, ?_⟩
  rw [typeName, htype]
  exact if_pos h

/-- A name is taken for a type that there is none of. -/
theorem typeName_of_not_isTypeKeyword (h : token.kind.isTypeKeyword = false) :
    token.typeName =
      .error (if token.kind = .identifier then .unknown token else .notType token) := by
  unfold typeName
  cases htype : Primitive.ofKind? token.kind with
  | some type =>
    -- the keyword `null` has a type and names none
    have hname : token.kind ≠ .identifier := by
      intro hname
      rw [hname] at htype
      cases htype
    simp only [if_neg hname, if_neg (Bool.eq_false_iff.1 h)]
  | none =>
    by_cases hname : token.kind = .identifier
    · simp only [if_pos hname]
    · simp only [if_neg hname]

/-- A token names a type if and only if it is a type keyword. -/
theorem isTypeKeyword_iff :
    token.kind.isTypeKeyword = true ↔ ∃ type, token.typeName = .ok type := by
  constructor
  · exact typeName_of_isTypeKeyword
  · rintro ⟨type, htype⟩
    by_contra hkeyword
    rw [typeName_of_not_isTypeKeyword (Bool.eq_false_iff.2 hkeyword)] at htype
    cases htype

/-- Any other token is a fault, which holds the token. -/
theorem typeName_eq_error_iff {fault : TypeFault} :
    token.typeName = .error fault ↔
      token.kind.isTypeKeyword = false ∧
        fault = if token.kind = .identifier then .unknown token else .notType token := by
  constructor
  · intro herror
    have hkeyword : token.kind.isTypeKeyword = false := by
      refine Bool.eq_false_iff.2 fun h => ?_
      obtain ⟨type, htype⟩ := typeName_of_isTypeKeyword h
      rw [herror] at htype
      cases htype
    rw [typeName_of_not_isTypeKeyword hkeyword] at herror
    exact ⟨hkeyword, (Except.error.inj herror).symm⟩
  · rintro ⟨hkeyword, rfl⟩
    exact typeName_of_not_isTypeKeyword hkeyword

end Token

namespace TokenStream

variable {s : TokenStream}

/-- A type keyword is not the end, so it is passed. -/
theorem advance_of_typeName {token : Token} {type : Primitive} (hpeek : s.peek = some token)
    (htype : token.typeName = .ok type) : s.advance.2 = s.ahead 1 := by
  have hkeyword := Token.isTypeKeyword_iff.2 ⟨type, htype⟩
  have hnotEnd : s.peekKind ≠ .eof := by
    show s.kindAhead 0 ≠ .eof
    rw [kindAhead_zero hpeek]
    intro hend
    rw [hend] at hkeyword
    cases hkeyword
  rw [advance_of_peekKind hnotEnd]

section Suffix

variable {token : Token} {type : Primitive}

/-- Without an opening bracket behind it, a type keyword is the whole type name. -/
theorem typeName_primitive (hpeek : s.peek = some token) (htype : token.typeName = .ok type)
    (hopen : s.kindAhead 1 ≠ .punctuator .lbracket) :
    s.typeName = (.ok (.primitive type), s.ahead 1) := by
  have heat : (s.ahead 1).eat (.punctuator .lbracket) = (false, s.ahead 1) :=
    eat_of_peekKind_ne hopen
  simp only [typeName, hpeek, htype, advance_of_typeName hpeek htype, heat]

/-- An opening bracket is taken before it is known whether it is closed. -/
theorem eat_lbracket (hopen : s.kindAhead 1 = .punctuator .lbracket) :
    (s.ahead 1).eat (.punctuator .lbracket) = (true, s.ahead 2) :=
  eat_of_peekKind hopen Kind.noConfusion

theorem typeName_array (hpeek : s.peek = some token) (htype : token.typeName = .ok type)
    (hopen : s.kindAhead 1 = .punctuator .lbracket)
    (hclose : s.kindAhead 2 = .punctuator .rbracket) :
    s.typeName = (.ok (.array type), s.ahead 3) := by
  obtain ⟨bracket, hexpect⟩ := expect_of_peekKind (s := s.ahead 2) hclose Kind.noConfusion
  simp only [typeName, hpeek, htype, advance_of_typeName hpeek htype, eat_lbracket hopen, hexpect,
    ahead_ahead]

theorem typeName_openArray (hpeek : s.peek = some token) (htype : token.typeName = .ok type)
    (hopen : s.kindAhead 1 = .punctuator .lbracket)
    (hclose : s.kindAhead 2 ≠ .punctuator .rbracket) :
    s.typeName =
      (.error (.openArray ⟨.punctuator .rbracket, s.kindAhead 2, (s.ahead 2).gap⟩),
        s.ahead 2) := by
  have hexpect := expect_of_peekKind_ne (s := s.ahead 2) hclose
  simp only [typeName, hpeek, htype, advance_of_typeName hpeek htype, eat_lbracket hopen, hexpect,
    peekKind_ahead]

end Suffix

/-- Type names are read by the rules. -/
theorem readsType_typeName (s : TokenStream) : s.ReadsType s.typeName.1 s.typeName.2 := by
  cases hpeek : s.peek with
  | none =>
    have hread : s.typeName = (.error .noToken, s) := by rw [typeName, hpeek]
    rw [hread]
    exact .noToken hpeek
  | some token =>
    cases htype : token.typeName with
    | error fault =>
      have hread : s.typeName = (.error fault, s) := by simp only [typeName, hpeek, htype]
      rw [hread]
      exact .notType hpeek htype
    | ok type =>
      -- from here on the two tokens behind the keyword decide
      by_cases hopen : s.kindAhead 1 = .punctuator .lbracket
      · by_cases hclose : s.kindAhead 2 = .punctuator .rbracket
        · rw [typeName_array hpeek htype hopen hclose]
          exact .array hpeek htype hopen hclose
        · rw [typeName_openArray hpeek htype hopen hclose]
          exact .openArray hpeek htype hopen hclose
      · rw [typeName_primitive hpeek htype hopen]
        exact .primitive hpeek htype hopen

/-! ### What a failure takes -/

/-- The stream does not stay where it is if it goes on by one token or more. -/
theorem ahead_ne_self (s : TokenStream) {n : Nat} (hn : 0 < n) : s.ahead n ≠ s := by
  intro hsame
  have hindex : s.index + n = s.index := congrArg TokenStream.index hsame
  omega

/-- A type keyword is ahead exactly if the next token names a type. -/
theorem isTypeKeyword_kindAhead_iff {token : Token} (hpeek : s.peek = some token) :
    (s.kindAhead 0).isTypeKeyword = true ↔ ∃ type, token.typeName = .ok type := by
  rw [kindAhead_zero hpeek]
  exact Token.isTypeKeyword_iff

/-- An error has read nothing, or two tokens if a bracket was opened. -/
theorem ReadsType.error_cases {fault : TypeFault} {behind : TokenStream}
    (h : s.ReadsType (.error fault) behind) :
    (¬ s.OpensArray ∧ behind = s) ∨ (s.OpensArray ∧ behind = s.ahead 2) := by
  cases h with
  | noToken hpeek =>
    refine .inl ⟨fun hopens => ?_, rfl⟩
    have hkeyword := hopens.1
    rw [kindAhead_zero_of_none hpeek] at hkeyword
    cases hkeyword
  | notType hpeek herror =>
    refine .inl ⟨fun hopens => ?_, rfl⟩
    obtain ⟨type, htype⟩ := (isTypeKeyword_kindAhead_iff hpeek).1 hopens.1
    rw [herror] at htype
    cases htype
  | openArray hpeek htype hopen hclose =>
    exact .inr ⟨⟨(isTypeKeyword_kindAhead_iff hpeek).2 ⟨_, htype⟩, hopen, hclose⟩, rfl⟩

/-- An opened array that is not closed is an error. -/
theorem ReadsType.exists_error {result : Except TypeFault Symbol} {behind : TokenStream}
    (h : s.ReadsType result behind) (hopens : s.OpensArray) : ∃ fault, result = .error fault := by
  obtain ⟨-, hopen, hclose⟩ := hopens
  cases h with
  | noToken | notType | openArray => exact ⟨_, rfl⟩
  | primitive _ _ hbracket => exact absurd hopen hbracket
  | array _ _ _ hbracket => exact absurd hbracket hclose

/-- **What a failed type name leaves.**  The stream stays where it is, unless a type keyword and
an opening bracket were read and no closing bracket follows; that is always a failure, and then
the two tokens are gone. -/
theorem typeName_error_stays_iff (s : TokenStream) (file : String) :
    (∀ d, s.typeName.1.mapError (TypeFault.diagnostic file) = .error d →
      (s.typeName.2 = s ↔ ¬ s.OpensArray)) ∧
    (s.OpensArray → ∃ d, s.typeName.1.mapError (TypeFault.diagnostic file) = .error d ∧
      s.typeName.2 = s.ahead 2) := by
  have hreads := s.readsType_typeName
  constructor
  · intro d hd
    cases hresult : s.typeName.1 with
    | ok symbol =>
      rw [hresult] at hd
      cases hd
    | error fault =>
      rw [hresult] at hreads
      rcases hreads.error_cases with ⟨hopens, hstays⟩ | ⟨hopens, hmoves⟩
      · exact iff_of_true hstays hopens
      · have hmoved : s.typeName.2 ≠ s := hmoves ▸ s.ahead_ne_self Nat.two_pos
        exact iff_of_false hmoved (not_not_intro hopens)
  · intro hopens
    obtain ⟨fault, hfault⟩ := hreads.exists_error hopens
    refine ⟨fault.diagnostic file, by rw [hfault]; rfl, ?_⟩
    rw [hfault] at hreads
    rcases hreads.error_cases with ⟨hclosed, -⟩ | ⟨-, hmoves⟩
    · exact absurd hopens hclosed
    · exact hmoves

/-- A name in the place of a type, and an array that is not closed. -/
theorem typeName_error_stays_iff_name :
    let stray : TokenStream := .ofList [⟨.identifier, some "Foo", ⟨1, 3⟩⟩,
      ⟨.identifier, some "x", ⟨1, 5⟩⟩, ⟨.eof, none, ⟨1, 5⟩⟩]
    let opened : TokenStream := .ofList [⟨.keyword .integerKw, none, ⟨1, 7⟩⟩,
      ⟨.punctuator .lbracket, none, ⟨1, 8⟩⟩, ⟨.eof, none, ⟨1, 8⟩⟩]
    tokenize "Foo x" "a.k" 2 = .ok stray.tokens ∧ stray.typeName.2 = stray ∧
      tokenize "integer[" "a.k" 2 = .ok opened.tokens ∧ opened.typeName.2 = opened.ahead 2 := by
  intro stray opened
  have hstray : stray.typeName.1.mapError (TypeFault.diagnostic "a.k") =
      .error (TypeFault.diagnostic "a.k" (.unknown ⟨.identifier, some "Foo", ⟨1, 3⟩⟩)) := rfl
  obtain ⟨d, -, hmoves⟩ := (typeName_error_stays_iff opened "a.k").2 (by decide)
  exact ⟨by decide +kernel, ((typeName_error_stays_iff stray "a.k").1 _ hstray).2 (by decide),
    by decide +kernel, hmoves⟩

/-- A failure may take tokens with it. -/
theorem typeName_error_moves :
    ¬ ∀ (source file : String) (tokens : TokenList) (index : Nat) (d : Diagnostic),
      tokenize source file defaultContext = .ok tokens →
      (TokenStream.mk tokens index).typeName.1.mapError (TypeFault.diagnostic file) = .error d →
      (TokenStream.mk tokens index).typeName.2.index = index := by
  intro hall
  let tokens : TokenList := [⟨.keyword .integerKw, none, ⟨1, 7⟩⟩,
    ⟨.punctuator .lbracket, none, ⟨1, 8⟩⟩, ⟨.identifier, some "x", ⟨1, 10⟩⟩,
    ⟨.eof, none, ⟨1, 10⟩⟩]
  have htokens : tokenize "integer[ x" "a.k" defaultContext = .ok tokens := by decide +kernel
  have hindex := hall "integer[ x" "a.k" tokens 0 _ htokens rfl
  exact absurd hindex (by decide +kernel)

end TokenStream

end FrontEnd
