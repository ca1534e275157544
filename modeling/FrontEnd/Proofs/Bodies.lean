/-
FrontEnd/Proofs/Bodies.lean

The readers of literal bodies and comments against the grammar.

Each reader is taken through a stretch of text that the grammar allows
(`stringBody_append`, `characterBody_append`), which leaves only the text behind the
stretch to look at.  The other half is that every text can be cut at the place
where a body stops (`exists_string_cut`, `exists_comment_cut`); the readers do not
occur in it.
-/
import FrontEnd.Lexer.Literal
import FrontEnd.Proofs.Grammar

namespace FrontEnd

/-! ### Escapes -/

theorem Escapes.unescape?_eq {quote letter c : Char} (hn : quote ≠ 'n') (ht : quote ≠ 't')
    (hb : quote ≠ '\\') (h : Escapes quote letter c) : unescape? quote letter = some c := by
  cases h with
  | newline | tab | backslash => rfl
  | quote => simp [unescape?, hn, ht, hb]

theorem Escapes.of_unescape? {quote letter c : Char} (h : unescape? quote letter = some c) :
    Escapes quote letter c := by
  -- the letters in the order in which the reader asks for them, the quote last
  unfold unescape? at h
  split at h
  · next hl =>
    obtain rfl := Option.some.inj h
    subst hl
    exact .newline
  split at h
  · next hl =>
    obtain rfl := Option.some.inj h
    subst hl
    exact .tab
  split at h
  · next hl =>
    obtain rfl := Option.some.inj h
    subst hl
    exact .backslash
  split at h
  · next hl =>
    obtain rfl := Option.some.inj h
    subst hl
    exact .quote
  · cases h

theorem unescape?_eq_none {quote letter : Char} (h : ∀ c, ¬ Escapes quote letter c) :
    unescape? quote letter = none := by
  rcases hu : unescape? quote letter with - | c
  · rfl
  · exact absurd (Escapes.of_unescape? hu) (h c)

/-- Either a letter is an escape or it is none. -/
theorem escapes_or_not (quote letter : Char) :
    (∃ c, Escapes quote letter c) ∨ ∀ c, ¬ Escapes quote letter c := by
  by_cases h : ∃ c, Escapes quote letter c
  · exact .inl h
  · exact .inr fun c hc => h ⟨c, hc⟩

/-! ### Strings -/

/-- Reading a string goes through text that can stand in it and on to what follows. -/
theorem stringBody_append {payload text : List Char} (h : Writes '"' payload text)
    (rest : List Char) :
    stringBody (text ++ rest) =
      ⟨payload ++ (stringBody rest).payload, text.length + (stringBody rest).length,
        (stringBody rest).ending⟩ := by
  induction h with
  | nil => simp
  | @plain c payload text hq hb hn _ ih =>
    -- the last case of the reader: no quote, no line break and no backslash
    rw [List.cons_append, stringBody.eq_6 _ _ hq hn (fun h => absurd h hb)
      (fun _ _ h => absurd h hb), ih]
    simp [StringBody.cons]
    omega
  | @escape letter c payload text he _ ih =>
    have hu : unescape? '"' letter = some c :=
      he.unescape?_eq (by decide) (by decide) (by decide)
    simp [stringBody, hu, ih, StringBody.cons]
    omega

/-- What stands where a string cannot be read on. -/
inductive StringStop : List Char → Prop
  | close {rest} : StringStop ('"' :: rest)
  | lineBreak {rest} : StringStop ('\n' :: rest)
  | endOfText : StringStop []
  | lastBackslash : StringStop ['\\']
  | badEscape {c rest} : (∀ meant, ¬ Escapes '"' c meant) → StringStop ('\\' :: c :: rest)

/-- Every text can be cut where a string in it stops. -/
theorem exists_string_cut (text : List Char) :
    ∃ payload body rest, text = body ++ rest ∧ Writes '"' payload body ∧ StringStop rest := by
  induction text using stringBody.induct with
  | case1 => exact ⟨[], [], [], rfl, .nil, .endOfText⟩
  | case2 rest => exact ⟨[], [], _, rfl, .nil, .close⟩
  | case3 rest => exact ⟨[], [], _, rfl, .nil, .lineBreak⟩
  | case4 => exact ⟨[], [], _, rfl, .nil, .lastBackslash⟩
  | case5 letter text c hu ih =>
    obtain ⟨payload, body, rest, rfl, hw, hs⟩ := ih
    exact ⟨c :: payload, '\\' :: letter :: body, rest, rfl, .escape (.of_unescape? hu) hw, hs⟩
  | case6 letter text hu =>
    refine ⟨[], [], _, rfl, .nil, .badEscape fun c hc => ?_⟩
    rw [hc.unescape?_eq (by decide) (by decide) (by decide)] at hu
    cases hu
  | case7 c text hq hn hb hb' ih =>
    obtain ⟨payload, body, rest, rfl, hw, hs⟩ := ih
    refine ⟨c :: payload, c :: body, rest, rfl, .plain hq ?_ hn hw, hs⟩
    rintro rfl
    -- a backslash has its own cases, whatever follows it
    rcases hbr : body ++ rest with - | ⟨d, more⟩
    · exact hb rfl hbr
    · exact hb' d more rfl hbr

/-! ### Characters -/

/-- One character between quotes is written plainly or with a backslash and a letter. -/
theorem writes_singleton {quote c : Char} {text : List Char} (h : Writes quote [c] text) :
    (text = [c] ∧ c ≠ quote ∧ c ≠ '\\' ∧ c ≠ '\n') ∨
      ∃ letter, text = ['\\', letter] ∧ Escapes quote letter c := by
  cases h with
  | plain hq hb hn h =>
    cases h
    exact .inl ⟨rfl, hq, hb, hn⟩
  | escape he h =>
    cases h
    exact .inr ⟨_, rfl, he⟩

/-- Reading a character literal goes through its one character. -/
theorem characterBody_append {c : Char} {text : List Char} (h : Writes '\'' [c] text)
    (rest : List Char) :
    characterBody (text ++ rest) = characterTail c text.length rest := by
  rcases writes_singleton h with ⟨rfl, hq, hb, hn⟩ | ⟨letter, rfl, he⟩
  · rw [List.singleton_append, characterBody.eq_6 _ _ hn hq (fun h => absurd h hb)
      (fun _ _ h => absurd h hb)]
    rfl
  · have hu : unescape? '\'' letter = some c :=
      he.unescape?_eq (by decide) (by decide) (by decide)
    simp [characterBody, hu]

theorem characterTail_closed (c : Char) (n : Nat) (rest : List Char) :
    characterTail c n ('\'' :: rest) = .closed c (n + 1) := by
  simp [characterTail]

theorem characterTail_crowded {c : Char} {n : Nat} {extra rest : List Char} (he : extra ≠ [])
    (hq : '\'' ∉ extra) (hn : '\n' ∉ extra) :
    characterTail c n (extra ++ '\'' :: rest) = .crowded n extra.length := by
  have hline : (extra ++ '\'' :: rest).takeWhile (· != '\n') =
      extra ++ '\'' :: rest.takeWhile (· != '\n') := by
    rw [List.takeWhile_append_of_pos (all_ne_of_not_mem hn)]
    simp
  have hextra : (extra ++ '\'' :: rest.takeWhile (· != '\n')).takeWhile (· != '\'') = extra :=
    takeWhile_append_of_stop (all_ne_of_not_mem hq) (by simp)
  simp [characterTail, hline, hextra, he]

theorem characterTail_unclosed {c : Char} {n : Nat} {rest : List Char}
    (h : '\'' ∉ rest.takeWhile (· != '\n')) : characterTail c n rest = .unclosed := by
  have hextra : (rest.takeWhile (· != '\n')).takeWhile (· != '\'') =
      rest.takeWhile (· != '\n') := by
    simpa using takeWhile_append_of_stop (all_ne_of_not_mem h) startsWith_nil
  simp [characterTail, hextra]

/-! ### Block comments -/

theorem noCommentEnd_cons {c : Char} {text : List Char} :
    NoCommentEnd (c :: text) ↔
      ¬ (c = '*' ∧ startsWith (· == '/') text = true) ∧ NoCommentEnd text := by
  unfold NoCommentEnd
  rw [List.infix_cons_iff, not_or]
  refine and_congr (not_congr ?_) Iff.rfl
  cases text with
  | nil => simp
  | cons d text => simp [@eq_comm _ '*', @eq_comm _ '/']

theorem commentLength?_cons {c : Char} {text : List Char}
    (h : ¬ (c = '*' ∧ startsWith (· == '/') text = true)) :
    commentLength? (c :: text) = (commentLength? text).map (· + 1) := by
  refine commentLength?.eq_3 c text ?_
  rintro rest rfl rfl
  exact h ⟨rfl, by simp⟩

/-- The end that is found is the first one. -/
theorem commentLength?_of_closed {body : List Char} (h : NoCommentEnd (body ++ ['*']))
    (rest : List Char) : commentLength? (body ++ '*' :: '/' :: rest) = some (body.length + 2) := by
  induction body with
  | nil => rfl
  | cons c body ih =>
    obtain ⟨hc, hb⟩ := noCommentEnd_cons.1 h
    -- whether an end mark starts at `c` shows in the next character alone
    rw [List.cons_append, commentLength?_cons, ih hb]
    · simp
    · rwa [startsWith_append_cons]

theorem commentLength?_of_open {text : List Char} (h : NoCommentEnd text) :
    commentLength? text = none := by
  induction text with
  | nil => rfl
  | cons c text ih =>
    obtain ⟨hc, ht⟩ := noCommentEnd_cons.1 h
    rw [commentLength?_cons hc, ih ht]
    rfl

/-- Either a text holds no end of a comment or it can be cut behind the first. -/
theorem exists_comment_cut (text : List Char) :
    NoCommentEnd text ∨
      ∃ body rest, text = body ++ '*' :: '/' :: rest ∧ NoCommentEnd (body ++ ['*']) := by
  induction text with
  | nil => exact .inl (by simp [NoCommentEnd])
  | cons c text ih =>
    by_cases hc : c = '*' ∧ startsWith (· == '/') text = true
    · obtain ⟨rfl, hs⟩ := hc
      obtain ⟨d, rest, rfl, hd⟩ := exists_cons_of_startsWith hs
      obtain rfl : d = '/' := by simpa using hd
      exact .inr ⟨[], rest, rfl, noCommentEnd_cons.2 ⟨by simp, by simp [NoCommentEnd]⟩⟩
    · rcases ih with hopen | ⟨body, rest, rfl, hb⟩
      · exact .inl (noCommentEnd_cons.2 ⟨hc, hopen⟩)
      · rw [startsWith_append_cons] at hc
        exact .inr ⟨c :: body, rest, rfl, noCommentEnd_cons.2 ⟨hc, hb⟩⟩

end FrontEnd
