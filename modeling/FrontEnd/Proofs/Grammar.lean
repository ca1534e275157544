/-
FrontEnd/Proofs/Grammar.lean

The lexical grammar as relations, independent of how a text is read.

Whether a stretch of text is a lexeme is not decided by the stretch alone: `1` is
no number in `1.5`, nor `=` an operator in `==`.  So `IsTrivia` and `IsLexeme` take
the text that follows as an argument, and each rule says how much of it must not
continue the lexeme.  `Malformed` lists the ways in which a text starts with nothing
readable, with the fault that is reported and how far behind the start of the text.

The rules constrain the following text only by what it must *not* begin with (a
line comment apart, which runs up to a line break or the end), so cutting
the following text short keeps a lexeme a lexeme (`IsLexeme.of_append`).
-/
import FrontEnd.Lexer.Fault
import FrontEnd.Proofs.Spelling

namespace FrontEnd

/-! ### Text between quotes -/

/-- Between `quote`s, a backslash and the first character stand for the second. -/
inductive Escapes (quote : Char) : Char → Char → Prop
  | newline : Escapes quote 'n' '\n'
  | tab : Escapes quote 't' '\t'
  | backslash : Escapes quote '\\' '\\'
  | quote : Escapes quote quote quote

/-- `Writes quote payload text`: between `quote`s, `text` stands for `payload`.  A line break, a
backslash and the quote itself have to be escaped, a tab may be. -/
inductive Writes (quote : Char) : List Char → List Char → Prop
  | nil : Writes quote [] []
  | plain {c payload text} : c ≠ quote → c ≠ '\\' → c ≠ '\n' →
      Writes quote payload text → Writes quote (c :: payload) (c :: text)
  | escape {letter c payload text} : Escapes quote letter c →
      Writes quote payload text → Writes quote (c :: payload) ('\\' :: letter :: text)

/-! ### Trivia -/

/-- No end of a block comment stands in the text. -/
def NoCommentEnd (text : List Char) : Prop := ¬ ['*', '/'] <:+: text

instance : DecidablePred NoCommentEnd := fun text =>
  inferInstanceAs (Decidable (¬ ['*', '/'] <:+: text))

/-- `IsTrivia text rest`: where `rest` follows, `text` is one blank or one comment.  A line
comment stops before the line break; a block comment ends with the first end mark that does not
overlap its start mark. -/
inductive IsTrivia : List Char → List Char → Prop
  | blank {c rest} : isBlank c = true → IsTrivia [c] rest
  | lineComment {body rest} : '\n' ∉ body → (rest = [] ∨ startsWith (· == '\n') rest = true) →
      IsTrivia ('/' :: '/' :: body) rest
  | blockComment {body rest} : NoCommentEnd (body ++ ['*']) →
      IsTrivia ('/' :: '*' :: (body ++ ['*', '/'])) rest

/-! ### Words and numerals -/

/-- What may stand behind a leading dollar sign. -/
def mayFollowDollar (c : Char) : Bool := isLetter c || c == '_'

/-- The shape of names and keywords. -/
def IsWord : List Char → Prop
  | [] => False
  | c :: tail =>
    isNameStart c = true ∧ (∀ d ∈ tail, isNamePart d = true) ∧
      (c = '$' → startsWith mayFollowDollar tail = true)

instance : DecidablePred IsWord
  | [] => inferInstanceAs (Decidable False)
  | c :: tail =>
    decidable_of_iff
      (isNameStart c = true ∧ tail.all isNamePart = true ∧
        (c = '$' → startsWith mayFollowDollar tail = true))
      (by simp [IsWord])

/-- One or more ASCII digits. -/
def IsDigits (text : List Char) : Prop := text ≠ [] ∧ ∀ c ∈ text, c.isDigit = true

/-- The shape of numbers: digits, and perhaps a point and more digits. -/
inductive IsNumeral : List Char → Prop
  | whole {digits} : IsDigits digits → IsNumeral digits
  | fraction {digits more} : IsDigits digits → IsDigits more →
      IsNumeral (digits ++ '.' :: more)

/-- What neither starts nor continues a name does not stand in a word. -/
theorem IsWord.not_mem {text : List Char} {c : Char} (h : IsWord text)
    (hs : isNameStart c = false) (hp : isNamePart c = false) : c ∉ text := by
  cases text with
  | nil => exact h.elim
  | cons x tail =>
    rintro (_ | ⟨_, hm⟩)
    · exact Bool.noConfusion (h.1.symm.trans hs)
    · exact Bool.noConfusion ((h.2.1 c hm).symm.trans hp)

theorem IsDigits.not_mem {text : List Char} {c : Char} (h : IsDigits text)
    (hd : c.isDigit = false) : c ∉ text := by
  intro hm
  rw [h.2 c hm] at hd
  cases hd

/-- Nothing but digits and a point stands in a number. -/
theorem IsNumeral.not_mem {text : List Char} {c : Char} (h : IsNumeral text)
    (hd : c.isDigit = false) (hdot : c ≠ '.') : c ∉ text := by
  cases h with
  | whole hdigits => exact hdigits.not_mem hd
  | fraction hdigits hmore =>
    rw [List.mem_append, List.mem_cons, not_or, not_or]
    exact ⟨hdigits.not_mem hd, hdot, hmore.not_mem hd⟩

/-- The text goes on as a fraction: with a point and a digit. -/
def FractionAhead (text : List Char) : Prop :=
  ∃ more, text = '.' :: more ∧ startsWith Char.isDigit more = true

/-- Nothing in `rest` lengthens the numeral `text`. -/
def NumeralStops (text rest : List Char) : Prop :=
  startsWith Char.isDigit rest = false ∧ ('.' ∉ text → ¬ FractionAhead rest)

/-! ### Lexemes -/

/-- What would turn a slash into the start of a comment. -/
def opensComment (c : Char) : Bool := c == '/' || c == '*'

/-- `IsLexeme text rest kind value`: where `rest` follows, `text` is the whole of a token of the
given kind and value. -/
inductive IsLexeme : List Char → List Char → Kind → Option String → Prop
  | keyword {text rest word} : IsWord text → startsWith isNamePart rest = false →
      Keyword.ofWord? text = some word → IsLexeme text rest (.keyword word) none
  | identifier {text rest} : IsWord text → startsWith isNamePart rest = false →
      Keyword.ofWord? text = none →
      IsLexeme text rest .identifier (some (String.ofList text))
  | number {text rest} : IsNumeral text → NumeralStops text rest →
      startsWith isLetter rest = false →
      IsLexeme text rest .number (some (String.ofList text))
  | stringLiteral {payload text rest} : Writes '"' payload text →
      IsLexeme ('"' :: (text ++ ['"'])) rest .stringLiteral (some (String.ofList payload))
  | characterLiteral {c text rest} : Writes '\'' [c] text →
      IsLexeme ('\'' :: (text ++ ['\''])) rest .characterLiteral (some (String.ofList [c]))
  /-- A logical operator is a run of exactly two. -/
  | logical {c rest mark} : isLogical c = true → Punctuator.pair? c c = some mark →
      startsWith (· == c) rest = false → IsLexeme [c, c] rest (.punctuator mark) none
  | pair {c d rest mark} : isLogical c = false → Punctuator.pair? c d = some mark →
      IsLexeme [c, d] rest (.punctuator mark) none
  /-- A single character is a mark of its own only if it starts no pair and no comment. -/
  | single {c rest mark} : Punctuator.single? c = some mark →
      startsWith (fun d => (Punctuator.pair? c d).isSome) rest = false →
      (c = '/' → startsWith opensComment rest = false) →
      IsLexeme [c] rest (.punctuator mark) none

/-! ### Faults -/

/-- `Malformed text fault offset`: `text` starts with no lexeme and no trivia, for the reason
`fault`, which is reported `offset` characters behind the start. -/
inductive Malformed : List Char → Fault → Nat → Prop
  | commentOpen {text} : NoCommentEnd text → Malformed ('/' :: '*' :: text) .commentOpen 0
  | stringLineBreak {payload text rest} : Writes '"' payload text →
      Malformed ('"' :: (text ++ '\n' :: rest)) (.stringLineBreak (String.ofList payload)) 0
  | stringOpen {payload text rest} : Writes '"' payload text → rest = [] ∨ rest = ['\\'] →
      Malformed ('"' :: (text ++ rest)) (.stringOpen (String.ofList payload)) 0
  | stringEscape {payload text c rest} : Writes '"' payload text →
      (∀ meant, ¬ Escapes '"' c meant) →
      Malformed ('"' :: (text ++ '\\' :: c :: rest)) (.stringEscape c (String.ofList payload)) 0
  | characterEmpty {rest} : Malformed ('\'' :: '\'' :: rest) .characterEmpty 0
  /-- Nothing, a line break or a lone backslash behind the quote. -/
  | characterOpen {rest} : rest = [] ∨ rest = ['\\'] ∨ startsWith (· == '\n') rest = true →
      Malformed ('\'' :: rest) .characterOpen 0
  | characterEscape {c rest} : (∀ meant, ¬ Escapes '\'' c meant) →
      Malformed ('\'' :: '\\' :: c :: rest) (.characterEscape c) 0
  /-- More than one character before the next quote on the line. -/
  | characterCrowded {c text extra rest} : Writes '\'' [c] text → extra ≠ [] →
      '\'' ∉ extra → '\n' ∉ extra →
      Malformed ('\'' :: (text ++ extra ++ '\'' :: rest)) (.characterCrowded extra.length)
        (1 + text.length)
  /-- One character, and no quote behind it on the line. -/
  | characterUnclosed {c text rest} : Writes '\'' [c] text →
      '\'' ∉ rest.takeWhile (· != '\n') →
      Malformed ('\'' :: (text ++ rest)) .characterOpen 0
  | numberSuffix {text suffix rest} : IsNumeral text → startsWith isLetter suffix = true →
      (∀ c ∈ suffix, isNamePart c = true) → startsWith isNamePart rest = false →
      Malformed (text ++ (suffix ++ rest)) (.numberSuffix (String.ofList suffix)) text.length
  | loneDollar {rest} : startsWith mayFollowDollar rest = false →
      Malformed ('$' :: rest) .loneDollar 0
  | operatorRun {c n rest} : isLogical c = true → 0 < n → n ≠ 2 →
      startsWith (· == c) rest = false →
      Malformed (List.replicate n c ++ rest) (.operatorRun c n) 0
  | strayCharacter {c rest} : isBlank c = false → isNameStart c = false → c.isDigit = false →
      c ≠ '"' → c ≠ '\'' → isLogical c = false → Punctuator.single? c = none →
      Malformed (c :: rest) (.strayCharacter c) 0

/-! ### Cutting the following text short -/

theorem FractionAhead.append {rest : List Char} (h : FractionAhead rest) (more : List Char) :
    FractionAhead (rest ++ more) := by
  obtain ⟨tail, rfl, hd⟩ := h
  obtain ⟨d, ds, rfl, hd⟩ := exists_cons_of_startsWith hd
  exact ⟨_, rfl, by simpa using hd⟩

theorem NumeralStops.of_append {text rest more : List Char}
    (h : NumeralStops text (rest ++ more)) : NumeralStops text rest :=
  ⟨startsWith_of_append h.1, fun hp hf => h.2 hp (hf.append more)⟩

/-- Trivia stays trivia when the end of the text is cut off. -/
theorem IsTrivia.of_append {text rest more : List Char} (h : IsTrivia text (rest ++ more)) :
    IsTrivia text rest := by
  cases h with
  | blank hc => exact .blank hc
  | lineComment hbody hrest =>
    refine .lineComment hbody ?_
    cases rest with
    | nil => exact .inl rfl
    | cons c rest => exact .inr (by simpa using hrest)
  | blockComment hbody => exact .blockComment hbody

/-- A lexeme stays one when the end of the text is cut off. -/
theorem IsLexeme.of_append {text rest more : List Char} {kind : Kind} {value : Option String}
    (h : IsLexeme text (rest ++ more) kind value) : IsLexeme text rest kind value := by
  cases h with
  | keyword hw hs hk => exact .keyword hw (startsWith_of_append hs) hk
  | identifier hw hs hk => exact .identifier hw (startsWith_of_append hs) hk
  | number hn hs hl => exact .number hn hs.of_append (startsWith_of_append hl)
  | stringLiteral hw => exact .stringLiteral hw
  | characterLiteral hw => exact .characterLiteral hw
  | logical hc hp hs => exact .logical hc hp (startsWith_of_append hs)
  | pair hc hp => exact .pair hc hp
  | single hm hp hs => exact .single hm (startsWith_of_append hp) fun hc => startsWith_of_append (hs hc)

end FrontEnd
