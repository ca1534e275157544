/-
FrontEnd/Proofs/Samples.lean

Whether the samples of diagnostics can be read.

Most faults have a sample in fixed words, and every one of these is a text with tokens
(`Fault.isOk_scan_sample`).  A fault in a string has for its sample what was read of
the string, without blanks at its ends, between quotes again.  What was read are the
characters that the string *stands for*, and they are not written back: a quote among them
ends the sample's string, a line break cuts it, a backslash escapes what follows.

So such a sample has tokens if its string closes somewhere and the rest can be read, which
may or may not be (`exists_readsAs_quote_iff`).  It says what was read exactly if none of
the three is left in it (`readsAs_closedString_iff`).  That plain text is read as itself is
a rule of the grammar.  The converse is a matter of length: the sample has as many
characters as the text that it should stand for, and an escape would take two for one
(`Writes.plain_of_length_le`).  Main result: `tokenize_sample`.
-/
import FrontEnd.Proofs.Anchors
import FrontEnd.Proofs.Printing

namespace FrontEnd

/-! ### Plain text between quotes -/

/-- The character stands for itself between double quotes. -/
def PlainInString (c : Char) : Prop := c ≠ '"' ∧ c ≠ '\\' ∧ c ≠ '\n'

instance : DecidablePred PlainInString := fun _ =>
  inferInstanceAs (Decidable (_ ∧ _ ∧ _))

section Plain

variable {payload text : List Char}

/-- Plain text is written as it is. -/
theorem writes_self_of_plain (h : ∀ c ∈ text, PlainInString c) : Writes '"' text text := by
  induction text with
  | nil => exact .nil
  | cons c text ih =>
    obtain ⟨⟨hquote, hbackslash, hnewline⟩, htext⟩ := List.forall_mem_cons.1 h
    exact .plain hquote hbackslash hnewline (ih htext)

/-- Only plain text is written with as many characters as it has. -/
theorem Writes.plain_of_length_le (h : Writes '"' payload text)
    (hlength : text.length ≤ payload.length) : text = payload ∧ ∀ c ∈ text, PlainInString c := by
  induction h with
  | nil => exact ⟨rfl, List.forall_mem_nil _⟩
  | plain hquote hbackslash hnewline _ ih =>
    obtain ⟨rfl, hplain⟩ := ih (Nat.le_of_succ_le_succ hlength)
    exact ⟨rfl, List.forall_mem_cons.2 ⟨⟨hquote, hbackslash, hnewline⟩, hplain⟩⟩
  | escape _ hwrites _ =>
    -- the escape is one character too long, and the rest is not shorter than what it stands for
    have hle := hwrites.length_le
    simp only [List.length_cons] at hlength
    omega

/-- A content is that of a lexeme in the text. -/
theorem ReadsAs.exists_lexeme {text rest : List Char} {kind : Kind} {value : Option String}
    {contents : List Content} (h : ReadsAs text rest contents) (hmem : (kind, value) ∈ contents) :
    ∃ front lexeme back behind, text = front ++ lexeme ++ back ∧
      IsLexeme lexeme behind kind value := by
  obtain ⟨stretches, rfl, hs, rfl⟩ := h
  obtain ⟨stretch, hstretch, hcontent⟩ := List.mem_filterMap.1 hmem
  cases stretch with
  | trivia => cases hcontent
  | lexeme lexeme other found =>
    obtain ⟨rfl, rfl⟩ := Prod.mk.inj (Option.some.inj hcontent)
    obtain ⟨before, after, rfl⟩ := List.append_of_mem hstretch
    have hfits := (splits_append.1 hs).2.1
    refine ⟨textOf before, lexeme, textOf after, _, ?_, hfits⟩
    rw [textOf_append, textOf_cons, List.append_assoc]
    rfl

/-- A text whose start is malformed is not read. -/
theorem Malformed.not_readsAs {fault : Fault} {offset : Nat} {contents : List Content}
    (h : Malformed text fault offset) : ¬ ReadsAs text [] contents := by
  intro hreads
  obtain ⟨tokens, htokens, -⟩ := hreads.exists_tokenize "" 0
  have hfault : scan (String.ofList text) =
      .error ⟨fault, Position.start.after (text.take offset)⟩ :=
    scan_eq_error_iff.2 ⟨[], text, fault, offset, String.toList_ofList, trivial, h, rfl⟩
  rw [tokenize_eq_ok_iff.1 htokens] at hfault
  cases hfault

/-- `StringCloses text back`: the body of a string goes up to a quote in the text, and `back` is
behind that quote. -/
def StringCloses (text back : List Char) : Prop :=
  ∃ payload written, text = written ++ '"' :: back ∧ Writes '"' payload written

/-- Behind a quote, a text is read if and only if the string closes and the rest is read. -/
theorem exists_readsAs_quote_iff (text : List Char) :
    (∃ contents, ReadsAs ('"' :: text) [] contents) ↔
      ∃ back, StringCloses text back ∧ ∃ contents, ReadsAs back [] contents := by
  constructor
  · rintro ⟨contents, hreads⟩
    obtain ⟨payload, written, rest, rfl, hwrites, hstop⟩ := exists_string_cut text
    cases hstop with
    | @close back =>
      refine ⟨back, ⟨payload, written, rfl, hwrites⟩, ?_⟩
      obtain ⟨stretches, htext, hs, -⟩ := hreads
      cases stretches with
      | nil => cases htext
      | cons stretch stretches =>
        -- the first stretch is the string, so the others are what is behind
        have hstring :
            (Stretch.lexeme ('"' :: (written ++ ['"'])) .stringLiteral
              (some (String.ofList payload))).Fits back := IsLexeme.stringLiteral hwrites
        have hsame : ('"' :: (written ++ ['"'])) ++ back =
            stretch.text ++ (textOf stretches ++ []) := by
          rw [List.append_nil, ← textOf_cons, ← htext]
          simp
        obtain ⟨-, rfl⟩ := hstring.unique hs.1 hsame
        exact ⟨_, stretches, List.append_nil _, hs.2, rfl⟩
    | lineBreak => exact absurd hreads (Malformed.stringLineBreak hwrites).not_readsAs
    | endOfText => exact absurd hreads (Malformed.stringOpen hwrites (.inl rfl)).not_readsAs
    | lastBackslash => exact absurd hreads (Malformed.stringOpen hwrites (.inr rfl)).not_readsAs
    | badEscape hc => exact absurd hreads (Malformed.stringEscape hwrites hc).not_readsAs
  · rintro ⟨back, ⟨payload, written, rfl, hwrites⟩, contents, hreads⟩
    have hstring : IsLexeme ('"' :: (written ++ ['"'])) (back ++ []) .stringLiteral
        (some (String.ofList payload)) := .stringLiteral hwrites
    have happend := hstring.readsAs.append hreads
    rw [List.cons_append, List.append_assoc] at happend
    exact ⟨_, happend⟩

/-- Between quotes a text is read as itself if and only if it is plain. -/
theorem readsAs_quoted_iff (text : List Char) :
    ReadsAs ('"' :: (text ++ ['"'])) [] [(.stringLiteral, some (String.ofList text))] ↔
      ∀ c ∈ text, PlainInString c := by
  constructor
  · intro h
    obtain ⟨front, lexeme, back, behind, htext, hl⟩ := h.exists_lexeme List.mem_cons_self
    generalize hvalue : some (String.ofList text) = value at hl
    cases hl with
    | @stringLiteral payload written _ hwrites =>
      obtain rfl : text = payload := by
        simpa using congrArg String.toList (Option.some.inj hvalue)
      -- the literal with its quotes has no more room than the text that it stands for
      have hlength := congrArg List.length htext
      simp only [List.length_cons, List.length_append, List.length_nil] at hlength
      obtain ⟨rfl, hplain⟩ := hwrites.plain_of_length_le (by omega)
      exact hplain
  · intro h
    exact (IsLexeme.stringLiteral (writes_self_of_plain h)).readsAs

end Plain

/-! ### The samples of faults -/

/-- A text that can be read has tokens, whatever its label. -/
theorem exists_tokenize_of_isOk {text : String} (h : (scan text).isOk = true) (file : String)
    (before : Nat) : ∃ tokens, tokenize text file before = .ok tokens := by
  cases hscan : scan text with
  | error failure =>
    rw [hscan] at h
    cases h
  | ok tokens => exact ⟨tokens, tokenize_of_scan_ok hscan⟩

namespace Fault

/-- What a fault has read of a string. -/
def body? : Fault → Option String
  | .stringLineBreak body | .stringOpen body | .stringEscape _ body => some body
  | _ => none

theorem sample?_of_body? {fault : Fault} {body : String} (h : fault.body? = some body) :
    fault.sample? = some (closedString body) := by
  cases fault <;> cases h <;> rfl

theorem toList_closedString (body : String) :
    (closedString body).toList = '"' :: ((trimBlanks body).toList ++ ['"']) := by
  simp [closedString]

/-- A sample in fixed words can be read. -/
theorem isOk_scan_sample {fault : Fault} {sample : String} (hbody : fault.body? = none)
    (hsample : fault.sample? = some sample) : (scan sample).isOk = true := by
  cases fault with
  | operatorRun c length =>
    by_cases hc : c = '&'
    · rw [sample?, if_pos hc] at hsample
      obtain rfl := Option.some.inj hsample
      decide +kernel
    · rw [sample?, if_neg hc] at hsample
      obtain rfl := Option.some.inj hsample
      decide +kernel
  | strayCharacter c => cases hsample
  | stringLineBreak body | stringOpen body | stringEscape c body => cases hbody
  | loneDollar | characterEmpty | characterOpen | characterEscape c | characterCrowded extra
  | numberSuffix suffix | commentOpen =>
    obtain rfl := Option.some.inj hsample
    decide +kernel

end Fault

/-- The sample of a string fault says what was read if and only if only plain text is left. -/
theorem readsAs_closedString_iff (body : String) :
    ReadsAs (Fault.closedString body).toList [] [(.stringLiteral, some (trimBlanks body))] ↔
      ∀ c ∈ (trimBlanks body).toList, PlainInString c := by
  have hquoted := readsAs_quoted_iff (trimBlanks body).toList
  rwa [String.ofList_toList, ← Fault.toList_closedString] at hquoted

/-- A fault that has read some of a string has read it behind a quote. -/
theorem Malformed.exists_writes_of_body? {text : List Char} {fault : Fault} {offset : Nat}
    {body : String} (h : Malformed text fault offset) (hbody : fault.body? = some body) :
    ∃ written rest, text = '"' :: (written ++ rest) ∧ Writes '"' body.toList written := by
  cases h with
  | stringLineBreak hwrites | stringOpen hwrites | stringEscape hwrites =>
    obtain rfl := Option.some.inj hbody
    rw [String.toList_ofList]
    exact ⟨_, _, rfl, hwrites⟩
  | _ => cases hbody

/-- A text has tokens with the given contents if and only if it is read as them. -/
theorem exists_tokenize_iff_readsAs (text : String) (contents : List Content) (file : String)
    (before : Nat) :
    (∃ tokens, tokenize text file before = .ok tokens ∧
        tokens.map Token.content = contents ++ [(.eof, none)]) ↔
      ReadsAs text.toList [] contents := by
  constructor
  · rintro ⟨tokens, htokens, hcontent⟩
    obtain ⟨others, hothers, hcontent'⟩ := exists_readsAs_of_tokenize htokens
    rw [hcontent] at hcontent'
    rwa [List.append_cancel_right hcontent']
  · intro h
    obtain ⟨tokens, htokens, hcontent⟩ := h.exists_tokenize file before
    rw [String.ofList_toList] at htokens
    exact ⟨tokens, htokens, hcontent⟩

theorem exists_tokenize_iff_exists_readsAs (text : String) (file : String) (before : Nat) :
    (∃ tokens, tokenize text file before = .ok tokens) ↔
      ∃ contents, ReadsAs text.toList [] contents := by
  constructor
  · rintro ⟨tokens, htokens⟩
    obtain ⟨contents, hreads, -⟩ := exists_readsAs_of_tokenize htokens
    exact ⟨contents, hreads⟩
  · rintro ⟨contents, hreads⟩
    obtain ⟨tokens, htokens, -⟩ := (exists_tokenize_iff_readsAs text contents file before).2 hreads
    exact ⟨tokens, htokens⟩

/-- What a diagnostic shows for a string of which `body` was read: that text without the blanks at
its ends, between quotes and with nothing escaped in it. -/
structure QuotesBody (sample body label : String) (lines : Nat) : Prop where
  sample_eq : sample = "\"" ++ trimBlanks body ++ "\""
  /-- It has tokens if and only if its first string closes and the rest has tokens. -/
  tokenize_iff : (∃ tokens, tokenize sample label lines = .ok tokens) ↔
    ∃ back, StringCloses ((trimBlanks body).toList ++ ['"']) back ∧
      ∃ tokens, tokenize (String.ofList back) label lines = .ok tokens
  /-- It is read as the one string that it should be if and only if only plain text is left. -/
  content_iff : (∃ tokens, tokenize sample label lines = .ok tokens ∧
      tokens.map Token.content = [(.stringLiteral, some (trimBlanks body)), (.eof, none)]) ↔
    ∀ c ∈ (trimBlanks body).toList, PlainInString c

theorem quotesBody_closedString (body label : String) (lines : Nat) :
    QuotesBody (Fault.closedString body) body label lines := by
  refine ⟨rfl, ?_, ?_⟩
  · have hback : ∀ back, (∃ contents, ReadsAs back [] contents) ↔
        ∃ tokens, tokenize (String.ofList back) label lines = .ok tokens := fun back => by
      rw [exists_tokenize_iff_exists_readsAs, String.toList_ofList]
    rw [exists_tokenize_iff_exists_readsAs, Fault.toList_closedString, exists_readsAs_quote_iff]
    exact exists_congr fun back => and_congr_right fun _ => hback back
  · rw [← readsAs_closedString_iff]
    exact exists_tokenize_iff_readsAs _ [(.stringLiteral, some (trimBlanks body))] label lines

/-- **Which samples can be read.**  A sample in fixed words has tokens.  That of a fault in a
string has been read behind a quote and is put between quotes again: it is the string that was
read exactly if no quote, no backslash and no line break is left in it. -/
theorem tokenize_sample {source file : String} {before : Nat} {d : Diagnostic} {sample : String}
    (h : tokenize source file before = .error d) (hsample : d.sample = some sample)
    (label : String) (lines : Nat) :
    ∃ failure, scan source = .error failure ∧ d = failure.diagnostic source file before ∧
      (failure.fault.body? = none → ∃ tokens, tokenize sample label lines = .ok tokens) ∧
      ∀ body, failure.fault.body? = some body →
        (∃ front text rest, source.toList = front ++ '"' :: (text ++ rest) ∧
          Writes '"' body.toList text) ∧
        QuotesBody sample body label lines := by
  obtain ⟨failure, hscan, rfl⟩ := tokenize_eq_error_iff.1 h
  have hfault : failure.fault.sample? = some sample := hsample
  refine ⟨failure, hscan, rfl, fun hbody => ?_, fun body hbody => ⟨?_, ?_⟩⟩
  · exact exists_tokenize_of_isOk (Fault.isOk_scan_sample hbody hfault) label lines
  · obtain ⟨stretches, rest, fault, offset, hsource, -, hm, rfl⟩ := scan_eq_error_iff.1 hscan
    obtain ⟨written, behind, rfl, hwrites⟩ := hm.exists_writes_of_body? hbody
    exact ⟨textOf stretches, written, behind, hsource, hwrites⟩
  · rw [Fault.sample?_of_body? hbody] at hfault
    obtain rfl := Option.some.inj hfault
    exact quotesBody_closedString body label lines

/-- A fault outside strings, and a string with a tab whose escaped line break is at the end. -/
theorem tokenize_sample_tab :
    let run := (Fault.operatorRun '&' 1).diagnostic ⟨"a.k", 1, 2⟩ ["a & b"]
    let opened := (Fault.stringOpen "a\tb\n").diagnostic ⟨"a.k", 1, 0⟩ ["\"a\\tb\\n"]
    tokenize "a & b" "a.k" 0 = .error run ∧
      (∃ sample tokens, run.sample = some sample ∧ tokenize sample "a.k" 0 = .ok tokens) ∧
      tokenize "\"a\\tb\\n" "a.k" 0 = .error opened ∧
      ∃ tokens, tokenize "\"a\tb\"" "a.k" 0 = .ok tokens ∧
        tokens.map Token.content = [(.stringLiteral, some "a\tb"), (.eof, none)] := by
  intro run opened
  have hrun : tokenize "a & b" "a.k" 0 = .error run := by decide +kernel
  have hopened : tokenize "\"a\\tb\\n" "a.k" 0 = .error opened := by decide +kernel
  have hscan : scan "a & b" = .error ⟨.operatorRun '&' 1, ⟨1, 2⟩⟩ := by decide +kernel
  have hscan' : scan "\"a\\tb\\n" = .error ⟨.stringOpen "a\tb\n", ⟨1, 0⟩⟩ := by decide +kernel
  obtain ⟨failure, hfound, -, hfixed, -⟩ := tokenize_sample hrun rfl "a.k" 0
  obtain ⟨failure', hfound', -, -, hquoted⟩ := tokenize_sample hopened rfl "a.k" 0
  obtain rfl := Except.error.inj (hscan.symm.trans hfound)
  obtain rfl := Except.error.inj (hscan'.symm.trans hfound')
  obtain ⟨tokens, htokens⟩ := hfixed rfl
  obtain ⟨-, hbody⟩ := hquoted "a\tb\n" rfl
  have htrimmed : (trimBlanks "a\tb\n").toList = ['a', '\t', 'b'] := by decide +kernel
  have hplain : ∀ c ∈ (trimBlanks "a\tb\n").toList, PlainInString c := by
    rw [htrimmed]
    simp [PlainInString]
  exact ⟨hrun, ⟨_, tokens, rfl, htokens⟩, hopened, hbody.content_iff.2 hplain⟩

/-- A quote that was escaped in the string is not escaped in its sample, where it ends the
string: what follows is a name and a string that is not closed. -/
theorem not_tokenize_sample_quote :
    ¬ ∀ (source file : String) (d : Diagnostic) (sample : String),
      tokenize source file defaultContext = .error d → d.sample = some sample →
      ∃ tokens, tokenize sample file defaultContext = .ok tokens := by
  intro hall
  let opened := (Fault.stringOpen "a\"b").diagnostic ⟨"a.k", 1, 0⟩ ["\"a\\\"b"]
  let again := (Fault.stringOpen "").diagnostic ⟨"a.k", 1, 4⟩ ["\"a\"b\""]
  have hopened : tokenize "\"a\\\"b" "a.k" defaultContext = .error opened := by decide +kernel
  have hagain : tokenize "\"a\"b\"" "a.k" defaultContext = .error again := by decide +kernel
  obtain ⟨tokens, htokens⟩ := hall "\"a\\\"b" "a.k" opened "\"a\"b\"" hopened (by decide +kernel)
  rw [hagain] at htokens
  cases htokens

end FrontEnd
