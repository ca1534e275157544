/-
FrontEnd/Proofs/Printing.lean

Reading undoes printing.

An `Item` is what a token says, without its place: a kind and perhaps a text.  It
can be printed in several ways (`Item.Prints`), because a tab in a literal may be
escaped or not, and between two items any separator may stand that starts with a
blank.  The blank is what keeps items apart: no lexeme can be lengthened by it, so
an item that is printed before a blank or the end is a lexeme there
(`Item.Prints.isLexeme`), whatever its class.

`ReadsAs text rest contents` says that `text` splits, before `rest`, into stretches
with these contents.  It composes (`ReadsAs.append`), so that a printed text
is read piece by piece from its end.
-/
import FrontEnd.Proofs.Reading

namespace FrontEnd

/-! ### Items -/

/-- What a token says, wherever it stands. -/
abbrev Content := Kind × Option String

/-- The kind and the value of a token. -/
def Token.content (token : Token) : Content := (token.kind, token.value)

/-- What can be printed and read again. -/
inductive Item
  /-- A kind that has one spelling. -/
  | spelled (kind : Kind) (text : String) (h : kind.spelling? = some text)
  | identifier (name : List Char) (hw : IsWord name) (hk : Keyword.ofWord? name = none)
  | number (text : List Char) (hn : IsNumeral text)
  | stringLiteral (payload : List Char)
  | characterLiteral (payload : Char)

/-- The kind and the value that an item is read as. -/
def Item.content : Item → Content
  | .spelled kind _ _ => (kind, none)
  | .identifier name _ _ => (.identifier, some (String.ofList name))
  | .number text _ => (.number, some (String.ofList text))
  | .stringLiteral payload => (.stringLiteral, some (String.ofList payload))
  | .characterLiteral payload => (.characterLiteral, some (String.ofList [payload]))

/-- `item.Prints written`: the item may be written as `written`. -/
inductive Item.Prints : Item → List Char → Prop
  | spelled {kind text h} : Prints (.spelled kind text h) text.toList
  | identifier {name hw hk} : Prints (.identifier name hw hk) name
  | number {text hn} : Prints (.number text hn) text
  | stringLiteral {payload text} : Writes '"' payload text →
      Prints (.stringLiteral payload) ('"' :: (text ++ ['"']))
  | characterLiteral {payload text} : Writes '\'' [payload] text →
      Prints (.characterLiteral payload) ('\'' :: (text ++ ['\'']))

/-! ### Separators -/

/-- Blanks and complete comments; a line comment brings its line break along. -/
inductive Gap : List Char → Prop
  | nil : Gap []
  | blank {c more} : isBlank c = true → Gap more → Gap (c :: more)
  | lineComment {body more} : '\n' ∉ body → Gap more →
      Gap ('/' :: '/' :: (body ++ '\n' :: more))
  | blockComment {body more} : NoCommentEnd (body ++ ['*']) → Gap more →
      Gap ('/' :: '*' :: (body ++ ['*', '/']) ++ more)

/-- What may stand between two items: a gap that starts with a blank. -/
def IsSeparator (text : List Char) : Prop := Gap text ∧ startsWith isBlank text = true

/-- What may stand before the first and behind the last item. -/
def IsMargin (text : List Char) : Prop := text = [] ∨ IsSeparator text

/-- `Joined items text`: the items in order, with a separator between each two. -/
inductive Joined : List Item → List Char → Prop
  | nil : Joined [] []
  | last {item written} : item.Prints written → Joined [item] written
  | cons {item written gap next items text} : item.Prints written → IsSeparator gap →
      Joined (next :: items) text → Joined (item :: next :: items) (written ++ (gap ++ text))

/-- `Printing items text`: the joined items between two margins. -/
inductive Printing : List Item → List Char → Prop
  | mk {lead items body trail} : IsMargin lead → Joined items body → IsMargin trail →
      Printing items (lead ++ (body ++ trail))

/-! ### Contents of a text -/

/-- What the lexemes among the stretches say, in order. -/
def contentsOf (stretches : List Stretch) : List Content :=
  stretches.filterMap fun
    | .trivia _ => none
    | .lexeme _ kind value => some (kind, value)

/-- Where `rest` follows, the text splits into stretches with these contents. -/
def ReadsAs (text rest : List Char) (contents : List Content) : Prop :=
  ∃ stretches, text = textOf stretches ∧ Splits stretches rest ∧ contentsOf stretches = contents

theorem map_content_tokensOf (p : Position) (stretches : List Stretch) :
    (tokensOf p stretches).map Token.content = contentsOf stretches := by
  induction stretches generalizing p with
  | nil => rfl
  | cons stretch stretches ih =>
    cases stretch with
    | trivia text => exact ih _
    | lexeme text kind value => exact congrArg ((kind, value) :: ·) (ih _)

section ReadsAs

variable {text more rest : List Char} {contents others : List Content}

theorem ReadsAs.nil : ReadsAs [] rest [] := ⟨[], rfl, trivial, rfl⟩

theorem ReadsAs.append (h : ReadsAs text (more ++ rest) contents)
    (hmore : ReadsAs more rest others) : ReadsAs (text ++ more) rest (contents ++ others) := by
  obtain ⟨front, rfl, hfront, rfl⟩ := h
  obtain ⟨back, rfl, hback, rfl⟩ := hmore
  refine ⟨front ++ back, (textOf_append front back).symm, splits_append.2 ⟨hfront, hback⟩, ?_⟩
  exact List.filterMap_append

theorem IsTrivia.readsAs (h : IsTrivia text rest) : ReadsAs text rest [] := by
  refine ⟨[.trivia text], ?_, ⟨?_, trivial⟩, rfl⟩
  · simp [Stretch.text]
  · exact h

theorem IsLexeme.readsAs {kind : Kind} {value : Option String}
    (h : IsLexeme text rest kind value) : ReadsAs text rest [(kind, value)] := by
  refine ⟨[.lexeme text kind value], ?_, ⟨?_, trivial⟩, rfl⟩
  · simp [Stretch.text]
  · exact h

/-- A text that splits up to its end is read, with the contents of its lexemes. -/
theorem ReadsAs.exists_tokenize (h : ReadsAs text [] contents) (file : String) (before : Nat) :
    ∃ tokens, tokenize (String.ofList text) file before = .ok tokens ∧
      tokens.map Token.content = contents ++ [(.eof, none)] := by
  obtain ⟨stretches, rfl, hs, rfl⟩ := h
  have hread := scan_eq_ok_iff.2 ⟨stretches, String.toList_ofList, hs, rfl⟩
  refine ⟨_, tokenize_eq_ok_iff.2 hread, ?_⟩
  rw [List.map_append, map_content_tokensOf]
  rfl

/-- What is read has the contents of the lexemes that its text splits into. -/
theorem exists_readsAs_of_tokenize {source file : String} {before : Nat} {tokens : TokenList}
    (h : tokenize source file before = .ok tokens) :
    ∃ contents, ReadsAs source.toList [] contents ∧
      tokens.map Token.content = contents ++ [(.eof, none)] := by
  obtain ⟨stretches, hsource, hs, rfl⟩ := scan_eq_ok_iff.1 (tokenize_eq_ok_iff.1 h)
  refine ⟨_, ⟨stretches, hsource, hs, rfl⟩, ?_⟩
  rw [List.map_append, map_content_tokensOf]
  rfl

end ReadsAs

/-! ### Printed items are lexemes -/

/-- The text goes on with a blank, or it ends. -/
def BlankAhead (rest : List Char) : Prop := rest = [] ∨ startsWith isBlank rest = true

theorem not_opensComment_of_isBlank {c : Char} (h : isBlank c = true) :
    opensComment c = false := by
  simp only [opensComment, Bool.or_eq_false_iff, beq_eq_false_iff_ne]
  constructor
  · exact ne_of_class h (by decide)
  · exact ne_of_class h (by decide)

theorem Keyword.isWord_spelling (word : Keyword) : IsWord word.spelling.toList := by
  cases word <;> decide +kernel

/-- A punctuator is one character or a pair. -/
theorem Punctuator.spelling_cases (mark : Punctuator) :
    (∃ c, mark.spelling.toList = [c]) ∨ ∃ c d, mark.spelling.toList = [c, d] := by
  have hlength : mark.spelling.toList.length = 1 ∨ mark.spelling.toList.length = 2 := by
    cases mark <;> decide
  rcases hs : mark.spelling.toList with - | ⟨c, - | ⟨d, - | ⟨e, more⟩⟩⟩
  · simp [hs] at hlength
  · exact .inl ⟨c, rfl⟩
  · exact .inr ⟨c, d, rfl⟩
  · simp [hs] at hlength

section Item

variable {rest : List Char}

/-- A class without blanks does not go on where a blank is ahead. -/
theorem BlankAhead.startsWith_eq_false {p : Char → Bool} (h : BlankAhead rest)
    (hp : ∀ c, isBlank c = true → p c = false) : startsWith p rest = false := by
  rcases h with rfl | h
  · rfl
  · exact startsWith_eq_false_of_imp hp h

theorem BlankAhead.not_isNamePart (h : BlankAhead rest) : startsWith isNamePart rest = false :=
  h.startsWith_eq_false fun _ => not_isNamePart_of_isBlank

theorem BlankAhead.numeralStops (h : BlankAhead rest) (text : List Char) :
    NumeralStops text rest := by
  constructor
  · exact h.startsWith_eq_false fun _ => eq_false_of_imp not_isBlank_of_isDigit
  · rintro - ⟨tail, rfl, -⟩
    rcases h with h | h
    · cases h
    · rw [startsWith_cons] at h
      exact absurd h (by decide)

/-- Before a blank, the spelling of a punctuator is that punctuator. -/
theorem Punctuator.isLexeme_spelling (mark : Punctuator) (h : BlankAhead rest) :
    IsLexeme mark.spelling.toList rest (.punctuator mark) none := by
  rcases mark.spelling_cases with ⟨c, hc⟩ | ⟨c, d, hcd⟩
  · -- a single mark must not begin a pair or a comment, and a blank completes neither
    have hpair : ∀ d, isBlank d = true → (Punctuator.pair? c d).isSome = false := by
      intro d hd
      rw [pair?_eq_none_of_not_isSymbol (not_isSymbol_of_isBlank hd)]
      rfl
    rw [hc]
    refine .single (Punctuator.single?_eq_some_iff.2 hc) (h.startsWith_eq_false hpair) ?_
    exact fun _ => h.startsWith_eq_false fun _ => not_opensComment_of_isBlank
  · have hp := Punctuator.pair?_eq_some_iff.2 hcd
    rw [hcd]
    rcases hl : isLogical c with - | -
    · exact .pair hl hp
    · -- a logical pair must not go on as a longer run
      obtain rfl := eq_of_pair?_of_isLogical hp (.inl hl)
      have hblank := not_isBlank_of_isSymbol (isSymbol_of_isLogical hl)
      refine .logical hl hp (h.startsWith_eq_false fun d hd => beq_eq_false_iff_ne.2 ?_)
      exact ne_of_class hd hblank

/-- An item that is printed before a blank or the end is a lexeme there. -/
theorem Item.Prints.isLexeme {item : Item} {written : List Char} (hw : item.Prints written)
    (h : BlankAhead rest) : IsLexeme written rest item.content.1 item.content.2 := by
  cases hw with
  | @spelled kind text hs =>
    cases kind with
    | keyword word =>
      obtain rfl := Option.some.inj hs
      exact .keyword word.isWord_spelling h.not_isNamePart word.ofWord?_spelling
    | punctuator mark =>
      obtain rfl := Option.some.inj hs
      exact mark.isLexeme_spelling h
    | number | stringLiteral | characterLiteral | identifier | eof => cases hs
  | @identifier name hname hk => exact .identifier hname h.not_isNamePart hk
  | @number _ hn =>
    have hl : startsWith isLetter rest = false :=
      h.startsWith_eq_false fun _ => not_isLetter_of_isBlank
    exact .number hn (h.numeralStops _) hl
  | stringLiteral hp => exact .stringLiteral hp
  | characterLiteral hp => exact .characterLiteral hp

/-- What a lexeme says can be printed. -/
theorem IsLexeme.exists_item {text : List Char} {kind : Kind} {value : Option String}
    (h : IsLexeme text rest kind value) : ∃ item : Item, item.content = (kind, value) := by
  cases h with
  | @keyword _ _ word => exact ⟨.spelled (.keyword word) word.spelling rfl, rfl⟩
  | @identifier text _ hw _ hk => exact ⟨.identifier text hw hk, rfl⟩
  | @number text _ hn => exact ⟨.number text hn, rfl⟩
  | @stringLiteral payload => exact ⟨.stringLiteral payload, rfl⟩
  | @characterLiteral payload => exact ⟨.characterLiteral payload, rfl⟩
  | @logical _ _ mark | @pair _ _ _ mark | @single _ _ mark =>
    exact ⟨.spelled (.punctuator mark) mark.spelling rfl, rfl⟩

/-- What a text says can be printed. -/
theorem ReadsAs.exists_items {text : List Char} {contents : List Content}
    (h : ReadsAs text rest contents) : ∃ items : List Item, items.map Item.content = contents := by
  obtain ⟨stretches, -, hs, rfl⟩ := h
  induction stretches with
  | nil => exact ⟨[], rfl⟩
  | cons stretch stretches ih =>
    obtain ⟨items, hitems⟩ := ih hs.2
    cases stretch with
    | trivia text => exact ⟨items, hitems⟩
    | lexeme text kind value =>
      obtain ⟨item, hitem⟩ := IsLexeme.exists_item hs.1
      exact ⟨item :: items, by rw [List.map_cons, hitem, hitems]; rfl⟩

end Item

/-! ### Printed texts -/

section Printing

variable {text rest : List Char} {items : List Item}

/-- A gap splits into trivia, whatever follows it. -/
theorem Gap.readsAs (h : Gap text) (rest : List Char) : ReadsAs text rest [] := by
  induction h with
  | nil => exact .nil
  | @blank c more hc _ ih =>
    have hblank : IsTrivia [c] (more ++ rest) := .blank hc
    exact hblank.readsAs.append ih
  | @lineComment body more hbody _ ih =>
    -- the comment stops before its line break, which is a blank of its own
    have hcomment : IsTrivia ('/' :: '/' :: body) (('\n' :: more) ++ rest) :=
      .lineComment hbody (.inr rfl)
    have hbreak : IsTrivia ['\n'] (more ++ rest) := .blank (by decide)
    exact hcomment.readsAs.append (hbreak.readsAs.append ih)
  | @blockComment body more hbody _ ih =>
    have hcomment : IsTrivia ('/' :: '*' :: (body ++ ['*', '/'])) (more ++ rest) :=
      .blockComment hbody
    exact hcomment.readsAs.append ih

theorem IsSeparator.blankAhead (h : IsSeparator text) (rest : List Char) :
    BlankAhead (text ++ rest) := by
  obtain ⟨c, more, rfl, hc⟩ := exists_cons_of_startsWith h.2
  exact .inr (by simpa using hc)

theorem IsMargin.blankAhead (h : IsMargin text) : BlankAhead text := by
  rcases h with rfl | h
  · exact .inl rfl
  · exact .inr h.2

theorem IsMargin.readsAs (h : IsMargin text) (rest : List Char) : ReadsAs text rest [] := by
  rcases h with rfl | h
  · exact .nil
  · exact h.1.readsAs rest

/-- Joined items are read as their contents, if a blank keeps what follows apart. -/
theorem Joined.readsAs (h : Joined items text) (hrest : BlankAhead rest) :
    ReadsAs text rest (items.map Item.content) := by
  induction h with
  | nil => exact .nil
  | last hw => exact (hw.isLexeme hrest).readsAs
  | @cons item written gap next items text hw hgap _ ih =>
    -- the separator starts with a blank, and that is all the item has to know of what follows
    have hgap' : ReadsAs (gap ++ text) rest ((next :: items).map Item.content) :=
      (hgap.1.readsAs _).append ih
    have hblank : BlankAhead (gap ++ text ++ rest) := by
      rw [List.append_assoc]
      exact hgap.blankAhead _
    exact (hw.isLexeme hblank).readsAs.append hgap'

/-- A printed text is read as the contents of its items. -/
theorem Printing.readsAs (h : Printing items text) :
    ReadsAs text [] (items.map Item.content) := by
  obtain ⟨hlead, hbody, htrail⟩ := h
  have htrail' : ReadsAs _ [] [] := htrail.readsAs []
  have hbody' := (hbody.readsAs (by simpa using htrail.blankAhead)).append htrail'
  simpa using (hlead.readsAs _).append hbody'

end Printing

/-! ### A printer -/

/-- A character of a literal as it is written between quotes. -/
def escapeFor (quote c : Char) : List Char :=
  if c = '\n' then ['\\', 'n']
  else if c = '\\' then ['\\', '\\']
  else if c = quote then ['\\', quote]
  else [c]

theorem writes_flatMap_escapeFor (quote : Char) (payload : List Char) :
    Writes quote payload (payload.flatMap (escapeFor quote)) := by
  induction payload with
  | nil => exact .nil
  | cons c payload ih =>
    rw [List.flatMap_cons, escapeFor]
    split
    · next hn => subst hn; exact .escape .newline ih
    split
    · next hb => subst hb; exact .escape .backslash ih
    split
    · next hq => subst hq; exact .escape .quote ih
    · next hn hb hq => exact .plain hq hb hn ih

/-- One way to write an item. -/
def Item.print : Item → List Char
  | .spelled _ text _ => text.toList
  | .identifier name _ _ => name
  | .number text _ => text
  | .stringLiteral payload => '"' :: (payload.flatMap (escapeFor '"') ++ ['"'])
  | .characterLiteral payload => '\'' :: ([payload].flatMap (escapeFor '\'') ++ ['\''])

/-- One way to print items: a space between each two. -/
def printItems : List Item → List Char
  | [] => []
  | [item] => item.print
  | item :: next :: items => item.print ++ ([' '] ++ printItems (next :: items))

theorem Item.prints_print (item : Item) : item.Prints item.print := by
  cases item with
  | spelled => exact .spelled
  | identifier => exact .identifier
  | number => exact .number
  | stringLiteral => exact .stringLiteral (writes_flatMap_escapeFor _ _)
  | characterLiteral => exact .characterLiteral (writes_flatMap_escapeFor _ _)

theorem isSeparator_space : IsSeparator [' '] := ⟨.blank (by decide) .nil, by decide⟩

theorem joined_printItems (items : List Item) : Joined items (printItems items) := by
  induction items using printItems.induct with
  | case1 => exact .nil
  | case2 item => exact .last item.prints_print
  | case3 item next items ih => exact .cons item.prints_print isSeparator_space ih

theorem printing_printItems (items : List Item) : Printing items (printItems items) := by
  simpa using Printing.mk (.inl rfl) (joined_printItems items) (.inl rfl)

/-! ### Reading what was printed -/

/-- **Reading undoes printing.**  Every way to print items is read as the items and the end.  What
a text is read as can be printed, and every way to print it is read as the same. -/
theorem tokenize_printing (file : String) (before : Nat) :
    (∀ items text, Printing items text →
      ∃ tokens, tokenize (String.ofList text) file before = .ok tokens ∧
        tokens.map Token.content = items.map Item.content ++ [(.eof, none)]) ∧
    ∀ source tokens, tokenize source file before = .ok tokens →
      ∃ items, tokens.map Token.content = items.map Item.content ++ [(.eof, none)] ∧
        Printing items (printItems items) ∧
        ∀ text, Printing items text →
          ∃ again, tokenize (String.ofList text) file before = .ok again ∧
            again.map Token.content = tokens.map Token.content := by
  have hread : ∀ items text, Printing items text →
      ∃ tokens, tokenize (String.ofList text) file before = .ok tokens ∧
        tokens.map Token.content = items.map Item.content ++ [(.eof, none)] :=
    fun items text h => h.readsAs.exists_tokenize file before
  refine ⟨hread, fun source tokens h => ?_⟩
  obtain ⟨contents, hsource, htokens⟩ := exists_readsAs_of_tokenize h
  obtain ⟨items, rfl⟩ := hsource.exists_items
  refine ⟨items, htokens, printing_printItems items, fun text ht => ?_⟩
  rw [htokens]
  exact hread items text ht

/-- A string that holds a quote, a line break and a comment mark, and an operator behind two
comments. -/
theorem tokenize_printing_comments :
    let items : List Item :=
      [.stringLiteral ['"', '\n', '/', '*'], .spelled (.punctuator .and) "&&" rfl]
    let text := "\"\\\"\\n/*\" /*x*///y\n&&".toList
    Printing items text ∧
      ∃ tokens, tokenize (String.ofList text) "m.k" 0 = .ok tokens ∧
        tokens.map Token.content =
          [(.stringLiteral, some "\"\n/*"), (.punctuator .and, none), (.eof, none)] ∧
        ∃ others again, tokenize (String.ofList (printItems others)) "m.k" 0 = .ok again ∧
          again.map Token.content = tokens.map Token.content := by
  intro items text
  have hwrites : Writes '"' ['"', '\n', '/', '*'] ['\\', '"', '\\', 'n', '/', '*'] :=
    .escape .quote (.escape .newline
      (.plain (by decide) (by decide) (by decide) (.plain (by decide) (by decide) (by decide) .nil)))
  have hgap : Gap [' ', '/', '*', 'x', '*', '/', '/', '/', 'y', '\n'] :=
    .blank (by decide)
      (@Gap.blockComment ['x'] _ (by decide) (@Gap.lineComment ['y'] _ (by decide) .nil))
  have hprinting : Printing items text :=
    @Printing.mk [] _ text [] (.inl rfl)
      (.cons (.stringLiteral hwrites) ⟨hgap, by decide⟩ (.last .spelled)) (.inl rfl)
  obtain ⟨tokens, htokens, hcontent⟩ := (tokenize_printing "m.k" 0).1 items text hprinting
  obtain ⟨others, -, hothers, hread⟩ := (tokenize_printing "m.k" 0).2 _ tokens htokens
  obtain ⟨again, hagain, hsame⟩ := hread _ hothers
  exact ⟨hprinting, tokens, htokens, hcontent, others, again, hagain, hsame⟩

end FrontEnd
