/-
FrontEnd/Proofs/Listing.lean

The listing of tokens, and what can be read off it.

A label is the name of the kind, and the value in parentheses if there is one.  No name
holds a parenthesis, so one label tells kind and value apart whatever the value is
(`label_eq_label_iff`).  In a listing the labels are told apart by newlines alone, and a
value may hold one: the literals of characters and strings stand for what their escapes
mean.  Without such a value the listing has one line for each token and tells all of them
(`listing_lines`); with one, neither is so (`listing_ambiguous`).
-/
import FrontEnd.Command.Lex
import FrontEnd.Proofs.Printing
import Mathlib.Data.List.Nodup

namespace FrontEnd

/-! ### Names of kinds -/

theorem Keyword.mem_all (word : Keyword) : word ∈ Keyword.all := by
  cases word <;> decide

theorem Kind.mem_all (kind : Kind) : kind ∈ Kind.all := by
  cases kind with
  | keyword word =>
    have hword : Kind.keyword word ∈ Keyword.all.map .keyword := List.mem_map_of_mem word.mem_all
    simp [Kind.all, hword]
  | punctuator mark =>
    have hmark : Kind.punctuator mark ∈ Punctuator.all.map .punctuator :=
      List.mem_map_of_mem mark.mem_all
    simp [Kind.all, hmark]
  | _ => decide

/-- No two kinds have one name. -/
theorem Kind.name_injective : Function.Injective Kind.name := by
  have hdistinct : (Kind.all.map Kind.name).Nodup := by decide +kernel
  exact fun kind other h =>
    List.inj_on_of_nodup_map hdistinct kind.mem_all other.mem_all h

/-- A name is neither broken nor followed by a value of its own. -/
theorem Kind.not_mem_name {c : Char} (hc : c = '(' ∨ c = '\n') (kind : Kind) :
    c ∉ kind.name.toList := by
  have hall : ∀ kind ∈ Kind.all, '(' ∉ kind.name.toList ∧ '\n' ∉ kind.name.toList := by
    decide +kernel
  rcases hc with rfl | rfl
  · exact (hall kind kind.mem_all).1
  · exact (hall kind kind.mem_all).2

/-! ### Labels -/

namespace Token

variable {token other : Token}

/-- What a label shows of a value. -/
def shownValue : Option String → List Char
  | none => []
  | some value => '(' :: (value.toList ++ [')'])

theorem toList_label (token : Token) :
    token.label.toList = token.kind.name.toList ++ shownValue token.value := by
  unfold label
  cases token.value <;> simp [shownValue, toString]

theorem shownValue_injective : Function.Injective shownValue := by
  rintro (_ | value) (_ | other) h
  · rfl
  · cases h
  · cases h
  · have hvalue : value.toList = other.toList :=
      List.append_cancel_right (List.cons.inj h).2
    rw [String.toList_inj.1 hvalue]

/-- The name in a label ends where the value begins. -/
theorem takeWhile_label (token : Token) :
    token.label.toList.takeWhile (· != '(') = token.kind.name.toList := by
  have hname := all_ne_of_not_mem (Kind.not_mem_name (.inl rfl) token.kind)
  rw [toList_label, List.takeWhile_append_of_pos hname]
  cases token.value <;> simp [shownValue]

/-- A label tells the kind and the value. -/
theorem label_eq_label_iff : token.label = other.label ↔ token.content = other.content := by
  constructor
  · intro h
    -- the name is what stands before the bracket, and behind the name the value is left
    have hname : token.kind.name.toList = other.kind.name.toList := by
      rw [← takeWhile_label, h, takeWhile_label]
    have hlabels := congrArg String.toList h
    rw [toList_label, toList_label, hname] at hlabels
    have hkind := Kind.name_injective (String.toList_inj.1 hname)
    have hvalue := shownValue_injective (List.append_cancel_left hlabels)
    exact Prod.ext hkind hvalue
  · intro h
    obtain ⟨hkind, hvalue⟩ := Prod.mk.inj h
    rw [label, label, hkind, hvalue]

/-- A label is broken only by its value. -/
theorem newline_mem_label_iff : '\n' ∈ token.label.toList ↔ '\n' ∈ token.text.toList := by
  have hname := Kind.not_mem_name (.inr rfl) token.kind
  rw [toList_label, text]
  cases token.value <;> simp [shownValue, hname]

end Token

/-! ### Listings -/

/-- Rows that are ended by newlines are the lines of what they make up. -/
theorem splitLines_flatMap_newline {rows : List (List Char)} (h : ∀ row ∈ rows, '\n' ∉ row) :
    splitLines (rows.flatMap (· ++ ['\n'])) = rows ++ [[]] := by
  induction rows with
  | nil => rfl
  | cons row rows ih =>
    have hrow := h row List.mem_cons_self
    have hrows := ih fun other ho => h other (List.mem_cons_of_mem row ho)
    rw [List.flatMap_cons, List.append_assoc, splitLines]
    exact (splitAtEach_append_sep hrow _).trans (congrArg (row :: ·) hrows)

namespace TokenList

variable {tokens others : TokenList}

/-- The rows of a listing, one for each token. -/
def labels (tokens : TokenList) : List (List Char) := tokens.map fun token => token.label.toList

/-- No value holds a line break. -/
def Unbroken (tokens : TokenList) : Prop := ∀ token ∈ tokens, '\n' ∉ token.text.toList

instance (tokens : TokenList) : Decidable tokens.Unbroken :=
  inferInstanceAs (Decidable (∀ token ∈ tokens, '\n' ∉ token.text.toList))

theorem toList_listing (tokens : TokenList) :
    tokens.listing.toList = tokens.labels.flatMap (· ++ ['\n']) := by
  simp [listing, labels, List.flatMap_map]

/-- Rows without a line break are the lines of a listing, and there are no other lines. -/
theorem splitLines_listing_eq_iff :
    splitLines tokens.listing.toList = tokens.labels ++ [[]] ↔ tokens.Unbroken := by
  rw [toList_listing]
  constructor
  · intro h token htoken
    have hrow : token.label.toList ∈ tokens.labels ++ [[]] :=
      List.mem_append_left _ (List.mem_map_of_mem htoken)
    rw [← h] at hrow
    exact mt Token.newline_mem_label_iff.2 (sep_not_mem_of_mem_splitAtEach hrow)
  · intro h
    refine splitLines_flatMap_newline fun row hrow => ?_
    obtain ⟨token, htoken, rfl⟩ := List.mem_map.1 hrow
    exact mt Token.newline_mem_label_iff.1 (h token htoken)

/-- Labels that are alike tell the same. -/
theorem map_content_eq_of_labels_eq (h : tokens.labels = others.labels) :
    tokens.map Token.content = others.map Token.content := by
  induction tokens generalizing others with
  | nil =>
    cases others with
    | nil => rfl
    | cons other others => cases h
  | cons token tokens ih =>
    cases others with
    | nil => cases h
    | cons other others =>
      obtain ⟨hlabel, hlabels⟩ := List.cons.inj h
      have hcontent := Token.label_eq_label_iff.1 (String.toList_inj.1 hlabel)
      rw [List.map_cons, List.map_cons, hcontent, ih hlabels]

/-- Unbroken listings that are alike tell the same. -/
theorem map_content_eq_of_listing_eq (h : tokens.Unbroken) (hothers : others.Unbroken)
    (heq : tokens.listing = others.listing) :
    tokens.map Token.content = others.map Token.content := by
  have hlines := splitLines_listing_eq_iff.2 h
  rw [heq, splitLines_listing_eq_iff.2 hothers] at hlines
  exact (map_content_eq_of_labels_eq (List.append_cancel_right hlines)).symm

end TokenList

/-! ### The tokens of a source file -/

section LexFile

variable {files : Files} {path source file : String} {tokens : TokenList} {before : Nat}

/-- The tokens of a text end with the one that marks its end. -/
theorem getLast?_of_tokenize (h : tokenize source file before = .ok tokens) :
    tokens.getLast? = some (endToken (Position.start.after source.toList)) := by
  obtain ⟨stretches, -, -, rfl⟩ := scan_eq_ok_iff.1 (tokenize_eq_ok_iff.1 h)
  exact List.getLast?_concat

theorem readSource_eq_ok_iff {command : String} :
    readSource files path command = .ok source ↔
      hasExtension path sourceExtension = true ∧ files.read path = .ok source := by
  unfold readSource
  by_cases hextension : hasExtension path sourceExtension = true
  · cases hread : files.read path <;> simp [hextension, Except.mapError]
  · simp [hextension]

/-- Once a source text has been read, there is only the text to fail. -/
theorem lexFile_of_readSource (h : readSource files path "lex" = .ok source) :
    lexFile files path = (tokenize source path defaultContext).mapError .diagnostic := by
  simp only [lexFile, h, bind, Except.bind]

theorem lexFile_of_readSource_error {failure : Failure}
    (h : readSource files path "lex" = .error failure) : lexFile files path = .error failure := by
  simp only [lexFile, h, bind, Except.bind]

theorem lexFile_eq_ok_iff :
    lexFile files path = .ok tokens ↔
      ∃ source, readSource files path "lex" = .ok source ∧
        tokenize source path defaultContext = .ok tokens := by
  cases hread : readSource files path "lex" with
  | error failure => simp [lexFile_of_readSource_error hread]
  | ok source =>
    rw [lexFile_of_readSource hread]
    cases htokens : tokenize source path defaultContext <;> simp [htokens, Except.mapError]

/-- **A line for each token.**  The listing of a source file is ended by a newline.  It has the
labels for its lines exactly if no value holds a line break, and among such files it tells the
kinds and the values of all tokens. -/
theorem listing_lines (h : lexFile files path = .ok tokens) :
    tokens.listing.toList.getLast? = some '\n' ∧
      (splitLines tokens.listing.toList = tokens.labels ++ [[]] ↔ tokens.Unbroken) ∧
      (tokens.Unbroken → ∀ (otherFiles : Files) (otherPath : String) (others : TokenList),
        lexFile otherFiles otherPath = .ok others → others.Unbroken →
        tokens.listing = others.listing →
        tokens.map Token.content = others.map Token.content) := by
  obtain ⟨source, -, htokens⟩ := lexFile_eq_ok_iff.1 h
  refine ⟨?_, TokenList.splitLines_listing_eq_iff, fun hunbroken _ _ others _ hothers heq => ?_⟩
  · obtain ⟨front, hfront⟩ := List.getLast?_eq_some_iff.1 (getLast?_of_tokenize htokens)
    rw [TokenList.toList_listing, TokenList.labels, hfront, List.map_append, List.flatMap_append]
    simp
  · exact TokenList.map_content_eq_of_listing_eq hunbroken hothers heq

/-- A name, and literals whose values look like labels. -/
theorem listing_lines_literals :
    let files : Files := ⟨fun _ => .ok "x = \"EOF)\" + '(';"⟩
    let tokens : TokenList := [⟨.identifier, some "x", ⟨1, 1⟩⟩,
      ⟨.punctuator .assignment, none, ⟨1, 3⟩⟩, ⟨.stringLiteral, some "EOF)", ⟨1, 10⟩⟩,
      ⟨.punctuator .plus, none, ⟨1, 12⟩⟩, ⟨.characterLiteral, some "(", ⟨1, 16⟩⟩,
      ⟨.punctuator .semicolon, none, ⟨1, 17⟩⟩, ⟨.eof, none, ⟨1, 17⟩⟩]
    lexFile files "a.k" = .ok tokens ∧ tokens.Unbroken ∧
      splitLines tokens.listing.toList = tokens.labels ++ [[]] := by
  intro files tokens
  have htokens : lexFile files "a.k" = .ok tokens := by decide +kernel
  have hunbroken : tokens.Unbroken := by decide +kernel
  exact ⟨htokens, hunbroken, (listing_lines htokens).2.1.2 hunbroken⟩

/-- A literal with a line break is listed as two tokens are: there are more lines than tokens,
and another source text has the same listing. -/
theorem listing_ambiguous :
    let broken : TokenList := [⟨.stringLiteral, some "x)\nIDENTIFIER(y", ⟨1, 18⟩⟩,
      ⟨.eof, none, ⟨1, 18⟩⟩]
    let unbroken : TokenList := [⟨.stringLiteral, some "x", ⟨1, 3⟩⟩,
      ⟨.identifier, some "y", ⟨1, 5⟩⟩, ⟨.eof, none, ⟨1, 5⟩⟩]
    lexFile ⟨fun _ => .ok "\"x)\\nIDENTIFIER(y\""⟩ "a.k" = .ok broken ∧
      lexFile ⟨fun _ => .ok "\"x\" y"⟩ "a.k" = .ok unbroken ∧
      (splitLines broken.listing.toList).length = broken.length + 2 ∧
      broken.listing = unbroken.listing ∧
      broken.map Token.content ≠ unbroken.map Token.content := by
  decide +kernel

end LexFile

end FrontEnd
