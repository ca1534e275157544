/-
FrontEnd/Proofs/Classes.lean

Which classes of characters exclude each other, and what a class says about the
start of a text.

The classes are lists of code point ranges, so that two of them share no character
is one computation on the lists (`CodeRanges.apart`), lifted to all characters
by `CodeRanges.not_contains_of_apart`.  Whether a text begins with a character of
some class (`startsWith`) is all the lookahead that the reading of a lexeme
needs; dropping text from the end only makes it begin with less.
-/
import FrontEnd.Text.CharClass

namespace FrontEnd

/-! ### Classes without a common character -/

/-- Whether every range of one list lies beside every range of the other. -/
def CodeRanges.apart (ranges more : CodeRanges) : Bool :=
  ranges.all fun r => more.all fun s => r.2 < s.1 || s.2 < r.1

theorem CodeRanges.not_contains_of_apart {ranges more : CodeRanges} {c : Char}
    (h : ranges.apart more = true) (hc : ranges.contains c = true) :
    more.contains c = false := by
  obtain ⟨r, hr, hlo, hhi⟩ := CodeRanges.contains_iff.1 hc
  refine Bool.eq_false_iff.2 fun hm => ?_
  obtain ⟨s, hs, hlo', hhi'⟩ := CodeRanges.contains_iff.1 hm
  have hrs := List.all_eq_true.1 (List.all_eq_true.1 h r hr) s hs
  simp only [Bool.or_eq_true, decide_eq_true_eq] at hrs
  omega

/-- An implication between two classes, read backwards. -/
theorem eq_false_of_imp {a b : Bool} (h : a = true → b = false) (hb : b = true) : a = false := by
  cases a with
  | false => rfl
  | true => rw [h rfl] at hb; cases hb

/-- A class that only one of two characters is in tells them apart. -/
theorem ne_of_class {p : Char → Bool} {c x : Char} (hc : p c = true) (hx : p x = false) :
    c ≠ x := by
  rintro rfl
  rw [hx] at hc
  cases hc

/-- The printable ASCII characters that belong to no name, number or white space. -/
def symbolRanges : CodeRanges :=
  [(0x21, 0x23), (0x25, 0x2F), (0x3A, 0x40), (0x5B, 0x5E), (0x60, 0x60), (0x7B, 0x7E)]

/-- A character that marks something: a quote, a bracket, an operator. -/
def isSymbol (c : Char) : Bool := symbolRanges.contains c

/-- The ASCII digits as a list of ranges. -/
def digitRanges : CodeRanges := [(0x30, 0x39)]

theorem digitRanges_contains {c : Char} (h : c.isDigit = true) :
    digitRanges.contains c = true := by
  simp only [Char.isDigit, Bool.and_eq_true, decide_eq_true_eq] at h
  refine CodeRanges.contains_iff.2 ⟨_, List.mem_cons_self, ?_, ?_⟩
  · exact UInt32.le_iff_toNat_le.1 h.1
  · exact UInt32.le_iff_toNat_le.1 h.2

theorem not_isLetter_of_isBlank {c : Char} (h : isBlank c = true) : isLetter c = false :=
  CodeRanges.not_contains_of_apart (by decide +kernel) h

theorem not_isNumeral_of_isBlank {c : Char} (h : isBlank c = true) : isNumeral c = false :=
  CodeRanges.not_contains_of_apart (by decide +kernel) h

theorem not_isBlank_of_isDigit {c : Char} (h : c.isDigit = true) : isBlank c = false :=
  CodeRanges.not_contains_of_apart (by decide) (digitRanges_contains h)

theorem not_isSymbol_of_isBlank {c : Char} (h : isBlank c = true) : isSymbol c = false :=
  CodeRanges.not_contains_of_apart (by decide) h

theorem not_isLetter_of_isDigit {c : Char} (h : c.isDigit = true) : isLetter c = false :=
  CodeRanges.not_contains_of_apart (by decide +kernel) (digitRanges_contains h)

theorem not_isSymbol_of_isDigit {c : Char} (h : c.isDigit = true) : isSymbol c = false :=
  CodeRanges.not_contains_of_apart (by decide) (digitRanges_contains h)

theorem not_isLetter_of_isSymbol {c : Char} (h : isSymbol c = true) : isLetter c = false :=
  CodeRanges.not_contains_of_apart (by decide +kernel) h

theorem not_isNumeral_of_isSymbol {c : Char} (h : isSymbol c = true) : isNumeral c = false :=
  CodeRanges.not_contains_of_apart (by decide +kernel) h

theorem not_isBlank_of_isSymbol {c : Char} (h : isSymbol c = true) : isBlank c = false :=
  eq_false_of_imp not_isSymbol_of_isBlank h

/-! ### The characters of names -/

theorem isNameStart_eq_false_iff {c : Char} :
    isNameStart c = false ↔ isLetter c = false ∧ c ≠ '_' ∧ c ≠ '$' := by
  simp [isNameStart, and_assoc]

theorem isNamePart_eq_false_iff {c : Char} :
    isNamePart c = false ↔ isLetter c = false ∧ isNumeral c = false ∧ c ≠ '_' := by
  simp [isNamePart, and_assoc]

theorem not_isNameStart_of_isBlank {c : Char} (h : isBlank c = true) : isNameStart c = false := by
  refine isNameStart_eq_false_iff.2 ⟨not_isLetter_of_isBlank h, ?_, ?_⟩
  · exact ne_of_class h (by decide)
  · exact ne_of_class h (by decide)

theorem not_isNamePart_of_isBlank {c : Char} (h : isBlank c = true) : isNamePart c = false := by
  refine isNamePart_eq_false_iff.2 ⟨not_isLetter_of_isBlank h, not_isNumeral_of_isBlank h, ?_⟩
  exact ne_of_class h (by decide)

theorem not_isNameStart_of_isDigit {c : Char} (h : c.isDigit = true) : isNameStart c = false := by
  refine isNameStart_eq_false_iff.2 ⟨not_isLetter_of_isDigit h, ?_, ?_⟩
  · exact ne_of_class h (by decide)
  · exact ne_of_class h (by decide)

theorem not_isNameStart_of_isSymbol {c : Char} (h : isSymbol c = true) :
    isNameStart c = false := by
  refine isNameStart_eq_false_iff.2 ⟨not_isLetter_of_isSymbol h, ?_, ?_⟩
  · exact ne_of_class h (by decide)
  · exact ne_of_class h (by decide)

theorem not_isNamePart_of_isSymbol {c : Char} (h : isSymbol c = true) :
    isNamePart c = false := by
  refine isNamePart_eq_false_iff.2 ⟨not_isLetter_of_isSymbol h, not_isNumeral_of_isSymbol h, ?_⟩
  exact ne_of_class h (by decide)

/-! ### The start of a text -/

/-- Whether a text begins with a character of the class `p`. -/
def startsWith (p : Char → Bool) (text : List Char) : Bool := text.head?.any p

section Start

variable {p q : Char → Bool} {text rest : List Char}

@[simp] theorem startsWith_nil : startsWith p [] = false := rfl

@[simp] theorem startsWith_cons {c : Char} : startsWith p (c :: text) = p c := by
  simp [startsWith]

theorem exists_cons_of_startsWith (h : startsWith p text = true) :
    ∃ c more, text = c :: more ∧ p c = true := by
  cases text with
  | nil => cases h
  | cons c more => exact ⟨c, more, rfl, by simpa using h⟩

/-- What a text does not begin with, no text in front of it begins with either. -/
theorem startsWith_of_append (h : startsWith p (text ++ rest) = false) :
    startsWith p text = false := by
  cases text with
  | nil => rfl
  | cons c more => simpa using h

/-- How a text begins is settled by the first character behind its front. -/
theorem startsWith_append_cons {c : Char} :
    startsWith p (text ++ c :: rest) = startsWith p (text ++ [c]) := by
  cases text with
  | nil => rfl
  | cons d text => rfl

theorem startsWith_eq_false_of_imp (hpq : ∀ c, q c = true → p c = false)
    (h : startsWith q text = true) : startsWith p text = false := by
  obtain ⟨c, more, rfl, hc⟩ := exists_cons_of_startsWith h
  simpa using hpq c hc

theorem startsWith_dropWhile : startsWith p (text.dropWhile p) = false := by
  induction text with
  | nil => rfl
  | cons c text ih =>
    rcases hc : p c with - | -
    · simp [hc]
    · simpa [hc] using ih

/-- Where a character does not occur, every character is another one. -/
theorem all_ne_of_not_mem {x : Char} (h : x ∉ text) : ∀ c ∈ text, (c != x) = true := by
  intro c hc
  simpa using ne_of_mem_of_not_mem hc h

/-- A run of a class ends where the class does. -/
theorem takeWhile_append_of_stop (ht : ∀ c ∈ text, p c = true)
    (h : startsWith p rest = false) : (text ++ rest).takeWhile p = text := by
  rw [List.takeWhile_append_of_pos ht]
  cases rest with
  | nil => simp
  | cons c more => simp [show p c = false by simpa using h]

end Start

end FrontEnd
