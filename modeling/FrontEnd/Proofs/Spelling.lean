/-
FrontEnd/Proofs/Spelling.lean

Looking a text up finds exactly the keyword or punctuator that is written so.
Words, single characters and pairs of characters are looked up in tables of their
own, apart from the spellings, and it is here that each of the three is shown to
agree with them, so that no later proof goes through a table again.

The only facts about particular marks that reading depends on are those on `&`
and `|`, which stand in a pair with themselves and in no other mark, and on the
first character of a pair, which is otherwise a mark of its own.
-/
import FrontEnd.Token.Kind
import FrontEnd.Proofs.Classes

namespace FrontEnd

/-! ### The tables agree with the spellings -/

namespace Keyword

/-- Every keyword is found, so it stands with the words of its own length. -/
theorem ofWord?_spelling (word : Keyword) : ofWord? word.spelling.toList = some word := by
  cases word <;> decide +kernel

/-- A word is reserved exactly if it is the spelling of a keyword. -/
theorem ofWord?_eq_some_iff {text : List Char} {word : Keyword} :
    ofWord? text = some word ↔ word.spelling.toList = text := by
  constructor
  · intro h
    -- one case for each row, which is compared with the whole text
    have hrow : String.ofList text = word.spelling := by
      unfold ofWord? at h
      dsimp only at h
      split at h <;> try split at h
      all_goals cases h
      all_goals assumption
    rw [← hrow, String.toList_ofList]
  · rintro rfl
    exact word.ofWord?_spelling

end Keyword

namespace Punctuator

/-- A character is a mark of its own exactly if it is the whole spelling of one. -/
theorem single?_eq_some_iff {c : Char} {mark : Punctuator} :
    single? c = some mark ↔ mark.spelling.toList = [c] := by
  constructor
  · intro h
    unfold single? at h
    split at h
    all_goals cases h
    all_goals rfl
  · intro h
    -- marks of two characters are not spelled so
    cases mark <;> simp [spelling] at h
    all_goals subst h
    all_goals rfl

/-- Two characters form a pair exactly if they are the whole spelling of a mark. -/
theorem pair?_eq_some_iff {c d : Char} {mark : Punctuator} :
    pair? c d = some mark ↔ mark.spelling.toList = [c, d] := by
  constructor
  · intro h
    unfold pair? at h
    split at h
    all_goals cases h
    all_goals rfl
  · intro h
    cases mark <;> simp [spelling] at h
    all_goals obtain ⟨rfl, rfl⟩ := h
    all_goals rfl

end Punctuator

/-! ### The characters of punctuators -/

theorem Punctuator.mem_all (mark : Punctuator) : mark ∈ Punctuator.all := by
  cases mark <;> decide

theorem Punctuator.isSymbol_of_mem_spelling (mark : Punctuator) {c : Char}
    (h : c ∈ mark.spelling.toList) : isSymbol c = true := by
  have hall : ∀ m ∈ Punctuator.all, m.spelling.toList.all isSymbol = true := by decide +kernel
  exact List.all_eq_true.1 (hall mark mark.mem_all) c h

theorem isSymbol_of_single? {c : Char} {mark : Punctuator}
    (h : Punctuator.single? c = some mark) : isSymbol c = true :=
  mark.isSymbol_of_mem_spelling (by simp [Punctuator.single?_eq_some_iff.1 h])

theorem isSymbol_of_pair? {c d : Char} {mark : Punctuator}
    (h : Punctuator.pair? c d = some mark) : isSymbol c = true ∧ isSymbol d = true := by
  have hs := Punctuator.pair?_eq_some_iff.1 h
  exact ⟨mark.isSymbol_of_mem_spelling (by simp [hs]),
    mark.isSymbol_of_mem_spelling (by simp [hs])⟩

/-- A character that is no symbol completes no pair. -/
theorem pair?_eq_none_of_not_isSymbol {c d : Char} (h : isSymbol d = false) :
    Punctuator.pair? c d = none := by
  rcases hp : Punctuator.pair? c d with - | mark
  · rfl
  · rw [(isSymbol_of_pair? hp).2] at h
    cases h

/-- No pair starts with a slash, so a slash is a comment or a division. -/
theorem pair?_slash (d : Char) : Punctuator.pair? '/' d = none := rfl

/-! ### Logical operators -/

/-- The characters that are only read in runs. -/
def isLogical (c : Char) : Bool := c == '&' || c == '|'

theorem isLogical_iff {c : Char} : isLogical c = true ↔ c = '&' ∨ c = '|' := by
  simp [isLogical]

theorem isSymbol_of_isLogical {c : Char} (h : isLogical c = true) : isSymbol c = true := by
  rcases isLogical_iff.1 h with rfl | rfl <;> decide

theorem single?_eq_none_of_isLogical {c : Char} (h : isLogical c = true) :
    Punctuator.single? c = none := by
  rcases isLogical_iff.1 h with rfl | rfl <;> decide +kernel

theorem pair?_of_isLogical {c : Char} (h : isLogical c = true) :
    Punctuator.pair? c c = some (if c = '&' then .and else .or) := by
  rcases isLogical_iff.1 h with rfl | rfl <;> decide +kernel

/-- In a pair, a logical character stands beside itself only. -/
theorem eq_of_pair?_of_isLogical {c d : Char} {mark : Punctuator}
    (h : Punctuator.pair? c d = some mark) (hcd : isLogical c = true ∨ isLogical d = true) :
    c = d := by
  have hall : ∀ m ∈ Punctuator.all,
      (m.spelling.toList.any isLogical → m = .and ∨ m = .or) := by
    decide +kernel
  have hs := Punctuator.pair?_eq_some_iff.1 h
  have hany : mark.spelling.toList.any isLogical = true := by
    rw [hs]
    simpa using hcd
  rcases hall mark mark.mem_all hany with rfl | rfl
  · obtain ⟨rfl, rfl⟩ : '&' = c ∧ '&' = d := by simpa [Punctuator.spelling] using hs
    rfl
  · obtain ⟨rfl, rfl⟩ : '|' = c ∧ '|' = d := by simpa [Punctuator.spelling] using hs
    rfl

/-- The first character of any other pair is a mark of its own. -/
theorem exists_single?_of_pair? {c d : Char} {mark : Punctuator}
    (h : Punctuator.pair? c d = some mark) (hc : isLogical c = false) :
    ∃ first, Punctuator.single? c = some first := by
  have hall : ∀ m ∈ Punctuator.all, (m.spelling.toList.head?.all fun x =>
      isLogical x || (Punctuator.single? x).isSome) = true := by
    decide +kernel
  have hmark := hall mark mark.mem_all
  rw [Punctuator.pair?_eq_some_iff.1 h] at hmark
  exact Option.isSome_iff_exists.1 (by simpa [hc] using hmark)

end FrontEnd
