/-
FrontEnd/Text/Split.lean

Cutting a text at every occurrence of one character.  A text with `n` occurrences
has `n + 1` pieces, empty ones included, so joining the pieces gives it back.
-/

namespace FrontEnd

/-- The pieces of a text between the occurrences of `sep`. -/
def splitAtEach (sep : Char) : List Char → List (List Char)
  | [] => [[]]
  | c :: text =>
    if c = sep then [] :: splitAtEach sep text
    else
      match splitAtEach sep text with
      | [] => [[c]]
      | piece :: more => (c :: piece) :: more

/-- The pieces with `sep` between neighbours. -/
def joinWith (sep : Char) : List (List Char) → List Char
  | [] => []
  | [piece] => piece
  | piece :: more => piece ++ sep :: joinWith sep more

theorem splitAtEach_ne_nil (sep : Char) (text : List Char) : splitAtEach sep text ≠ [] := by
  cases text with
  | nil => simp [splitAtEach]
  | cons c text =>
    rw [splitAtEach]
    split
    · simp
    · split <;> simp

@[simp] theorem splitAtEach_nil (sep : Char) : splitAtEach sep [] = [[]] := rfl

@[simp] theorem splitAtEach_sep (sep : Char) (text : List Char) :
    splitAtEach sep (sep :: text) = [] :: splitAtEach sep text := by
  simp [splitAtEach]

theorem joinWith_cons {more : List (List Char)} (sep : Char) (piece : List Char)
    (h : more ≠ []) : joinWith sep (piece :: more) = piece ++ sep :: joinWith sep more := by
  cases more with
  | nil => exact absurd rfl h
  | cons => rfl

/-- Nothing is lost by cutting. -/
theorem joinWith_splitAtEach (sep : Char) (text : List Char) :
    joinWith sep (splitAtEach sep text) = text := by
  induction text with
  | nil => rfl
  | cons c text ih =>
    rw [splitAtEach]
    split
    · next h => rw [joinWith_cons _ _ (splitAtEach_ne_nil sep text), ih, h]; rfl
    · split
      · next h => exact absurd h (splitAtEach_ne_nil sep text)
      · next piece more h =>
        rw [h] at ih
        cases more <;> simp_all [joinWith]

/-- No piece holds the separator. -/
theorem sep_not_mem_of_mem_splitAtEach {sep : Char} {text piece : List Char}
    (h : piece ∈ splitAtEach sep text) : sep ∉ piece := by
  induction text generalizing piece with
  | nil =>
    rw [splitAtEach_nil, List.mem_singleton] at h
    simp [h]
  | cons c text ih =>
    rw [splitAtEach] at h
    split at h
    · rcases List.mem_cons.1 h with rfl | h
      · simp
      · exact ih h
    · next hc =>
      split at h
      · next hn => exact absurd hn (splitAtEach_ne_nil sep text)
      · next first more hs =>
        rcases List.mem_cons.1 h with rfl | h
        · intro hm
          rcases List.mem_cons.1 hm with hm | hm
          · exact hc hm.symm
          · exact ih (hs ▸ List.mem_cons_self) hm
        · exact ih (hs ▸ List.mem_cons_of_mem first h)

/-- A text without the separator is one piece. -/
theorem splitAtEach_of_not_mem {sep : Char} {text : List Char} (h : sep ∉ text) :
    splitAtEach sep text = [text] := by
  induction text with
  | nil => rfl
  | cons c text ih =>
    obtain ⟨hc, ht⟩ := not_or.1 (mt List.mem_cons.2 h)
    rw [splitAtEach, if_neg (Ne.symm hc), ih ht]

/-- The first separator ends the first piece. -/
theorem splitAtEach_append_sep {sep : Char} {piece : List Char} (h : sep ∉ piece)
    (text : List Char) :
    splitAtEach sep (piece ++ sep :: text) = piece :: splitAtEach sep text := by
  induction piece with
  | nil => exact splitAtEach_sep sep text
  | cons c piece ih =>
    obtain ⟨hc, hp⟩ := not_or.1 (mt List.mem_cons.2 h)
    rw [List.cons_append, splitAtEach, if_neg (Ne.symm hc), ih hp]

end FrontEnd
