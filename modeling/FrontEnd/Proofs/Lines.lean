/-
FrontEnd/Proofs/Lines.lean

Two ways to say where a place in a text is, and that they agree.

Reading counts lines and columns while it goes (`Position.after`); the line index cuts
the whole text at its newlines.  Cut a text in two, `text ++ more`: the line that
the position behind `text` names is, in the index, the last line of `text` continued
by the first line of `more`, and the column is how much of it lies in `text`
(`line?_ofText_after`).

Both are compared through the last line of a text (`lastLine`), the part behind its
last newline.
-/
import FrontEnd.Source.LineIndex
import FrontEnd.Source.Position
import FrontEnd.Proofs.Classes

namespace FrontEnd

/-! ### The first and the last line of a text -/

/-- The part of a text before its first newline. -/
def firstLine (text : List Char) : List Char := text.takeWhile (· != '\n')

/-- The part of a text behind its last newline. -/
def lastLine (text : List Char) : List Char := (firstLine text.reverse).reverse

section Lines

variable {text more : List Char}

theorem firstLine_cons {c : Char} (h : c ≠ '\n') :
    firstLine (c :: text) = c :: firstLine text := by
  simp [firstLine, h]

theorem firstLine_append (h : '\n' ∉ text) : firstLine (text ++ more) = text ++ firstLine more :=
  List.takeWhile_append_of_pos (all_ne_of_not_mem h)

theorem firstLine_prefix (text : List Char) : firstLine text <+: text :=
  List.takeWhile_prefix _

theorem newline_not_mem_firstLine (text : List Char) : '\n' ∉ firstLine text := fun h => by
  simpa using List.all_eq_true.1 List.all_takeWhile _ h

/-- A text is its first line, or starts with its first line and a newline. -/
theorem eq_firstLine_or (text : List Char) :
    text = firstLine text ∨ ∃ back, text = firstLine text ++ '\n' :: back := by
  have hcut : text = firstLine text ++ text.dropWhile (· != '\n') :=
    List.takeWhile_append_dropWhile.symm
  cases hrest : text.dropWhile (· != '\n') with
  | nil =>
    rw [hrest, List.append_nil] at hcut
    exact .inl hcut
  | cons c rest =>
    have hc : startsWith (· != '\n') (c :: rest) = false := hrest ▸ startsWith_dropWhile
    obtain rfl : c = '\n' := by simpa using hc
    rw [hrest] at hcut
    exact .inr ⟨rest, hcut⟩

/-- Text without a newline lengthens the last line. -/
theorem lastLine_append (h : '\n' ∉ more) : lastLine (text ++ more) = lastLine text ++ more := by
  have hr : '\n' ∉ more.reverse := fun hm => h (List.mem_reverse.1 hm)
  rw [lastLine, List.reverse_append, firstLine_append hr, List.reverse_append,
    List.reverse_reverse]
  rfl

theorem newline_not_mem_lastLine (text : List Char) : '\n' ∉ lastLine text := fun h =>
  newline_not_mem_firstLine text.reverse (List.mem_reverse.1 h)

theorem lastLine_suffix (text : List Char) : lastLine text <:+ text :=
  List.reverse_prefix.1 (by
    rw [lastLine, List.reverse_reverse]
    exact firstLine_prefix text.reverse)

/-- A text is its last line, or ends with a newline and its last line. -/
theorem eq_lastLine_or (text : List Char) :
    text = lastLine text ∨ ∃ front, text = front ++ '\n' :: lastLine text := by
  -- the first line of the text read backwards
  rcases eq_firstLine_or text.reverse with h | ⟨back, h⟩
  · exact .inl (List.reverse_eq_iff.1 h)
  · refine .inr ⟨back.reverse, ?_⟩
    rw [List.reverse_eq_iff, List.reverse_append, List.reverse_cons, List.append_assoc] at h
    exact h

/-! ### Positions -/

theorem after_of_no_newline (p : Position) (h : '\n' ∉ text) :
    p.after text = ⟨p.line, p.column + text.length⟩ := by
  induction text generalizing p with
  | nil => rfl
  | cons c text ih =>
    obtain ⟨hc, ht⟩ := not_or.1 (mt List.mem_cons.2 h)
    rw [Position.after_cons, ih _ ht, Position.advance, if_neg (Ne.symm hc), List.length_cons]
    simp only [Position.mk.injEq, true_and]
    omega

theorem after_line (p : Position) (text : List Char) :
    (p.after text).line = p.line + text.count '\n' := by
  induction text generalizing p with
  | nil => rfl
  | cons c text ih =>
    rw [Position.after_cons, ih, List.count_cons, Position.advance]
    split
    · next h => simp [h]; omega
    · next h => simp [h]

/-- A position counts the newlines before it and the characters of its line before it. -/
theorem after_start (text : List Char) :
    Position.start.after text = ⟨text.count '\n' + 1, (lastLine text).length⟩ := by
  rcases eq_lastLine_or text with h | ⟨front, h⟩
  · have hn : '\n' ∉ text := h ▸ newline_not_mem_lastLine text
    rw [after_of_no_newline _ hn, ← h, List.count_eq_zero_of_not_mem hn]
    simp [Position.start]
  · -- the newline behind `front` starts a line, which the last line then fills
    have hn := newline_not_mem_lastLine text
    have hcount : text.count '\n' = front.count '\n' + 1 := by
      rw [h, List.count_append, List.count_cons_self, List.count_eq_zero_of_not_mem hn]
    have hline : (Position.start.after front).line = front.count '\n' + 1 := by
      rw [after_line, Nat.add_comm]
      rfl
    calc Position.start.after text
        = ((Position.start.after front).advance '\n').after (lastLine text) := by
          rw [← Position.after_cons, ← Position.after_append, ← h]
      _ = ⟨front.count '\n' + 1 + 1, 0 + (lastLine text).length⟩ := by
          rw [after_of_no_newline _ hn, Position.advance, if_pos rfl, hline]
      _ = ⟨text.count '\n' + 1, (lastLine text).length⟩ := by
          rw [hcount, Nat.zero_add]

/-! ### The lines of two texts in a row -/

/-- A separator cuts a text in two, whatever stands before it. -/
theorem splitAtEach_append_sep_append (sep : Char) (front back : List Char) :
    splitAtEach sep (front ++ sep :: back) = splitAtEach sep front ++ splitAtEach sep back := by
  induction front with
  | nil => exact splitAtEach_sep sep back
  | cons c front ih =>
    obtain ⟨piece, pieces, hp⟩ := List.exists_cons_of_ne_nil (splitAtEach_ne_nil sep front)
    rw [hp, List.cons_append] at ih
    simp only [List.cons_append, splitAtEach, ih, hp]
    split <;> rfl

theorem length_splitAtEach (sep : Char) (text : List Char) :
    (splitAtEach sep text).length = text.count sep + 1 := by
  induction text with
  | nil => rfl
  | cons c text ih =>
    obtain ⟨piece, pieces, hp⟩ := List.exists_cons_of_ne_nil (splitAtEach_ne_nil sep text)
    rw [hp] at ih
    simp only [splitAtEach, hp, List.count_cons]
    split
    · next h => simp [h, ← ih]
    · next h => simp [h, ← ih]

/-- The first piece of a text is its first line. -/
theorem exists_splitLines_eq_cons (text : List Char) :
    ∃ lines, splitLines text = firstLine text :: lines := by
  have hn := newline_not_mem_firstLine text
  rcases eq_firstLine_or text with h | ⟨back, h⟩
  · refine ⟨[], ?_⟩
    calc splitLines text
        = splitAtEach '\n' (firstLine text) := by rw [splitLines, ← h]
      _ = [firstLine text] := splitAtEach_of_not_mem hn
  · refine ⟨splitAtEach '\n' back, ?_⟩
    calc splitLines text
        = splitAtEach '\n' (firstLine text ++ '\n' :: back) := by rw [splitLines, ← h]
      _ = firstLine text :: splitAtEach '\n' back := splitAtEach_append_sep hn back

/-- The line that a cut goes through: the last line before it and the first behind it. -/
theorem splitLines_getElem?_append (text more : List Char) :
    (splitLines (text ++ more))[text.count '\n']? = some (lastLine text ++ firstLine more) := by
  have hn := newline_not_mem_lastLine text
  rw [← firstLine_append hn]
  obtain ⟨lines, hlines⟩ := exists_splitLines_eq_cons (lastLine text ++ more)
  rcases eq_lastLine_or text with h | ⟨front, h⟩
  · have hcount : text.count '\n' = 0 := by rw [h, List.count_eq_zero_of_not_mem hn]
    rw [← h] at hlines ⊢
    rw [hcount, hlines]
    rfl
  · -- the pieces of `front` come first, one for each newline before the cut
    have hcount : text.count '\n' = (splitAtEach '\n' front).length := by
      rw [length_splitAtEach, h, List.count_append, List.count_cons_self,
        List.count_eq_zero_of_not_mem hn]
    have happend : text ++ more = front ++ '\n' :: (lastLine text ++ more) := by
      rw [← List.cons_append, ← List.append_assoc, ← h]
    rw [happend, splitLines, splitAtEach_append_sep_append, hcount,
      List.getElem?_append_right (Nat.le_refl _), Nat.sub_self]
    rw [splitLines] at hlines
    rw [hlines]
    rfl

end Lines

/-! ### The line index -/

namespace LineIndex

variable {source : String} {text more : List Char}

theorem count_ofText (source : String) :
    (ofText source).count = source.toList.count '\n' + 1 := by
  rw [count, ofText, List.length_map, splitLines, length_splitAtEach]

/-- The line and the column of a place are those of the line index. -/
theorem line?_ofText_after (h : source.toList = text ++ more) :
    (ofText source).line? (Position.start.after text).line =
      some (String.ofList (lastLine text ++ firstLine more)) := by
  rw [after_start, line?, ofText, h, List.getElem?_map, splitLines_getElem?_append]
  rfl

/-- A line of the index is one of the pieces that the text is cut into. -/
theorem mem_splitLines_of_line? {line : String} {n : Nat}
    (h : (ofText source).line? n = some line) : line.toList ∈ splitLines source.toList := by
  cases n with
  | zero => cases h
  | succ n =>
    rw [line?, ofText, List.getElem?_map] at h
    obtain ⟨piece, hpiece, rfl⟩ := Option.map_eq_some_iff.1 h
    rw [String.toList_ofList]
    exact List.mem_of_getElem? hpiece

theorem after_line_pos (text : List Char) : 1 ≤ (Position.start.after text).line := by
  rw [after_start]
  exact Nat.le_add_left 1 _

theorem after_line_le_count (h : source.toList = text ++ more) :
    (Position.start.after text).line ≤ (ofText source).count := by
  rw [after_start, count_ofText, h, List.count_append]
  simp only
  omega

/-- Within the text no line number is moved. -/
theorem clamp_eq_self {index : LineIndex} {n : Nat} (hpos : 1 ≤ n) (hle : n ≤ index.count) :
    index.clamp n = n := by
  rw [clamp, Nat.max_eq_left hpos, Nat.min_eq_left hle]

/-- The window before a line of the text holds the lines by their numbers. -/
theorem window_map_some {index : LineIndex} {n : Nat} (before : Nat) (hpos : 1 ≤ n)
    (hle : n ≤ index.count) :
    (index.window n before).map some =
      (List.range' (max 1 (n - before)) (n + 1 - max 1 (n - before))).map index.line? := by
  -- the window is cut from a list that starts at zero, and its numbers start at one
  have hfirst : max 1 (n - before) = n - (before + 1) + 1 := by omega
  have hlength : n + 1 - (n - (before + 1) + 1) = n - (n - (before + 1)) := by omega
  rw [window, clamp_eq_self hpos hle, hfirst, hlength]
  have hcount : n ≤ index.lines.length := hle
  refine List.ext_getElem ?_ fun i hi _ => ?_
  · simp only [List.length_map, List.length_drop, List.length_take, List.length_range']
    omega
  · have hi' : n - (before + 1) + i < index.lines.length := by
      simp only [List.length_map, List.length_drop, List.length_take] at hi
      omega
    have hnumber : n - (before + 1) + 1 + 1 * i = n - (before + 1) + i + 1 := by omega
    simp only [List.getElem_map, List.getElem_drop, List.getElem_take, List.getElem_range',
      hnumber, line?, List.getElem?_eq_getElem hi']

end LineIndex

end FrontEnd
