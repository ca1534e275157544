/-
FrontEnd/Proofs/LineWindows.lean

The line index loses nothing, and its windows nest.

Three things tell the lines of a text from any other list of texts: there is at least one,
none of them holds a newline, and with newlines between them they are the text
(`lines_ofText_eq_iff`).  So cutting and joining undo each other, whatever empty lines a
text has and wherever they stand.

A window is cut twice, below its line and above the lines that precede it.  Only the upper
cut depends on how many of these are wanted, so the windows of one line nest
(`window_suffix_window`).  The lower cut is at a line that the text has, because a number
that no line has is moved to the nearest one first; so no window is empty.

Main result: `loses_nothing_and_nests`.
-/
import FrontEnd.Proofs.Lines

namespace FrontEnd

/-! ### Cutting and joining -/

theorem joinWith_eq_intercalate (sep : Char) (pieces : List (List Char)) :
    joinWith sep pieces = [sep].intercalate pieces := by
  induction pieces with
  | nil => rfl
  | cons piece more ih =>
    cases more with
    | nil => exact List.intercalate_singleton.symm
    | cons next more =>
      rw [joinWith_cons sep piece (List.cons_ne_nil next more), ih, List.intercalate_cons_cons,
        List.append_assoc, List.singleton_append]

/-- The cut is the one of lists, as its pieces hold no separator and joined they are the text. -/
theorem splitAtEach_eq_splitOn (sep : Char) (text : List Char) :
    splitAtEach sep text = text.splitOn sep := by
  have hjoin : [sep].intercalate (splitAtEach sep text) = text := by
    rw [← joinWith_eq_intercalate, joinWith_splitAtEach]
  have hcut : ([sep].intercalate (splitAtEach sep text)).splitOn sep = splitAtEach sep text := by
    refine List.splitOn_intercalate sep (fun piece hpiece => ?_) (splitAtEach_ne_nil sep text)
    exact sep_not_mem_of_mem_splitAtEach hpiece
  rw [hjoin] at hcut
  exact hcut.symm

/-- There is one way to cut a text. -/
theorem splitAtEach_eq_iff {sep : Char} {text : List Char} {pieces : List (List Char)} :
    splitAtEach sep text = pieces ↔
      pieces ≠ [] ∧ (∀ piece ∈ pieces, sep ∉ piece) ∧ joinWith sep pieces = text := by
  constructor
  · rintro rfl
    exact ⟨splitAtEach_ne_nil sep text, fun _ => sep_not_mem_of_mem_splitAtEach,
      joinWith_splitAtEach sep text⟩
  · rintro ⟨hne, hsep, rfl⟩
    rw [splitAtEach_eq_splitOn, joinWith_eq_intercalate]
    exact List.splitOn_intercalate sep hsep hne

namespace LineIndex

theorem map_toList_lines_ofText (source : String) :
    (ofText source).lines.map String.toList = splitLines source.toList := by
  rw [ofText, List.map_map]
  simp [Function.comp_def]

/-- There is one way to write a text as lines. -/
theorem lines_ofText_eq_iff {source : String} {lines : List String} :
    (ofText source).lines = lines ↔
      lines ≠ [] ∧ (∀ line ∈ lines, '\n' ∉ line.toList) ∧ "\n".intercalate lines = source := by
  have hlines : (ofText source).lines = lines ↔
      splitLines source.toList = lines.map String.toList := by
    rw [← map_toList_lines_ofText]
    exact (List.map_inj_right fun _ _ => String.toList_inj.1).symm
  have hjoin : "\n".intercalate lines = source ↔
      joinWith '\n' (lines.map String.toList) = source.toList := by
    rw [joinWith_eq_intercalate, ← String.toList_inj, String.toList_intercalate]
    rfl
  rw [hlines, hjoin, splitLines, splitAtEach_eq_iff, List.forall_mem_map, Ne, List.map_eq_nil_iff]

/-! ### Windows -/

section Windows

variable (index : LineIndex) (n before : Nat)

theorem clamp_le_count : index.clamp n ≤ index.count := Nat.min_le_right _ _

theorem one_le_clamp {index : LineIndex} (h : 0 < index.count) : 1 ≤ index.clamp n :=
  Nat.le_min.2 ⟨Nat.le_max_right n 1, h⟩

theorem length_window : (index.window n before).length = min (before + 1) (index.clamp n) := by
  -- the lower cut is within the text, so it leaves as many lines as its number says
  have hle : index.clamp n ≤ index.lines.length := index.clamp_le_count n
  rw [window, List.length_drop, List.length_take, Nat.min_eq_left hle]
  omega

/-- The lines above a window, the window and the lines below it are all the lines. -/
theorem take_append_window_append_drop :
    index.lines.take (index.clamp n - (before + 1)) ++ index.window n before ++
      index.lines.drop (index.clamp n) = index.lines := by
  have habove : index.lines.take (index.clamp n - (before + 1)) =
      (index.lines.take (index.clamp n)).take (index.clamp n - (before + 1)) := by
    rw [List.take_take, Nat.min_eq_left (Nat.sub_le _ _)]
  rw [habove, window, List.take_append_drop, List.take_append_drop]

theorem getLast?_window {index : LineIndex} (h : 0 < index.count) :
    (index.window n before).getLast? = index.line? (index.clamp n) := by
  have hle : index.clamp n ≤ index.lines.length := index.clamp_le_count n
  obtain ⟨m, hm⟩ := Nat.exists_eq_add_of_le' (one_le_clamp n h)
  have hlast : index.lines[m]? = some index.lines[m] := List.getElem?_eq_getElem (by omega)
  -- the upper cut is above the line, so it is still there
  have hkept : ¬ (index.lines.take (m + 1)).length ≤ m + 1 - (before + 1) := by
    rw [List.length_take]
    omega
  rw [window, hm, List.getLast?_drop, if_neg hkept, List.getLast?_take, if_neg (Nat.succ_ne_zero m),
    Nat.add_sub_cancel, line?, hlast]
  rfl

/-- The windows of one line nest. -/
theorem window_suffix_window {before more : Nat} (h : before ≤ more) :
    index.window n before <:+ index.window n more := by
  have hcuts : index.clamp n - (more + 1) ≤ index.clamp n - (before + 1) := by omega
  exact List.drop_suffix_drop_left _ hcuts

end Windows

/-- What a report is to show of a text for its line `last`: that line, and before it up to
`before` of the lines that precede it. -/
structure IsWindow (index : LineIndex) (last before : Nat) (shown : List String) : Prop where
  ne_nil : shown ≠ []
  length_eq : shown.length = min (before + 1) last
  ends : ∃ line, index.line? last = some line ∧ shown.getLast? = some line
  /-- Nothing is left out, and the block stands where its last line does. -/
  block : ∃ above below, index.lines = above ++ shown ++ below ∧
    above.length + shown.length = last

theorem isWindow_window {index : LineIndex} (n before : Nat) (h : 0 < index.count) :
    index.IsWindow (index.clamp n) before (index.window n before) := by
  have hpos := one_le_clamp n h
  have hle : index.clamp n ≤ index.lines.length := index.clamp_le_count n
  have hlength := index.length_window n before
  have hne : index.window n before ≠ [] := by
    refine List.ne_nil_of_length_pos ?_
    omega
  have hline := List.getLast?_eq_some_getLast hne
  refine ⟨hne, hlength, ⟨_, ?_, hline⟩, _, _,
    (index.take_append_window_append_drop n before).symm, ?_⟩
  · rw [← getLast?_window n before h, hline]
  · rw [hlength, List.length_take]
    omega

/-- **The line index loses nothing, and its windows nest.**  The lines of a text hold no newline,
and with newlines between them they are the text.  For any line number, the nearest one that the
text has ends a window, which is the end of every window that reaches further back. -/
theorem loses_nothing_and_nests (source : String) :
    "\n".intercalate (ofText source).lines = source ∧
      (∀ line ∈ (ofText source).lines, '\n' ∉ line.toList) ∧
      ∀ n before more, before ≤ more →
        (ofText source).IsWindow (min (max n 1) (ofText source).count) before
            ((ofText source).window n before) ∧
          (ofText source).window n before <:+ (ofText source).window n more := by
  obtain ⟨-, hunbroken, hjoin⟩ := lines_ofText_eq_iff.1 (rfl : (ofText source).lines = _)
  refine ⟨hjoin, hunbroken, fun n before more h => ⟨?_, ?_⟩⟩
  · exact isWindow_window n before (count_ofText_pos source)
  · exact (ofText source).window_suffix_window n h

/-- A text with newlines at both ends and two in a row, and a line number behind its last line. -/
theorem loses_nothing_and_nests_blank :
    let index := ofText "\n\na\n"
    index.lines = ["", "", "a", ""] ∧
      "\n".intercalate index.lines = "\n\na\n" ∧
      ("a" ∈ index.lines ∧ '\n' ∉ "a".toList) ∧
      index.window 9 1 = ["a", ""] ∧ index.IsWindow 4 1 ["a", ""] ∧
      index.window 9 7 = ["", "", "a", ""] ∧ ["a", ""] <:+ ["", "", "a", ""] := by
  intro index
  have hlines : index.lines = ["", "", "a", ""] := by decide +kernel
  have hsmall : index.window 9 1 = ["a", ""] := by decide +kernel
  have hlarge : index.window 9 7 = ["", "", "a", ""] := by decide +kernel
  have hlast : min (max 9 1) index.count = 4 := by decide +kernel
  have ha : "a" ∈ index.lines := by
    rw [hlines]
    decide
  obtain ⟨hjoin, hunbroken, hwindows⟩ := loses_nothing_and_nests "\n\na\n"
  obtain ⟨hwindow, hnest⟩ := hwindows 9 1 7 (by decide)
  rw [hsmall, hlast] at hwindow
  rw [hsmall, hlarge] at hnest
  exact ⟨hlines, hjoin, ⟨ha, hunbroken "a" ha⟩, hsmall, hwindow, hlarge, hnest⟩

end LineIndex

end FrontEnd
