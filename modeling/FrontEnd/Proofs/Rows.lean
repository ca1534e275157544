/-
FrontEnd/Proofs/Rows.lean

A printed document, row by row.

Reports are put together from lines, each of which ends with a newline.  So cutting a
plainly printed report at its newlines gives back its lines, as long as the texts in
them hold none.  `Document.HasRows` says which rows a part of a report has; it does not
depend on what follows the part, so the rows of a report are those of its parts in
order (`HasRows.append`).
-/
import FrontEnd.Proofs.Lines
import FrontEnd.Report.Annotated

namespace FrontEnd

/-! ### What the modes print -/

/-- The plain mode paints nothing. -/
@[simp] theorem Mode.paint_plain (role : Role) (text : String) :
    Mode.plain.paint role text = text := rfl

namespace Document

variable (mode : Mode)

@[simp] theorem print_plain (text : String) : (plain text).print mode = text := by
  simp [plain, Fragment.print]

@[simp] theorem print_painted (role : Role) (text : String) :
    (painted role text).print mode = mode.paint role text := by
  simp [painted, Fragment.print]

@[simp] theorem print_line (d : Document) : d.line.print mode = d.print mode ++ "\n" := by
  rw [line, print_append, print_plain]

/-! ### Rows -/

/-- Printed plainly, the document is the given rows, each of them ended by a newline. -/
def HasRows (d : Document) (rows : List (List Char)) : Prop :=
  ∀ rest, splitLines ((d.print .plain).toList ++ rest) = rows ++ splitLines rest

variable {d e : Document} {rows others : List (List Char)}

theorem hasRows_nil : HasRows [] [] := fun _ => rfl

theorem HasRows.append (hd : d.HasRows rows) (he : e.HasRows others) :
    HasRows (d ++ e) (rows ++ others) := by
  intro rest
  rw [print_append, String.toList_append, List.append_assoc, hd, he, List.append_assoc]

/-- A line is as many rows as its text has lines. -/
theorem hasRows_line_splitLines {text : String} (h : d.print .plain = text) :
    d.line.HasRows (splitLines text.toList) := by
  intro rest
  rw [print_line, String.toList_append, List.append_assoc, h]
  exact splitAtEach_append_sep_append '\n' _ rest

/-- A line without a newline of its own is one row. -/
theorem hasRows_line {row : List Char} (hrow : (d.print .plain).toList = row)
    (h : '\n' ∉ row) : d.line.HasRows [row] := by
  have hrows := hasRows_line_splitLines (d := d) rfl
  rwa [hrow, splitLines, splitAtEach_of_not_mem h] at hrows

theorem hasRows_blankLine : blankLine.HasRows [[]] := by
  intro rest
  rw [blankLine, print_plain]
  exact splitAtEach_sep '\n' rest

/-- One row for each member of a list. -/
theorem hasRows_flatMap {α : Type} {parts : List α} {part : α → Document} {row : α → List Char}
    (h : ∀ a ∈ parts, (part a).HasRows [row a]) :
    HasRows (parts.flatMap part) (parts.map row) := by
  induction parts with
  | nil => exact hasRows_nil
  | cons a parts ih =>
    have hparts := ih fun b hb => h b (List.mem_cons_of_mem a hb)
    exact (h a List.mem_cons_self).append hparts

/-- The rows of a document are the lines of its plain printing, up to the end of it. -/
theorem HasRows.splitLines_eq (h : d.HasRows rows) :
    splitLines (d.print .plain).toList = rows ++ [[]] := by
  simpa [splitLines] using h []

/-- The rows of a document come first, whatever follows it. -/
theorem HasRows.splitLines_append (h : d.HasRows rows) (e : Document) :
    splitLines ((d ++ e).print .plain).toList = rows ++ splitLines (e.print .plain).toList := by
  rw [print_append, String.toList_append, h]

end Document

/-! ### The rows of a text -/

theorem dropReturn_prefix (line : List Char) : dropReturn line <+: line := by
  induction line using dropReturn.induct with
  | case1 => exact List.prefix_rfl
  | case2 => exact List.nil_prefix
  | case3 c line hc ih =>
    rw [dropReturn.eq_3 c line hc]
    exact List.cons_prefix_cons.2 ⟨rfl, ih⟩

theorem exists_prefix_of_mem_rowsOfPieces {pieces : List (List Char)} {row : List Char}
    (h : row ∈ rowsOfPieces pieces) : ∃ piece ∈ pieces, row <+: piece := by
  induction pieces using rowsOfPieces.induct with
  | case1 => cases h
  | case2 => cases h
  | case3 line hne =>
    rw [rowsOfPieces.eq_3 line hne] at h
    exact ⟨line, List.mem_cons_self, List.mem_singleton.1 h ▸ List.prefix_rfl⟩
  | case4 line more hnil hone ih =>
    rw [rowsOfPieces.eq_4 line more hnil hone] at h
    rcases List.mem_cons.1 h with rfl | h
    · exact ⟨line, List.mem_cons_self, dropReturn_prefix line⟩
    · obtain ⟨piece, hpiece, hrow⟩ := ih h
      exact ⟨piece, List.mem_cons_of_mem line hpiece, hrow⟩

/-- A displayed row is what a line starts with. -/
theorem exists_prefix_of_mem_rows {text row : List Char} (h : row ∈ rows text) :
    ∃ piece ∈ splitLines text, row <+: piece :=
  exists_prefix_of_mem_rowsOfPieces h

theorem infix_joinWith {sep : Char} {pieces : List (List Char)} {piece : List Char}
    (h : piece ∈ pieces) : piece <:+: joinWith sep pieces := by
  induction pieces with
  | nil => cases h
  | cons first more ih =>
    cases more with
    | nil => exact List.mem_singleton.1 h ▸ List.infix_rfl
    | cons second more =>
      rw [joinWith_cons sep first (List.cons_ne_nil second more)]
      rcases List.mem_cons.1 h with rfl | h
      · exact (List.prefix_append _ _).isInfix
      · have hbehind : joinWith sep (second :: more) <:+ sep :: joinWith sep (second :: more) :=
          List.suffix_cons sep _
        exact (ih h).trans (hbehind.trans (List.suffix_append first _)).isInfix

/-- A line stands in the text. -/
theorem infix_of_mem_splitLines {text piece : List Char} (h : piece ∈ splitLines text) :
    piece <:+: text := by
  have hstands : piece <:+: joinWith '\n' (splitLines text) := infix_joinWith h
  rwa [splitLines, joinWith_splitAtEach] at hstands

/-- A line that is found by its number stands in the text. -/
theorem infix_of_line? {source line : String} {n : Nat}
    (h : (LineIndex.ofText source).line? n = some line) : line.toList <:+: source.toList :=
  infix_of_mem_splitLines (LineIndex.mem_splitLines_of_line? h)

/-- A displayed row stands in the text. -/
theorem infix_of_mem_rows {text row : List Char} (h : row ∈ rows text) : row <:+: text := by
  obtain ⟨piece, hpiece, hstarts⟩ := exists_prefix_of_mem_rows h
  exact hstarts.isInfix.trans (infix_of_mem_splitLines hpiece)

theorem newline_not_mem_of_mem_rows {text row : List Char} (h : row ∈ rows text) :
    '\n' ∉ row := by
  obtain ⟨piece, hpiece, hstarts⟩ := exists_prefix_of_mem_rows h
  exact fun hn => sep_not_mem_of_mem_splitAtEach hpiece (hstarts.subset hn)

/-! ### Numbers and indentation -/

/-- Only digits stand in a number. -/
theorem not_mem_toDigits {c : Char} (hc : c.isDigit = false) (n : Nat) :
    c ∉ Nat.toDigits 10 n := by
  intro hm
  have hd := Nat.isDigit_of_mem_toDigits (by decide) (by decide) hm
  rw [hd] at hc
  cases hc

/-- A number is set flush right. -/
theorem toList_rightAligned (width n : Nat) :
    (rightAligned width n).toList = (toString n).toList.leftpad width ' ' := by
  rw [rightAligned, String.toList_append, spaces, String.toList_ofList, List.leftpad,
    String.length_toList]

/-- Only tabs and spaces stand before the carets. -/
theorem mem_caretIndent {line : List Char} {column : Nat} {c : Char}
    (h : c ∈ caretIndent line column) : c = '\t' ∨ c = ' ' := by
  unfold caretIndent at h
  rcases List.mem_append.1 h with hunder | hpad
  · obtain ⟨original, -, rfl⟩ := List.mem_map.1 hunder
    split
    · exact .inl rfl
    · exact .inr rfl
  · exact .inr (List.eq_of_mem_replicate hpad)

end FrontEnd
