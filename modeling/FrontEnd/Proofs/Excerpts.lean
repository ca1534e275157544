/-
FrontEnd/Proofs/Excerpts.lean

The line that the annotated layout reads again.

A diagnostic without captured lines shows the line of its place as it stands in the file.
That line is one of the displayed rows of the file, while the number of the place comes from
the line index.  The two cut a text in different ways, but they number alike: up to the last
piece there is one row for each piece, and only the last piece can be missing, when it is
empty (`getD_rowsOfPieces`).  So the row is the line of the index, less the carriage return
that belongs to its line break.

The caret stands under that row behind a margin of blanks, as wide as the one with the
number is.  Main result: `report_rereads_line`.
-/
import FrontEnd.Proofs.Contents

namespace FrontEnd

/-! ### Displayed rows and lines of the index -/

/-- A line without the carriage return that ends it, if one does. -/
def withoutReturn (line : List Char) : List Char :=
  if line.getLast? = some '\r' then line.dropLast else line

theorem dropReturn_eq_withoutReturn (line : List Char) : dropReturn line = withoutReturn line := by
  unfold withoutReturn
  induction line using dropReturn.induct with
  | case1 => rfl
  | case2 => rfl
  | case3 c line hc ih =>
    rw [dropReturn.eq_3 c line hc, ih]
    cases line with
    | nil =>
      have hreturn : c ≠ '\r' := fun hr => hc (by rw [hr]) rfl
      simp [hreturn]
    | cons d line =>
      rw [List.getLast?_cons_cons, List.dropLast_cons_cons]
      split <;> rfl

/-- The rows have the numbers of the pieces.  All but the last piece end with a line break. -/
theorem getD_rowsOfPieces (pieces : List (List Char)) (n : Nat) :
    (rowsOfPieces pieces)[n]?.getD [] =
      if n + 1 < pieces.length then withoutReturn (pieces[n]?.getD []) else pieces[n]?.getD [] := by
  induction pieces using rowsOfPieces.induct generalizing n with
  | case1 => rfl
  | case2 => cases n <;> rfl
  | case3 line hne =>
    rw [rowsOfPieces.eq_3 line hne, if_neg (by simp)]
  | case4 line more hnil hone ih =>
    rw [rowsOfPieces.eq_4 line more hnil hone]
    have hmore : more ≠ [] := hone
    cases n with
    | zero =>
      have hfirst : 0 + 1 < (line :: more).length := by
        simpa using List.length_pos_iff.2 hmore
      rw [if_pos hfirst]
      exact dropReturn_eq_withoutReturn line
    | succ n =>
      rw [List.getElem?_cons_succ, List.getElem?_cons_succ, ih, List.length_cons]
      simp only [Nat.add_lt_add_iff_right]

namespace LineIndex

variable {content : String} {n : Nat}

theorem line?_succ (content : String) (n : Nat) :
    (ofText content).line? (n + 1) = (splitLines content.toList)[n]?.map String.ofList := by
  rw [line?, ofText, List.getElem?_map]

/-- A text has the lines from one to their count. -/
theorem line?_eq_none_iff :
    (ofText content).line? n = none ↔ n = 0 ∨ (ofText content).count < n := by
  cases n with
  | zero => simp [line?]
  | succ n =>
    rw [line?, List.getElem?_eq_none_iff, count]
    omega

/-- The line with a number as it is displayed.  All lines but the last are followed by a newline,
and a carriage return before it belongs to the line break.  Without such a line there is nothing
to be displayed. -/
def shown (index : LineIndex) (n : Nat) : List Char :=
  match index.line? n with
  | none => []
  | some line => if n < index.count then withoutReturn line.toList else line.toList

theorem shown_of_line? {index : LineIndex} {line : String} (h : index.line? n = some line) :
    index.shown n = if n < index.count then withoutReturn line.toList else line.toList := by
  rw [shown, h]

theorem shown_of_line?_eq_none {index : LineIndex} (h : index.line? n = none) :
    index.shown n = [] := by
  rw [shown, h]

/-- **The rows of a text are the lines of its index**, as they are displayed. -/
theorem toList_getD_rowsOf (content : String) (n : Nat) :
    ((rowsOf content)[n]?.getD "").toList = (ofText content).shown (n + 1) := by
  have hrow : ((rowsOf content)[n]?.getD "").toList = (rows content.toList)[n]?.getD [] := by
    rw [rowsOf, List.getElem?_map]
    cases (rows content.toList)[n]? <;> simp
  have hcount : (ofText content).count = (splitLines content.toList).length := by
    rw [count, ofText, List.length_map]
  rw [hrow, rows, getD_rowsOfPieces, shown, line?_succ, hcount]
  cases (splitLines content.toList)[n]? with
  | none => simp [withoutReturn]
  | some piece => simp

end LineIndex

/-! ### Rows of a file -/

/-- The row is what is shown of a place in a file when the line has not been captured: the line
of the index, or nothing. -/
structure Rereads (files : Files) (place : Location) (row : String) : Prop where
  unnamed : place.file = "" → row = ""
  /-- There is no such file, or it is no text. -/
  unreadable : ∀ reason, files.read place.file = .error reason → row = ""
  outside : ∀ content, files.read place.file = .ok content →
    place.line = 0 ∨ (LineIndex.ofText content).count < place.line → row = ""
  within : ∀ content, place.file ≠ "" → files.read place.file = .ok content →
    1 ≤ place.line → place.line ≤ (LineIndex.ofText content).count →
    ∃ line, (LineIndex.ofText content).line? place.line = some line ∧
      row.toList =
        if place.line < (LineIndex.ofText content).count then withoutReturn line.toList
        else line.toList

namespace Files

variable {files : Files} {path content : String}

theorem row_unnamed (files : Files) (n : Nat) : files.row "" n = "" := by
  rw [row, if_pos (by decide)]

theorem row_unreadable {reason : ReadFailure} (h : files.read path = .error reason) (n : Nat) :
    files.row path n = "" := by
  rw [row, h]
  split <;> rfl

theorem toList_row (hpath : path ≠ "") (h : files.read path = .ok content) (n : Nat) :
    (files.row path n).toList = (LineIndex.ofText content).shown n := by
  have hnamed : ¬ path.isEmpty = true := mt String.isEmpty_iff.1 hpath
  rw [row, if_neg hnamed, h]
  cases n with
  | zero => rfl
  | succ n => exact LineIndex.toList_getD_rowsOf content n

theorem newline_not_mem_row (files : Files) (path : String) (n : Nat) :
    '\n' ∉ (files.row path n).toList := by
  unfold row
  split
  · decide
  split
  · decide
  split
  · decide
  next content _ _ n =>
  cases hrow : (rowsOf content)[n]? with
  | none => decide
  | some row =>
    obtain ⟨chars, hchars, rfl⟩ := List.mem_map.1 (List.mem_of_getElem? hrow)
    rw [Option.getD_some, String.toList_ofList]
    exact newline_not_mem_of_mem_rows hchars

/-- What is read again agrees with the line index. -/
theorem rereads_row (files : Files) (place : Location) :
    Rereads files place (files.row place.file place.line) where
  unnamed hfile := by rw [hfile, row_unnamed]
  unreadable _ h := row_unreadable h _
  outside content h hline := by
    by_cases hfile : place.file = ""
    · rw [hfile, row_unnamed]
    · have hrow := toList_row hfile h place.line
      rw [LineIndex.shown_of_line?_eq_none (LineIndex.line?_eq_none_iff.2 hline)] at hrow
      exact String.toList_eq_nil_iff.1 hrow
  within content hfile h hpos hle := by
    have hsome : (LineIndex.ofText content).line? place.line ≠ Option.none := by
      rw [Ne, LineIndex.line?_eq_none_iff]
      omega
    obtain ⟨line, hline⟩ := Option.ne_none_iff_exists'.1 hsome
    have hrow := toList_row hfile h place.line
    rw [LineIndex.shown_of_line? hline] at hrow
    exact ⟨line, hline, hrow⟩

end Files

/-! ### The rows of the annotated layout -/

open Document

namespace Diagnostic

variable {d : Diagnostic}

/-- What stands before the text of a source row: its number between blanks, and a bar. -/
def excerptMargin (d : Diagnostic) : List Char :=
  " ".toList ++ (toString d.location.line).toList ++ " | ".toList

/-- The rows above the source row: an empty one, cause, place, and an empty one. -/
def rowsAboveExcerpt (d : Diagnostic) : List (List Char) :=
  [[]] ++ splitLines (d.annotatedLabel ++ ": " ++ d.message).toList ++
    splitLines ("--> " ++ d.primarySpan.label).toList ++ [[]]

/-- The source row, and the row with the caret, so many characters past the start of the text. -/
def excerptRows (d : Diagnostic) (text : String) : List (List Char) :=
  [d.excerptMargin ++ text.toList,
   List.replicate (d.excerptMargin.length + d.location.column) ' ' ++ ['^']]

theorem length_excerptMargin (d : Diagnostic) :
    d.excerptMargin.length = (toString d.location.line).length + 4 := by
  have hnumber := String.length_toList (s := toString d.location.line)
  rw [excerptMargin, List.length_append, List.length_append, hnumber]
  show 1 + (toString d.location.line).length + 3 = _
  omega

/-- The annotated layout down to the caret. -/
theorem splitLines_annotatedReport (files : Files)
    (h : '\n' ∉ (d.offendingLine files).toList) :
    ∃ below, splitLines ((d.annotatedReport files).print .plain).toList =
      d.rowsAboveExcerpt ++ d.excerptRows (d.offendingLine files) ++ below := by
  have hcause : (painted d.category.role d.annotatedLabel ++ plain s!": {d.message}").line.HasRows
      (splitLines (d.annotatedLabel ++ ": " ++ d.message).toList) :=
    hasRows_line_splitLines (by simp [toString, String.append_assoc])
  have hplace : (plain s!"--> {d.primarySpan.label}").line.HasRows
      (splitLines ("--> " ++ d.primarySpan.label).toList) :=
    hasRows_line_splitLines (by simp [toString])
  have hsource : (plain s!" {toString d.location.line} | {d.offendingLine files}").line.HasRows
      [d.excerptMargin ++ (d.offendingLine files).toList] := by
    refine hasRows_line ?_ ?_
    · simp [excerptMargin, toString]
    · simp [excerptMargin, not_mem_toDigits, h]
  have hcaret : (plain (spaces ((toString d.location.line).length + 4 + d.location.column)) ++
      painted d.category.role "^").line.HasRows
      [List.replicate (d.excerptMargin.length + d.location.column) ' ' ++ ['^']] := by
    refine hasRows_line ?_ ?_
    · rw [length_excerptMargin]
      simp [spaces]
    · simp
  have hrows := ((((hasRows_blankLine.append hcause).append hplace).append
    hasRows_blankLine).append hsource).append hcaret
  rw [List.append_assoc _ [_] [_]] at hrows
  unfold annotatedReport
  rw [List.append_assoc, List.append_assoc, List.append_assoc]
  exact ⟨_, hrows.splitLines_append _⟩

/-- **What is read again agrees with the line index.**  Below the place of a diagnostic without
captured lines stand the line that the index has by its number, as far as there is one, and the
caret under the column. -/
theorem report_rereads_line (files : Files) (h : d.context = []) :
    Rereads files d.location (d.offendingLine files) ∧
      ∃ below, splitLines ((d.report files).print .plain).toList =
        d.rowsAboveExcerpt ++ d.excerptRows (d.offendingLine files) ++ below := by
  have hline : d.offendingLine files = files.row d.location.file d.location.line := by
    rw [offendingLine, h]
    rfl
  have hlayout : ¬ d.IsFull := fun hfull => hfull.2 h
  rw [report_of_not_isFull hlayout]
  refine ⟨hline ▸ files.rereads_row d.location, d.splitLines_annotatedReport files ?_⟩
  rw [hline]
  exact files.newline_not_mem_row _ _

/-- A line with two carriage returns before its newline, behind lines of all kinds, and a number
of two digits. -/
theorem report_rereads_line_returns :
    let files : Files := ⟨fun _ => .ok "1\r\n\n\r\n4\r5\n\n\n\n\n\n\tx y\r\r\n"⟩
    let d := general .syntactic ⟨"a.k", 10, 3⟩ "Expected ';'.\nFound IDENTIFIER."
    d.context = [] ∧ ∃ below, splitLines ((d.report files).print .plain).toList =
      [[], "SYNTAX ERROR: Expected ';'.".toList, "Found IDENTIFIER.".toList,
        "--> a.k:10:4".toList, [], " 10 | \tx y\r".toList, "         ^".toList] ++ below := by
  intro files d
  obtain ⟨hread, below, hrows⟩ := report_rereads_line files (show d.context = [] from rfl)
  obtain ⟨line, hline, hrow⟩ := hread.within _ (by decide) rfl (by decide) (by decide +kernel)
  have htenth : (LineIndex.ofText "1\r\n\n\r\n4\r5\n\n\n\n\n\n\tx y\r\r\n").line? 10 =
      some "\tx y\r\r" := by
    decide +kernel
  obtain rfl := Option.some.inj (hline.symm.trans htenth)
  have habove : d.rowsAboveExcerpt = [[], "SYNTAX ERROR: Expected ';'.".toList,
      "Found IDENTIFIER.".toList, "--> a.k:10:4".toList, []] := by
    decide +kernel
  have hexcerpt : d.excerptRows (d.offendingLine files) =
      [" 10 | \tx y\r".toList, "         ^".toList] := by
    rw [excerptRows, hrow]
    decide +kernel
  exact ⟨rfl, below, by rw [hrows, habove, hexcerpt]; rfl⟩

end Diagnostic

end FrontEnd
