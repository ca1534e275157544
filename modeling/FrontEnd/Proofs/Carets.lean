/-
FrontEnd/Proofs/Carets.lean

The carets of a lexical report stand under the offending text.

The full layout is first cut into rows for any diagnostic whose captured lines end with
its own (`hasRows_fullReport`).  Whether the carets are where they should be
depends on what the layout does when something does not fit: it counts the first line
back from the last, fills up an indentation past the end of the line, and cuts the
carets there.  A diagnostic of reading is anchored (`anchored_of_scan_error`), and
that is just what excludes these cases (`Anchored.showsCarets`).  Main result:
`showsCarets_of_tokenize_error`.
-/
import FrontEnd.Proofs.Anchors
import FrontEnd.Proofs.Rows

namespace FrontEnd

/-! ### The rows of the full layout -/

/-- The row of a source line: its number flush right in `width` columns, a bar, and the line. -/
def numberedRow (width number : Nat) (line : String) : List Char :=
  (toString number).toList.leftpad width ' ' ++ " | ".toList ++ line.toList

/-- The row below a source line: no number, a bar, and so many carets behind `under`. -/
def caretedRow (width : Nat) (under : List Char) (carets : Nat) : List Char :=
  List.replicate width ' ' ++ " | ".toList ++ under ++ List.replicate carets '^'

/-- Name, phase and place of a catalogued problem. -/
def headerRows (code : Code) (place : Location) : List (List Char) :=
  [("[K:" ++ code.label ++ "] " ++ code.name).toList,
   ("ERROR (" ++ code.phase.label ++ ")").toList,
   ("at " ++ place.file ++ ":" ++ toString place.line ++ ":" ++ toString place.column).toList]

/-- A blank row, the title, and the rows of the body. -/
def titledRows (title body : String) : List (List Char) :=
  [] :: title.toList :: (rowsOf body).map fun row => ' ' :: ' ' :: row.toList

namespace Diagnostic

variable {d : Diagnostic} {code : Code} {text : String}

/-- The heading is three rows: no name of a code or a phase holds a newline. -/
theorem hasRows_fullHeading (hcode : d.code? = some code)
    (hfile : '\n' ∉ d.location.file.toList) :
    d.fullHeading.HasRows (headerRows code d.location) := by
  have hname : '\n' ∉ ("[K:" ++ code.label ++ "] " ++ code.name).toList := by
    cases code <;> decide +kernel
  have hphase : '\n' ∉ ("ERROR (" ++ code.phase.label ++ ")").toList := by
    cases code <;> decide +kernel
  have hplace : '\n' ∉ ("at " ++ d.location.file ++ ":" ++ toString d.location.line ++ ":" ++
      toString d.location.column).toList := by
    simp [hfile, not_mem_toDigits]
  simp only [fullHeading, phase?, hcode, Option.map_some, Option.getD_some]
  refine ((Document.hasRows_line ?_ hname).append (Document.hasRows_line ?_ hphase)).append
    (Document.hasRows_line ?_ hplace)
  · simp
  · simp [toString]
  · simp

theorem hasRows_sourceRow (d : Diagnostic) (number : Nat) (h : '\n' ∉ text.toList) :
    (d.sourceRow number text).HasRows [numberedRow d.numberWidth number text] := by
  refine Document.hasRows_line ?_ ?_
  · simp only [Document.print_append, Document.print_painted, Mode.paint_plain,
      String.toList_append, toList_rightAligned]
    rfl
  · simp [numberedRow, List.leftpad, not_mem_toDigits, h]

theorem newline_not_mem_caretIndent (line : List Char) (column : Nat) :
    '\n' ∉ caretIndent line column :=
  fun h => absurd (mem_caretIndent h) (by decide)

theorem hasRows_caretRow (d : Diagnostic) (text : String) :
    (d.caretRow text).HasRows [caretedRow d.numberWidth
      (caretIndent text.toList d.location.column)
      (caretCount text.toList d.location.column d.spanLength)] := by
  refine Document.hasRows_line ?_ ?_
  · simp only [Document.print_append, Document.print_painted, Document.print_plain,
      Mode.paint_plain, String.toList_append, spaces, String.toList_ofList]
    rfl
  · simp [caretedRow, newline_not_mem_caretIndent]

/-- The captured lines are one row each, and the row below the last of them has the carets. -/
theorem hasRows_sourceRows {texts : List String} {last : String} {number : Nat}
    (hnumber : number + texts.length = d.location.line)
    (hn : ∀ text ∈ texts ++ [last], '\n' ∉ text.toList) :
    (d.sourceRows number (texts ++ [last])).HasRows
      (List.zipWith (numberedRow d.numberWidth) (List.range' number (texts.length + 1))
          (texts ++ [last]) ++
        [caretedRow d.numberWidth (caretIndent last.toList d.location.column)
          (caretCount last.toList d.location.column d.spanLength)]) := by
  induction texts generalizing number with
  | nil =>
    have hrow := d.hasRows_sourceRow number (hn last List.mem_cons_self)
    have hline : number = d.location.line := hnumber
    rw [List.nil_append, sourceRows, if_pos hline, sourceRows]
    exact (hrow.append (d.hasRows_caretRow last)).append Document.hasRows_nil
  | cons text texts ih =>
    have hrow := d.hasRows_sourceRow number (hn text List.mem_cons_self)
    rw [List.length_cons] at hnumber
    -- an earlier line has no carets
    have hline : number ≠ d.location.line := by omega
    have hnext : number + 1 + texts.length = d.location.line := by omega
    have hmore := ih hnext fun t ht => hn t (List.mem_cons_of_mem text ht)
    rw [List.cons_append, sourceRows, if_neg hline, List.append_nil]
    exact hrow.append hmore

theorem hasRows_titledPart {title : String} (role other : Role) (htitle : '\n' ∉ title.toList)
    (body : String) : (titledPart title role body other).HasRows (titledRows title body) := by
  have hbody : ∀ row ∈ rowsOf body,
      (Document.line (.plain "  " ++ .painted other row)).HasRows [' ' :: ' ' :: row.toList] := by
    intro row hrow
    obtain ⟨chars, hchars, rfl⟩ := List.mem_map.1 hrow
    refine Document.hasRows_line (by simp) ?_
    simpa using newline_not_mem_of_mem_rows hchars
  have hhead := Document.hasRows_blankLine.append
    (Document.hasRows_line (d := .painted role title) (by simp) htitle)
  exact hhead.append (Document.hasRows_flatMap hbody)

theorem hasRows_titledPart? {title : String} (role other : Role) (htitle : '\n' ∉ title.toList)
    (body : Option String) :
    (titledPart? title role body other).HasRows ((body.map (titledRows title)).getD []) := by
  cases body with
  | none => exact Document.hasRows_nil
  | some body => exact hasRows_titledPart role other htitle body

/-- The rows of the full layout, if the captured lines end with the diagnostic's own. -/
theorem hasRows_fullReport {last : String} (hcode : d.code? = some code)
    (hfile : '\n' ∉ d.location.file.toList) (hlast : d.context.getLast? = some last)
    (hnumber : d.firstNumber + d.context.length = d.location.line + 1)
    (hn : ∀ text ∈ d.context, '\n' ∉ text.toList) :
    d.fullReport.HasRows
      (headerRows code d.location ++ [[]] ++
        (List.zipWith (numberedRow d.numberWidth) (List.range' d.firstNumber d.context.length)
            d.context ++
          [caretedRow d.numberWidth (caretIndent last.toList d.location.column)
            (caretCount last.toList d.location.column d.spanLength)]) ++
        titledRows "Cause:" d.message ++ titledRows "Fix:" d.advice ++
        (d.sample.map (titledRows "Example:")).getD [] ++
        (d.note.map (titledRows "Note:")).getD []) := by
  -- the last captured line is the one that has the carets below it
  obtain ⟨texts, htexts⟩ := List.getLast?_eq_some_iff.1 hlast
  have hlength : d.context.length = texts.length + 1 := by simp [htexts]
  have hhead := (hasRows_fullHeading hcode hfile).append Document.hasRows_blankLine
  have hfirst : d.firstNumber + texts.length = d.location.line := by omega
  have hsource := hasRows_sourceRows hfirst (htexts ▸ hn)
  rw [← htexts, ← hlength] at hsource
  refine .append (.append (.append (.append (hhead.append hsource) ?_) ?_) ?_) ?_
  · exact hasRows_titledPart _ _ (by decide) _
  · exact hasRows_titledPart _ _ (by decide) _
  · exact hasRows_titledPart? _ _ (by decide) _
  · exact hasRows_titledPart? _ _ (by decide) _

end Diagnostic

/-! ### Nothing has to be cut or filled up -/

section Fits

variable {text : List Char} {column width : Nat}

/-- Within the line, every character has one above it. -/
theorem caretIndent_of_le (h : column ≤ text.length) :
    caretIndent text column = (text.take column).map fun c => if c = '\t' then '\t' else ' ' := by
  unfold caretIndent
  simp [Nat.min_eq_left h]

theorem length_caretIndent (h : column ≤ text.length) :
    (caretIndent text column).length = column := by
  rw [caretIndent_of_le h, List.length_map, List.length_take, Nat.min_eq_left h]

/-- A tab stands under a tab, and a space under anything else. -/
theorem getElem_caretIndent (h : column ≤ text.length) (i : Nat)
    (hi : i < (caretIndent text column).length) :
    (caretIndent text column)[i] = if text[i]? = some '\t' then '\t' else ' ' := by
  have hlt : i < text.length := by
    rw [length_caretIndent h] at hi
    omega
  simp [caretIndent_of_le h, List.getElem?_eq_getElem hlt]

theorem caretCount_of_le (hpos : 1 ≤ width) (h : column + width ≤ text.length) :
    caretCount text column width = width := by
  unfold caretCount
  omega

end Fits

/-! ### The captured lines -/

theorem newline_not_mem_of_line? {source line : String} {n : Nat}
    (h : (LineIndex.ofText source).line? n = some line) : '\n' ∉ line.toList :=
  sep_not_mem_of_mem_splitAtEach (LineIndex.mem_splitLines_of_line? h)

namespace Anchored

variable {source : String} {before : Nat} {d : Diagnostic}

/-- As many lines are captured as asked for, or all up to the diagnostic's own. -/
theorem length_context (h : Anchored source before d) :
    d.context.length = min (before + 1) d.location.line := by
  have hpos := h.line_pos
  have hcount := congrArg List.length h.context_eq
  rw [List.length_map, List.length_map, List.length_range'] at hcount
  omega

/-- The numbers of the captured lines end with the diagnostic's own. -/
theorem firstNumber_add_length (h : Anchored source before d) :
    d.firstNumber + d.context.length = d.location.line + 1 := by
  have hlength := h.length_context
  unfold Diagnostic.firstNumber
  omega

/-- The captured lines are those of the index, by the numbers that a report gives them. -/
theorem map_some_context (h : Anchored source before d) :
    d.context.map some =
      (List.range' d.firstNumber d.context.length).map (LineIndex.ofText source).line? := by
  have hpos := h.line_pos
  have hlength := h.length_context
  have hfirst : d.firstNumber = max 1 (d.location.line - before) := by
    unfold Diagnostic.firstNumber
    omega
  have hcount : d.context.length = d.location.line + 1 - max 1 (d.location.line - before) := by
    omega
  rw [hfirst, hcount]
  exact h.context_eq

theorem newline_not_mem_context (h : Anchored source before d) {text : String}
    (ht : text ∈ d.context) : '\n' ∉ text.toList := by
  obtain ⟨n, hn⟩ := h.exists_line? ht
  exact newline_not_mem_of_line? hn

end Anchored

/-- Lines that are found by their numbers are so behind the numbers, too. -/
theorem map_some_zipWith {α β γ : Type} {line? : α → Option β} {numbers : List α}
    {lines : List β} (row : α → β → γ) (h : lines.map some = numbers.map line?) :
    (List.zipWith row numbers lines).map some =
      numbers.map fun n => (line? n).map (row n) := by
  induction numbers generalizing lines with
  | nil => rfl
  | cons n numbers ih =>
    cases lines with
    | nil => cases h
    | cons line lines =>
      obtain ⟨hline, hlines⟩ := List.cons.inj h
      rw [List.zipWith_cons_cons, List.map_cons, List.map_cons, ih hlines, ← hline]
      rfl

/-! ### The carets of a lexical report -/

/-- `ShowsCarets source before d report`: behind three rows of heading and a blank row, the rows
of the report show up to `before` lines of the source text, the line of `d` with its carets,
and the cause. -/
def ShowsCarets (source : String) (before : Nat) (d : Diagnostic)
    (report : List (List Char)) : Prop :=
  let width := (toString d.location.line).length
  ∃ (header rows : List (List Char)) (line : String) (under : List Char)
    (rest : List (List Char)),
    report = header ++ [] ::
      (rows ++ caretedRow width under d.spanLength :: [] :: "Cause:".toList :: rest) ∧
    header.length = 3 ∧
    rows.length = min (before + 1) d.location.line ∧
    rows.map some =
      (List.range' (d.location.line + 1 - rows.length) rows.length).map (fun number =>
        ((LineIndex.ofText source).line? number).map (numberedRow width number)) ∧
    (LineIndex.ofText source).line? d.location.line = some line ∧
    under.length = d.location.column ∧
    ∀ (i : Nat) (hi : i < under.length),
      under[i] = if line.toList[i]? = some '\t' then '\t' else ' '

/-- An anchored diagnostic with a code shows its carets. -/
theorem Anchored.showsCarets {source : String} {before : Nat} {d : Diagnostic} {code : Code}
    (h : Anchored source before d) (hcode : d.code? = some code) (hwidth : 1 ≤ d.spanLength)
    (hfile : '\n' ∉ d.location.file.toList) :
    ShowsCarets source before d (splitLines (d.fullReport.print .plain).toList) := by
  obtain ⟨line, hline, hlast, hfits⟩ := h.exists_last_line
  rw [← String.length_toList] at hfits
  have hcolumn : d.location.column ≤ line.toList.length := Nat.le_of_add_right_le hfits
  let rows := List.zipWith (numberedRow d.numberWidth)
    (List.range' d.firstNumber d.context.length) d.context
  have hlength : rows.length = d.context.length := by simp [rows]
  have hrows := Diagnostic.hasRows_fullReport hcode hfile hlast h.firstNumber_add_length
    fun _ => h.newline_not_mem_context
  -- the mark ends within the line, so no caret is cut off
  rw [caretCount_of_le hwidth hfits] at hrows
  refine ⟨headerRows code d.location, rows, line, caretIndent line.toList d.location.column,
    (rowsOf d.message).map (fun row => ' ' :: ' ' :: row.toList) ++
      (titledRows "Fix:" d.advice ++ ((d.sample.map (titledRows "Example:")).getD [] ++
        ((d.note.map (titledRows "Note:")).getD [] ++ [[]]))),
    ?_, rfl, hlength.trans h.length_context, ?_, hline, length_caretIndent hcolumn,
    getElem_caretIndent hcolumn⟩
  · rw [hrows.splitLines_eq, titledRows]
    simp only [List.append_assoc, List.cons_append, List.nil_append]
    rfl
  · rw [hlength]
    exact map_some_zipWith _ h.map_some_context

/-- **The carets stand under the offending text.**  The report of a diagnostic of reading is in
the full layout, and no row of it is misnumbered, missing or cut. -/
theorem showsCarets_of_tokenize_error {source file : String} {before : Nat} {d : Diagnostic}
    (h : tokenize source file before = .error d) (hfile : '\n' ∉ file.toList) (files : Files) :
    d.report files = d.fullReport ∧
      ShowsCarets source before d (splitLines ((d.report files).print .plain).toList) := by
  obtain ⟨failure, hscan, hd⟩ := tokenize_eq_error_iff.1 h
  have hanchored : Anchored source before d := hd ▸ anchored_of_scan_error file before hscan
  have hcode : d.code? = some failure.fault.code := by rw [hd]; rfl
  have hwidth : 1 ≤ d.spanLength := by rw [hd]; exact Nat.le_max_right _ _
  have hlocation : d.location.file = file := by rw [hd]; rfl
  have hcontext := hanchored.context_ne_nil
  have hreport : d.report files = d.fullReport := by
    rw [Diagnostic.report, hcode, if_pos (by simpa using hcontext)]
  rw [hreport]
  exact ⟨rfl, hanchored.showsCarets hcode hwidth (hlocation ▸ hfile)⟩

/-- A tab stands before the carets and one under them, and the numbers are of two widths. -/
theorem showsCarets_tabs :
    tokenize "\n\n\n\n\n\n\n\ny\n\tab=\"x\t" "m.k" 1 =
        .error ((Fault.stringOpen "x\t").diagnostic ⟨"m.k", 10, 4⟩ ["y", "\tab=\"x\t"]) ∧
      '\n' ∉ "m.k".toList ∧
      ShowsCarets "\n\n\n\n\n\n\n\ny\n\tab=\"x\t" 1
        ((Fault.stringOpen "x\t").diagnostic ⟨"m.k", 10, 4⟩ ["y", "\tab=\"x\t"])
        (splitLines ((((Fault.stringOpen "x\t").diagnostic ⟨"m.k", 10, 4⟩
          ["y", "\tab=\"x\t"]).report Files.none).print .plain).toList) :=
  have h : tokenize "\n\n\n\n\n\n\n\ny\n\tab=\"x\t" "m.k" 1 =
      .error ((Fault.stringOpen "x\t").diagnostic ⟨"m.k", 10, 4⟩ ["y", "\tab=\"x\t"]) := by
    decide +kernel
  have hfile : '\n' ∉ "m.k".toList := by decide
  ⟨h, hfile, (showsCarets_of_tokenize_error h hfile Files.none).2⟩

end FrontEnd
