/-
FrontEnd/Proofs/Contents.lean

What a report shows of its diagnostic.

A text is shown if it stands in the plain printing (`Document.Shows`).  What a part of a
report shows the whole of it shows, so each text is looked up in the one part of the
layout that is there for it.

Cause and advice are shown in either layout.  The rest is divided between the two: the
full layout has a place for the sample and the note, the annotated one for related places
and remarks (`shows_report`).  A diagnostic may well bring what its layout has no place
for (`not_shows_everything`).
-/
import FrontEnd.Proofs.Rows

namespace FrontEnd

/-! ### Shown texts -/

namespace Document

/-- The text stands in the document, as it is printed without marks. -/
def Shows (d : Document) (text : String) : Prop := text.toList <:+: (d.print .plain).toList

instance (d : Document) (text : String) : Decidable (d.Shows text) :=
  inferInstanceAs (Decidable (text.toList <:+: (d.print .plain).toList))

variable {d e : Document} {text words : String}

theorem shows_plain (text : String) : (plain text).Shows text := by
  simp only [Shows, print_plain, List.infix_rfl]

theorem shows_painted (role : Role) (text : String) : (painted role text).Shows text := by
  simp only [Shows, print_painted, Mode.paint_plain, List.infix_rfl]

/-- With a text everything that stands in it is shown. -/
theorem Shows.excerpt (h : d.Shows text) (hwords : words.toList <:+: text.toList) :
    d.Shows words :=
  hwords.trans h

/-- A text is not shown where one of its characters is missing. -/
theorem not_shows_of_not_mem {c : Char} (hc : c ∈ text.toList)
    (h : c ∉ (d.print .plain).toList) : ¬ d.Shows text :=
  fun hshows => h (hshows.subset hc)

theorem Shows.append_right (h : d.Shows text) (e : Document) : (d ++ e).Shows text := by
  rw [Shows, print_append, String.toList_append]
  exact h.trans (List.prefix_append _ _).isInfix

theorem Shows.append_left (h : e.Shows text) (d : Document) : (d ++ e).Shows text := by
  rw [Shows, print_append, String.toList_append]
  exact h.trans (List.suffix_append _ _).isInfix

theorem Shows.line (h : d.Shows text) : d.line.Shows text := h.append_right _

theorem shows_flatMap {α : Type} {parts : List α} {document : α → Document} {a : α}
    (ha : a ∈ parts) (h : (document a).Shows text) : Shows (parts.flatMap document) text := by
  obtain ⟨front, back, rfl⟩ := List.append_of_mem ha
  rw [List.flatMap_append, List.flatMap_cons]
  exact (h.append_right _).append_left _

end Document

open Document

theorem infix_append_left (front text : String) : text.toList <:+: (front ++ text).toList := by
  rw [String.toList_append]
  exact (List.suffix_append _ _).isInfix

/-- The rows of a text stand in the text. -/
theorem infix_of_mem_rowsOf {text row : String} (h : row ∈ rowsOf text) :
    row.toList <:+: text.toList := by
  obtain ⟨line, hline, rfl⟩ := List.mem_map.1 h
  rw [String.toList_ofList]
  exact infix_of_mem_rows hline

/-! ### What a diagnostic brings -/

namespace Diagnostic

/-- Cause and advice, row by row.  What does not stop compilation may come without advice. -/
def essentials (d : Diagnostic) : List String :=
  rowsOf d.message ++ if d.isError || d.fix.isSome then rowsOf d.advice else []

/-- Sample and note, row by row. -/
def illustrations (d : Diagnostic) : List String :=
  (d.sample.toList ++ d.note.toList).flatMap rowsOf

/-- Related places, and remarks with the places that they point at. -/
def references (d : Diagnostic) : List String :=
  d.secondary.map Span.label ++ d.notes.map Note.label

/-- The condition for the full layout: the problem is in the catalogue, and its lines have been
captured. -/
def IsFull (d : Diagnostic) : Prop := d.code?.isSome ∧ d.context ≠ []

variable {d : Diagnostic} {text : String} {files : Files}

theorem report_of_isFull (h : d.IsFull) (files : Files) : d.report files = d.fullReport := by
  rw [report, if_pos]
  simpa [IsFull] using h

theorem report_of_not_isFull (h : ¬ d.IsFull) (files : Files) :
    d.report files = d.annotatedReport files := by
  rw [report, if_neg]
  simpa [IsFull] using h

/-! ### The full layout -/

theorem shows_titledPart {title body row : String} (role other : Role) (h : row ∈ rowsOf body) :
    (titledPart title role body other).Shows row := by
  have hrow : (Document.line (plain "  " ++ painted other row)).Shows row :=
    ((shows_painted other row).append_left _).line
  unfold titledPart
  refine Shows.append_left ?_ _
  exact shows_flatMap h hrow

theorem shows_titledPart? {title row : String} {body : Option String} (role other : Role)
    (h : row ∈ body.toList.flatMap rowsOf) : (titledPart? title role body other).Shows row := by
  cases body with
  | none => cases h
  | some body =>
    rw [Option.toList_some, List.flatMap_singleton] at h
    exact shows_titledPart role other h

/-- The parts of the full layout that tell of the problem, in order. -/
theorem shows_fullReport (h : text ∈ d.essentials ++ d.illustrations) :
    d.fullReport.Shows text := by
  rw [essentials, illustrations, List.flatMap_append] at h
  unfold fullReport
  rcases List.mem_append.1 h with hessential | hillustration
  · rcases List.mem_append.1 hessential with hcause | hadvice
    · -- three parts stand behind the cause, two behind the advice
      iterate 3 refine Shows.append_right ?_ _
      exact (shows_titledPart .framing .neutral hcause).append_left _
    · have hrow : text ∈ rowsOf d.advice := by
        split at hadvice
        · exact hadvice
        · cases hadvice
      iterate 2 refine Shows.append_right ?_ _
      exact (shows_titledPart .help .help hrow).append_left _
  · rcases List.mem_append.1 hillustration with hsample | hnote
    · refine Shows.append_right ?_ _
      exact (shows_titledPart? .help .helpAccent hsample).append_left _
    · exact (shows_titledPart? .framing .neutral hnote).append_left _

/-! ### The annotated layout -/

/-- A line shows the text that ends it. -/
theorem shows_textLine (front : Document) (words text : String) :
    (front ++ plain (words ++ text)).line.Shows text :=
  (((shows_plain _).excerpt (infix_append_left words text)).append_left front).line

theorem shows_annotatedReport_essentials (h : text ∈ d.essentials) :
    (d.annotatedReport files).Shows text := by
  unfold annotatedReport
  rcases List.mem_append.1 h with hcause | hadvice
  · have hmessage := shows_textLine (painted d.category.role d.annotatedLabel) ": " d.message
    -- the row of the cause is the second of ten parts
    iterate 8 refine Shows.append_right ?_ _
    exact (hmessage.excerpt (infix_of_mem_rowsOf hcause)).append_left _
  · split at hadvice
    · next hshown =>
      have hline := shows_textLine (plain " " ++ painted .help "fix") ": " d.advice
      rw [if_pos hshown]
      refine Shows.append_right ?_ _
      exact (hline.excerpt (infix_of_mem_rowsOf hadvice)).append_left _
    · cases hadvice

theorem shows_annotatedReport_references (h : text ∈ d.references) :
    (d.annotatedReport files).Shows text := by
  unfold annotatedReport
  rcases List.mem_append.1 h with hplace | hremark
  · obtain ⟨span, hspan, rfl⟩ := List.mem_map.1 hplace
    have hline := shows_textLine [] " note: referenced at " span.label
    iterate 3 refine Shows.append_right ?_ _
    refine Shows.append_left ?_ _
    exact shows_flatMap hspan hline
  · obtain ⟨note, hnote, rfl⟩ := List.mem_map.1 hremark
    have hline := shows_textLine [] " note: " note.label
    iterate 2 refine Shows.append_right ?_ _
    refine Shows.append_left ?_ _
    exact shows_flatMap hnote hline

/-! ### Both layouts -/

/-- **What a report shows.**  Cause and advice are shown in any report, sample and note in the
full layout, related places and remarks in the other. -/
theorem shows_report (files : Files) (d : Diagnostic) :
    (∀ text ∈ d.essentials, (d.report files).Shows text) ∧
      (d.IsFull → ∀ text ∈ d.illustrations, (d.report files).Shows text) ∧
      (¬ d.IsFull → ∀ text ∈ d.references, (d.report files).Shows text) := by
  by_cases hfull : d.IsFull
  · rw [report_of_isFull hfull]
    refine ⟨fun text h => ?_, fun _ text h => ?_, fun hnot => absurd hfull hnot⟩
    · exact shows_fullReport (List.mem_append_left _ h)
    · exact shows_fullReport (List.mem_append_right _ h)
  · rw [report_of_not_isFull hfull]
    refine ⟨fun text h => ?_, fun hyes => absurd hyes hfull, fun _ text h => ?_⟩
    · exact shows_annotatedReport_essentials h
    · exact shows_annotatedReport_references h

/-- A stray character with a sample of two lines, and a doubtful name with a remark on another
file. -/
theorem shows_report_samples :
    let stray := (((coded .e001 ⟨"a.k", 1, 0⟩ "Character '#' is not valid in Klang.").withContext
      ["#"]).withSample "character c = 'a';\ncharacter d = 'b';").withNote "Use a String for text."
    let doubtful := ((general .warning ⟨"a.k", 3, 4⟩ "unused").withSecondary
      (Span.point "a.k" 1 1)).withRemark ⟨"declared here", some (Span.point "" 4 2)⟩
    stray.IsFull ∧ (stray.report Files.none).Shows "character d = 'b';" ∧
      ¬ doubtful.IsFull ∧ (doubtful.report Files.none).Shows "declared here --> <input>:4:2" := by
  intro stray doubtful
  have hstray : stray.IsFull := ⟨rfl, List.cons_ne_nil _ _⟩
  have hdoubtful : ¬ doubtful.IsFull := fun h => absurd h.1 (by decide)
  refine ⟨hstray, (shows_report Files.none stray).2.1 hstray _ ?_, hdoubtful,
    (shows_report Files.none doubtful).2.2 hdoubtful _ ?_⟩
  · decide +kernel
  · decide +kernel

/-- Neither layout shows everything.  A related place is not shown in the full layout, and the
sample that comes with an undefined name is not shown in the annotated one. -/
theorem not_shows_everything :
    let stray := ((coded .e001 ⟨"a.k", 1, 0⟩ "Character '#' is not valid in Klang.").withContext
      ["#"]).withSecondary (Span.point "lib.k" 4 2)
    let undefined := ((general .semantic ⟨"a.k", 1, 0⟩ "Undefined variable 'x'.").withFix
      "Declare 'x' before using it.").withSample "integer x = 0;"
    ¬ (∀ text ∈ stray.essentials ++ stray.illustrations ++ stray.references,
        (stray.report Files.none).Shows text) ∧
      ¬ ∀ text ∈ undefined.essentials ++ undefined.illustrations ++ undefined.references,
        (undefined.report Files.none).Shows text := by
  intro stray undefined
  have hplace : ¬ (stray.report Files.none).Shows "lib.k:4:2" :=
    not_shows_of_not_mem (show 'b' ∈ _ by decide) (by decide +kernel)
  have hsample : ¬ (undefined.report Files.none).Shows "integer x = 0;" :=
    not_shows_of_not_mem (show '=' ∈ _ by decide) (by decide +kernel)
  exact ⟨fun hall => hplace (hall _ (by decide +kernel)),
    fun hall => hsample (hall _ (by decide +kernel))⟩

end Diagnostic

end FrontEnd
