/-
FrontEnd/Proofs/Escapes.lean

Escape characters in a plain report.

The plain mode writes no terminal sequences of its own.  Whether a plainly printed report
holds an escape character is then a question of the texts in it, and it is followed part by
part through the full layout (`Diagnostic.showsEscape_fullReport`): headings, numbers and
carets are inert, so only the label of the file, the captured lines, cause, advice, sample
and note are left.

For a diagnostic of reading cause, advice and note are legible, and what the sample quotes
stands on a captured line.  So the report holds an escape character exactly if the label or
a captured line does (`escape_mem_report_iff`).  A text without one brings none in, whatever
the escapes in its literals stand for.  But a captured line is shown as it stands, and an
escape character on it reaches the terminal in the plain mode, too
(`escape_mem_report_stray`).
-/
import FrontEnd.Proofs.Contents
import FrontEnd.Proofs.Legible
import FrontEnd.Proofs.Modes

namespace FrontEnd

/-! ### Escape characters of a document -/

namespace Document

/-- An escape character stands in the document, as it is printed without marks. -/
def ShowsEscape (d : Document) : Prop := escapeCharacter ∈ (d.print .plain).toList

variable {d e : Document} {text : String}

theorem not_showsEscape_nil : ¬ ShowsEscape [] := List.not_mem_nil

@[simp] theorem showsEscape_plain :
    (plain text).ShowsEscape ↔ escapeCharacter ∈ text.toList := by
  rw [ShowsEscape, print_plain]

@[simp] theorem showsEscape_painted {role : Role} :
    (painted role text).ShowsEscape ↔ escapeCharacter ∈ text.toList := by
  rw [ShowsEscape, print_painted, Mode.paint_plain]

@[simp] theorem showsEscape_append :
    (d ++ e).ShowsEscape ↔ d.ShowsEscape ∨ e.ShowsEscape := by
  rw [ShowsEscape, print_append, String.toList_append, List.mem_append]
  rfl

theorem not_showsEscape_blankLine : ¬ blankLine.ShowsEscape := by
  rw [blankLine, showsEscape_plain]
  decide

@[simp] theorem showsEscape_line : d.line.ShowsEscape ↔ d.ShowsEscape := by
  rw [line, showsEscape_append]
  exact or_iff_left not_showsEscape_blankLine

theorem showsEscape_flatMap {α : Type} {parts : List α} {part : α → Document} :
    ShowsEscape (parts.flatMap part) ↔ ∃ a ∈ parts, (part a).ShowsEscape := by
  induction parts with
  | nil => simp [not_showsEscape_nil]
  | cons a parts ih => simp [ih]

end Document

open Document
open Mode (Inert)

/-- An inert text holds no escape character. -/
theorem Mode.Inert.escape_not_mem {text : String} (h : Inert text) :
    escapeCharacter ∉ text.toList :=
  fun hm => h _ hm (by decide)

/-! ### The full layout -/

namespace Diagnostic

variable {d : Diagnostic} {text : String}

theorem not_showsEscape_title (code : Code) :
    ¬ (painted .framing "[K:" ++ painted .error code.label ++ painted .framing "] " ++
      painted .error code.name).ShowsEscape := by
  have hopen : escapeCharacter ∉ "[K:".toList := by decide
  have hlabel := (inert_codeLabel code).escape_not_mem
  have hclose : escapeCharacter ∉ "] ".toList := by decide
  have hname := (inert_codeName code).escape_not_mem
  simp only [showsEscape_append, showsEscape_painted, hopen, hlabel, hclose, hname, or_self,
    not_false_eq_true]

theorem showsEscape_fullHeading :
    d.fullHeading.ShowsEscape ↔ escapeCharacter ∈ d.location.file.toList := by
  have hat : escapeCharacter ∉ "at ".toList := by decide
  have hcolon : escapeCharacter ∉ ":".toList := by decide
  have hline := (inert_number d.location.line).escape_not_mem
  have hcolumn := (inert_number d.location.column).escape_not_mem
  -- of the rows of the heading only the place has a text that is not the report's own
  have hphase := (inert_phaseRow d).escape_not_mem
  unfold fullHeading
  refine showsEscape_append.trans ((or_iff_right ?_).trans ?_)
  · rw [showsEscape_append, not_or]
    constructor
    · split
      · next code _ => exact showsEscape_line.not.2 (not_showsEscape_title code)
      · exact not_showsEscape_nil
    · exact (showsEscape_line.trans showsEscape_painted).not.2 hphase
  · simp only [showsEscape_line, showsEscape_append, showsEscape_painted, hat, hcolon, hline,
      hcolumn, or_false, false_or]

theorem showsEscape_sourceRow (number : Nat) :
    (d.sourceRow number text).ShowsEscape ↔ escapeCharacter ∈ text.toList := by
  have hnumber := (inert_rightAligned d.numberWidth number).escape_not_mem
  have hbar : escapeCharacter ∉ " | ".toList := by decide
  simp only [sourceRow, showsEscape_line, showsEscape_append, showsEscape_painted, hnumber, hbar,
    false_or]

theorem not_showsEscape_caretRow : ¬ (d.caretRow text).ShowsEscape := by
  have hmargin := (inert_spaces d.numberWidth).escape_not_mem
  have hbar : escapeCharacter ∉ " | ".toList := by decide
  have hindent := (inert_caretIndent text.toList d.location.column).escape_not_mem
  have hcarets := (inert_carets
    (caretCount text.toList d.location.column d.spanLength)).escape_not_mem
  simp only [caretRow, showsEscape_line, showsEscape_append, showsEscape_plain,
    showsEscape_painted, hmargin, hbar, hindent, hcarets, or_self, not_false_eq_true]

theorem showsEscape_sourceRows {texts : List String} (number : Nat) :
    ShowsEscape (d.sourceRows number texts) ↔
      ∃ text ∈ texts, escapeCharacter ∈ text.toList := by
  induction texts generalizing number with
  | nil => simp [sourceRows, not_showsEscape_nil]
  | cons text texts ih =>
    have hcarets : ¬ ShowsEscape (if number = d.location.line then d.caretRow text else []) := by
      split
      · exact not_showsEscape_caretRow
      · exact not_showsEscape_nil
    simp only [sourceRows, showsEscape_append, showsEscape_sourceRow, hcarets, or_false, ih,
      List.exists_mem_cons_iff]

theorem showsEscape_titledPart {title body : String} {titleRole bodyRole : Role}
    (htitle : Inert title) :
    ShowsEscape (titledPart title titleRole body bodyRole) ↔
      ∃ row ∈ rowsOf body, escapeCharacter ∈ row.toList := by
  have hindent : escapeCharacter ∉ "  ".toList := by decide
  simp only [titledPart, showsEscape_append, not_showsEscape_blankLine, showsEscape_line,
    showsEscape_painted, htitle.escape_not_mem, showsEscape_flatMap, showsEscape_plain, hindent,
    false_or]

theorem showsEscape_titledPart? {title : String} {body : Option String}
    {titleRole bodyRole : Role} (htitle : Inert title) :
    ShowsEscape (titledPart? title titleRole body bodyRole) ↔
      ∃ text ∈ body.toList, ∃ row ∈ rowsOf text, escapeCharacter ∈ row.toList := by
  cases body with
  | none => simp [titledPart?, not_showsEscape_nil]
  | some text => simpa [titledPart?] using showsEscape_titledPart htitle

/-- The texts of the full layout that are shown below the source lines. -/
def bodies (d : Diagnostic) : List String :=
  d.message :: d.advice :: (d.sample.toList ++ d.note.toList)

/-- **The escape characters of the full layout** stand in the label of the file, in a captured
line, or in a row of one of the bodies. -/
theorem showsEscape_fullReport :
    d.fullReport.ShowsEscape ↔ escapeCharacter ∈ d.location.file.toList ∨
      (∃ line ∈ d.context, escapeCharacter ∈ line.toList) ∨
      ∃ body ∈ d.bodies, ∃ row ∈ rowsOf body, escapeCharacter ∈ row.toList := by
  have hcause : Inert "Cause:" := .word rfl
  have hfix : Inert "Fix:" := .word rfl
  have hsample : Inert "Example:" := .word rfl
  have hnote : Inert "Note:" := .word rfl
  simp only [fullReport, showsEscape_append, showsEscape_fullHeading, not_showsEscape_blankLine,
    or_false, showsEscape_sourceRows, showsEscape_titledPart hcause, showsEscape_titledPart hfix,
    showsEscape_titledPart? hsample, showsEscape_titledPart? hnote, bodies,
    List.exists_mem_cons_iff, List.mem_append, or_and_right, exists_or, or_assoc]

end Diagnostic

/-! ### The report of a diagnostic of reading -/

section Reading

variable {source file : String} {before : Nat}

/-- An anchored diagnostic has a code and captured lines. -/
theorem Anchored.isFull {d : Diagnostic} (h : Anchored source before d) : d.IsFull := by
  obtain ⟨fault, -, -, -, -, hheading, -⟩ := h.marks
  have hcode : d.code? = some fault.code := by rw [Diagnostic.code?, hheading]
  exact ⟨by rw [hcode]; rfl, h.context_ne_nil⟩

section Fault

variable {stretches : List Stretch} {rest : List Char} {fault : Fault} {offset : Nat}
  {d : Diagnostic}

/-- A captured line holds the text behind the place of a fault, up to the end of its line. -/
theorem Splits.exists_mem_context (hsource : source.toList = textOf stretches ++ rest)
    (hs : Splits stretches rest) (hm : Malformed rest fault offset)
    (hd : d = LexicalFailure.diagnostic
      ⟨fault, Position.start.after (textOf stretches ++ rest.take offset)⟩ source file before)
    {c : Char} (hc : c ∈ firstLine (rest.drop offset)) :
    ∃ line ∈ d.context, c ∈ line.toList := by
  have hcut := cut_further hsource offset
  have hanchored : Anchored source before d := hd ▸ hs.anchored hsource hm
  obtain ⟨line, hline, hlast, -⟩ := hanchored.exists_last_line
  have hshown : line = String.ofList
      (lastLine (textOf stretches ++ rest.take offset) ++ firstLine (rest.drop offset)) := by
    rw [hd] at hline
    exact Option.some.inj (hline.symm.trans (LineIndex.line?_ofText_after hcut))
  refine ⟨line, List.mem_of_getLast? hlast, ?_⟩
  rw [hshown, String.toList_ofList]
  exact List.mem_append_right _ hc

/-- An escape character in a body of the report stands on a captured line, too. -/
theorem Splits.escape_mem_context (hsource : source.toList = textOf stretches ++ rest)
    (hs : Splits stretches rest) (hm : Malformed rest fault offset)
    (hd : d = LexicalFailure.diagnostic
      ⟨fault, Position.start.after (textOf stretches ++ rest.take offset)⟩ source file before)
    {body : String} (hbody : body ∈ d.bodies) (hescape : escapeCharacter ∈ body.toList) :
    ∃ line ∈ d.context, escapeCharacter ∈ line.toList := by
  have hcontrol : isControl escapeCharacter = true := by decide
  have hbodies : d.bodies =
      fault.message :: fault.fix :: (fault.sample?.toList ++ fault.note?.toList) := by
    rw [hd]
    rfl
  rw [hbodies] at hbody
  -- of the bodies only the sample quotes the source text as it is
  rcases List.mem_cons.1 hbody with rfl | hbody
  · exact absurd hescape (hm.legible_message.not_mem hcontrol)
  rcases List.mem_cons.1 hbody with rfl | hbody
  · exact absurd hescape (fault.legible_fix.not_mem hcontrol)
  rcases List.mem_append.1 hbody with hsample | hnote
  · have hquoted := hm.mem_firstLine_of_mem_sample (Option.mem_toList.1 hsample) hescape
      hcontrol (by decide) (by decide)
    exact hs.exists_mem_context hsource hm hd hquoted
  · exact absurd hescape ((Fault.legible_note (Option.mem_toList.1 hnote)).not_mem hcontrol)

end Fault

/-- **Escape characters come from the label of the file and the captured lines.**  Where these
hold none the plain report holds none, and so it is for a text and a label without them. -/
theorem escape_mem_report_iff {d : Diagnostic} (h : tokenize source file before = .error d)
    (files : Files) :
    (escapeCharacter ∈ ((d.report files).print .plain).toList ↔
      escapeCharacter ∈ file.toList ∨ ∃ line ∈ d.context, escapeCharacter ∈ line.toList) ∧
    (escapeCharacter ∉ source.toList → escapeCharacter ∉ file.toList →
      escapeCharacter ∉ ((d.report files).print .plain).toList) := by
  obtain ⟨failure, hscan, hd⟩ := tokenize_eq_error_iff.1 h
  have hanchored : Anchored source before d := hd ▸ anchored_of_scan_error file before hscan
  have hlabel : d.location.file = file := by rw [hd]; rfl
  have hshows : (d.report files).ShowsEscape ↔
      escapeCharacter ∈ file.toList ∨ ∃ line ∈ d.context, escapeCharacter ∈ line.toList := by
    rw [Diagnostic.report_of_isFull hanchored.isFull, Diagnostic.showsEscape_fullReport, hlabel]
    -- what a body shows stands on a captured line as well, so the bodies add nothing
    refine or_congr_right (or_iff_left_of_imp ?_)
    rintro ⟨body, hbody, row, hrow, hescape⟩
    obtain ⟨stretches, rest, fault, offset, htext, hs, hm, rfl⟩ := scan_eq_error_iff.1 hscan
    exact hs.escape_mem_context htext hm hd hbody ((infix_of_mem_rowsOf hrow).subset hescape)
  refine ⟨hshows, fun hsource hfile hshown => ?_⟩
  rcases hshows.1 hshown with hescape | ⟨line, hline, hescape⟩
  · exact hfile hescape
  · obtain ⟨n, hn⟩ := hanchored.exists_line? hline
    exact hsource ((infix_of_line? hn).subset hescape)

/-- An escape character in a comment on the line of the fault, and a text without one. -/
theorem escape_mem_report_comment :
    let stray := (Fault.strayCharacter '#').diagnostic ⟨"a.k", 1, 11⟩ ["/* \x1b[2J */ #"]
    let unknown := (Fault.stringEscape 'e' "\t").diagnostic ⟨"a.k", 1, 0⟩ ["\"\\t\\e[2J\""]
    tokenize "/* \x1b[2J */ #" "a.k" 2 = .error stray ∧
      escapeCharacter ∈ ((stray.report Files.none).print .plain).toList ∧
      tokenize "\"\\t\\e[2J\"" "a.k" 2 = .error unknown ∧
      escapeCharacter ∉ ((unknown.report Files.none).print .plain).toList := by
  intro stray unknown
  have hstray : tokenize "/* \x1b[2J */ #" "a.k" 2 = .error stray := by decide +kernel
  have hunknown : tokenize "\"\\t\\e[2J\"" "a.k" 2 = .error unknown := by decide +kernel
  have hline : ∃ line ∈ stray.context, escapeCharacter ∈ line.toList :=
    ⟨_, List.mem_singleton_self _, by decide⟩
  exact ⟨hstray, (escape_mem_report_iff hstray Files.none).1.2 (.inr hline), hunknown,
    (escape_mem_report_iff hunknown Files.none).2 (by decide) (by decide)⟩

/-- That the label holds no escape character is not enough.  A stray one is quoted in its readable
form in the message, and shown as it is on its line. -/
theorem escape_mem_report_stray :
    ¬ ∀ (source file : String) (d : Diagnostic), escapeCharacter ∉ file.toList →
      tokenize source file defaultContext = .error d →
      escapeCharacter ∉ ((d.report Files.none).print .plain).toList := by
  intro hall
  let stray := (Fault.strayCharacter escapeCharacter).diagnostic ⟨"a.k", 1, 0⟩ ["\x1b"]
  have hstray : tokenize "\x1b" "a.k" defaultContext = .error stray := by decide +kernel
  exact hall "\x1b" "a.k" stray (by decide) hstray (by decide +kernel)

end Reading

end FrontEnd
