/-
FrontEnd/Proofs/Modes.lean

The printing modes differ in their marks and in nothing else.

`auto`, when it has not been settled, prints as `rich` does.  A printing in `rich` without
its terminal sequences, and one in `debug` without its markers, is the printing in `plain`
(`Document.DiffersInMarks`), provided that the texts which a report is about hold no
such thing themselves.

Which texts these are is said once for diagnostics (`Diagnostic.texts`) and once for
failures (`Failure.texts`).  Everything else in a report, the headings, numbers and words
between the texts, is the report's own, and it is shown here that it neither holds a mark
nor completes one.
-/
import FrontEnd.Command.Failure
import FrontEnd.Proofs.Marks

namespace FrontEnd

open Document
open Mode (Inert Clear)

/-! ### The texts of a report -/

/-- The texts of a remark. -/
def Note.texts (note : Note) : List String :=
  note.message :: (note.span.map Span.file).toList

/-- The texts that a diagnostic brings to its report, the offending line among them. -/
def Diagnostic.texts (files : Files) (d : Diagnostic) : List String :=
  [d.message, d.location.file, d.offendingLine files] ++ d.context ++
    d.fix.toList ++ d.sample.toList ++ d.note.toList ++ d.secondary.map Span.file ++
    d.notes.flatMap Note.texts

/-- The texts that a failure brings to its report. -/
def Failure.texts (files : Files) : Failure → List String
  | .diagnostic d => d.texts files
  | .notFound path | .permissionDenied path | .invalidUtf8 path => [path]
  | .unreadable path reason => [path, reason]
  | .invalidFileType path command => [path, command]
  | .unknownCode text | .invalidColorMode text => [text]
  | .missingExplanation _ => []
  | .usage command arguments => [command, arguments]
  | .unwritable reason => [reason]

/-! ### What the reports add is inert -/

theorem inert_number (n : Nat) : Inert (toString n) := by
  have hdigit : Mode.signEnds.all (!·.isDigit) = true := by decide
  intro c hc hend
  have hc' : c.isDigit = false := by simpa using List.all_eq_true.1 hdigit c hend
  exact not_mem_toDigits hc' n (by simpa using hc)

theorem inert_spaces (n : Nat) : Inert (spaces n) := by
  intro c hc
  rw [spaces, String.toList_ofList] at hc
  obtain rfl := List.eq_of_mem_replicate hc
  decide

theorem inert_rightAligned (width n : Nat) : Inert (rightAligned width n) :=
  (inert_spaces _).append (inert_number n)

theorem inert_caretIndent (line : List Char) (column : Nat) :
    Inert (String.ofList (caretIndent line column)) := by
  intro c hc
  rw [String.toList_ofList] at hc
  rcases mem_caretIndent hc with rfl | rfl <;> decide

theorem inert_carets (n : Nat) : Inert (String.ofList (List.replicate n '^')) := by
  intro c hc
  rw [String.toList_ofList] at hc
  obtain rfl := List.eq_of_mem_replicate hc
  decide

theorem inert_codeLabel (code : Code) : Inert code.label := by
  cases code <;> exact .word rfl

theorem inert_codeName (code : Code) : Inert code.name := by
  cases code <;> exact .word rfl

theorem inert_categoryLabel (category : Category) : Inert category.label := by
  cases category <;> exact .word rfl

theorem inert_genericFix (code : Option Code) : Inert (genericFix code) := by
  cases code with
  | none => exact .word rfl
  | some code => exact (Inert.append (.word rfl) (inert_codeLabel code)).append (.word rfl)

theorem inert_counted (n : Nat) {noun : String} (h : Inert noun) : Inert (counted n noun) := by
  have hspace : Inert " " := .word rfl
  have hplural : Inert (if n = 1 then "" else "s") := by
    split <;> exact .word rfl
  have hcount : Inert (toString n ++ " " ++ noun) := ((inert_number n).append hspace).append h
  have hall := hcount.append hplural
  simpa [counted, toString] using hall

section Parts

variable {mode : Mode} {d : Diagnostic} {text : String}

theorem erasable_word (role : Role) (h : Inert text) : Erasable mode (painted role text) :=
  erasable_painted role (h.clear mode)

/-- The line that ends a run has no text in it. -/
theorem erasable_tally (errors warnings : Nat) : Erasable mode (tally errors warnings) := by
  have herror : Erasable mode (painted .error "error") := erasable_word .error (.word rfl)
  have hwarning : Erasable mode (painted .yellow "warning") := erasable_word .yellow (.word rfl)
  have hcolon : Inert ": " := .word rfl
  have hseparator : Inert "; " := .word rfl
  have haborting : Inert ": aborting due to " := .word rfl
  have hfound : Inert (if errors = 1 then "previous error"
      else counted errors "previous error") := by
    split
    · exact .word rfl
    · exact inert_counted errors (.word rfl)
  have hemitted : Inert " emitted" := .word rfl
  have hwarned : Inert (counted warnings "warning" ++ " emitted") :=
    (inert_counted warnings (.word rfl)).append hemitted
  have hstopped := haborting.append hfound
  by_cases herrors : 0 < errors
  · simp only [tally, if_pos herrors]
    refine (herror.append (erasable_plain ?_)).line
    by_cases hwarnings : 0 < warnings
    · rw [if_pos hwarnings]
      exact (hstopped.append hseparator).append hwarned
    · rw [if_neg hwarnings]
      exact hstopped
  · simp only [tally, if_neg herrors]
    by_cases hwarnings : 0 < warnings
    · rw [if_pos hwarnings]
      exact (hwarning.append (erasable_plain (hcolon.append hwarned))).line
    · rw [if_neg hwarnings]
      exact erasable_nil

/-! ### Parts of a report -/

theorem clear_fileLabel (h : Clear mode text) : Clear mode (fileLabel text) := by
  unfold fileLabel
  split
  · have hinput : Inert "<input>" := .word rfl
    exact hinput.clear mode
  · exact h

theorem clear_spanLabel {span : Span} (h : Clear mode span.file) : Clear mode span.label := by
  have hcolon : Inert ":" := .word rfl
  have hline := ((clear_fileLabel h).before hcolon).before (inert_number span.startLine)
  have hcolumn := (hline.before hcolon).before (inert_number span.startColumn)
  simpa [Span.label, toString] using hcolumn

theorem clear_advice (h : ∀ text, d.fix = some text → Clear mode text) : Clear mode d.advice := by
  unfold Diagnostic.advice
  cases hfix : d.fix with
  | none => exact (inert_genericFix d.code?).clear mode
  | some text => exact h text hfix

theorem clear_of_mem_rowsOf {row : String} (h : Clear mode text) (hrow : row ∈ rowsOf text) :
    Clear mode row := by
  obtain ⟨line, hline, rfl⟩ := List.mem_map.1 hrow
  exact h.of_infix (by simpa using infix_of_mem_rows hline)

end Parts

namespace Diagnostic

variable {mode : Mode} {files : Files} {d : Diagnostic} {text : String}

theorem erasable_titledPart {title body : String} {titleRole bodyRole : Role}
    (hbody : Clear mode body) (htitle : Inert title) :
    Erasable mode (titledPart title titleRole body bodyRole) := by
  have htitleLine := (erasable_painted titleRole (htitle.clear mode)).line
  have hindent : Erasable mode (plain "  ") := erasable_plain (.word rfl)
  refine (erasable_blankLine.append htitleLine).append (erasable_flatMap fun row hrow => ?_)
  have hrow := erasable_painted bodyRole (clear_of_mem_rowsOf hbody hrow)
  exact (hindent.append hrow).line

theorem erasable_titledPart? {title : String} {body : Option String} {titleRole bodyRole : Role}
    (hbody : ∀ text, body = some text → Clear mode text) (htitle : Inert title) :
    Erasable mode (titledPart? title titleRole body bodyRole) := by
  cases body with
  | none => exact erasable_nil
  | some text => exact erasable_titledPart (hbody text rfl) htitle

theorem inert_phase (d : Diagnostic) :
    Inert ((d.phase?.map Phase.label).getD d.category.label) := by
  unfold phase? category code?
  cases d.heading with
  | coded code => cases code <;> exact .word rfl
  | general category => exact inert_categoryLabel category

/-- The row of the phase in the heading. -/
theorem inert_phaseRow (d : Diagnostic) :
    Inert ("ERROR (" ++ (d.phase?.map Phase.label).getD d.category.label ++ ")") :=
  (Inert.append (.word rfl) (inert_phase d)).append (.word rfl)

theorem erasable_fullHeading (hfile : Clear mode d.location.file) :
    Erasable mode d.fullHeading := by
  have hcolon : Erasable mode (painted .separator ":") := erasable_word .separator (.word rfl)
  have hat : Erasable mode (painted .framing "at ") := erasable_word .framing (.word rfl)
  have hplace := ((((hat.append (erasable_painted .neutral hfile)).append hcolon).append
    (erasable_word .framing (inert_number d.location.line))).append hcolon).append
    (erasable_word .framing (inert_number d.location.column))
  have htitle : ∀ code : Code, Erasable mode (painted .framing "[K:" ++
      painted .error code.label ++ painted .framing "] " ++ painted .error code.name) := by
    intro code
    -- a bracket may begin or end a marker, so these two are clear without being inert
    have hopen : Clear mode "[K:" := by cases mode <;> decide
    have hclose : Clear mode "] " := by cases mode <;> decide
    have hlabel := inert_codeLabel code
    have hname := inert_codeName code
    exact (((erasable_painted .framing hopen).append (erasable_word .error hlabel)).append
      (erasable_painted .framing hclose)).append (erasable_word .error hname)
  have hphase : Erasable mode (painted .framing _) := erasable_word .framing (inert_phaseRow d)
  unfold fullHeading
  refine Erasable.append (Erasable.append ?_ hphase.line) hplace.line
  split
  · next code _ => exact (htitle code).line
  · exact erasable_nil

theorem erasable_sourceRow (d : Diagnostic) (number : Nat) (h : Clear mode text) :
    Erasable mode (d.sourceRow number text) := by
  have hbar : Erasable mode (painted .separator " | ") := erasable_word .separator (.word rfl)
  have hnumber := inert_rightAligned d.numberWidth number
  exact (((erasable_word .framing hnumber).append hbar).append (erasable_painted .neutral h)).line

theorem erasable_caretRow (d : Diagnostic) (text : String) :
    Erasable mode (d.caretRow text) := by
  have hbar : Erasable mode (painted .separator " | ") := erasable_word .separator (.word rfl)
  have hmargin : Erasable mode (plain (spaces d.numberWidth)) := erasable_plain (inert_spaces _)
  have hindent := inert_caretIndent text.toList d.location.column
  have hcarets := inert_carets (caretCount text.toList d.location.column d.spanLength)
  exact (((hmargin.append hbar).append (erasable_plain hindent)).append
    (erasable_word .error hcarets)).line

theorem erasable_sourceRows {texts : List String} (number : Nat)
    (h : ∀ text ∈ texts, Clear mode text) : Erasable mode (d.sourceRows number texts) := by
  induction texts generalizing number with
  | nil => exact erasable_nil
  | cons text texts ih =>
    have hrow := erasable_sourceRow d number (h text List.mem_cons_self)
    have hcarets : Erasable mode (if number = d.location.line then d.caretRow text else []) := by
      split
      · exact erasable_caretRow d text
      · exact erasable_nil
    have hmore := ih (number + 1) fun text ht => h text (List.mem_cons_of_mem _ ht)
    exact (hrow.append hcarets).append hmore

theorem erasable_fullReport (h : ∀ text ∈ d.texts files, Clear mode text) :
    Erasable mode d.fullReport := by
  have hheading : Erasable mode d.fullHeading := erasable_fullHeading (h _ (by simp [texts]))
  have hrows : Erasable mode (d.sourceRows d.firstNumber d.context) :=
    erasable_sourceRows d.firstNumber fun text ht => h text (by simp [texts, ht])
  have hcause : Clear mode d.message := h _ (by simp [texts])
  have hfix : Clear mode d.advice := clear_advice fun text ht => h text (by simp [texts, ht])
  have hsample : ∀ text, d.sample = some text → Clear mode text :=
    fun text ht => h text (by simp [texts, ht])
  have hnote : ∀ text, d.note = some text → Clear mode text :=
    fun text ht => h text (by simp [texts, ht])
  have htop := (hheading.append erasable_blankLine).append hrows
  refine (((htop.append ?_).append ?_).append ?_).append ?_
  · exact erasable_titledPart hcause (.word rfl)
  · exact erasable_titledPart hfix (.word rfl)
  · exact erasable_titledPart? hsample (.word rfl)
  · exact erasable_titledPart? hnote (.word rfl)

theorem inert_annotatedLabel (d : Diagnostic) : Inert d.annotatedLabel := by
  unfold annotatedLabel
  split
  · exact (inert_categoryLabel d.category).append (.word rfl)
  · exact inert_categoryLabel d.category

theorem clear_noteLabel {note : Note} (h : ∀ text ∈ note.texts, Clear mode text) :
    Clear mode note.label := by
  have hmessage : Clear mode note.message := h _ List.mem_cons_self
  unfold Note.label
  split
  · next span hspan =>
    have hplace : Clear mode span.label := clear_spanLabel (h _ (by simp [Note.texts, hspan]))
    have hall : Clear mode (note.message ++ " --> " ++ span.label) :=
      hmessage.spaced hplace (.word rfl) (by decide)
    simpa [toString] using hall
  · exact hmessage

/-- A line that is nothing but text. -/
theorem erasable_textLine (h : Clear mode text) : Erasable mode (plain text).line :=
  erasable_nil.textLine h

theorem erasable_secondary (h : ∀ text ∈ d.texts files, Clear mode text) :
    Erasable mode (d.secondary.flatMap fun span =>
      (plain s!" note: referenced at {span.label}").line) := by
  refine erasable_flatMap fun span hspan => ?_
  have hfile : span.file ∈ d.secondary.map Span.file := List.mem_map_of_mem hspan
  have hclear := h span.file (List.mem_append_left _ (List.mem_append_right _ hfile))
  exact erasable_textLine ((clear_spanLabel hclear).behind (.word rfl))

theorem erasable_notes (h : ∀ text ∈ d.texts files, Clear mode text) :
    Erasable mode (d.notes.flatMap fun note => (plain s!" note: {note.label}").line) := by
  refine erasable_flatMap fun note hnote => ?_
  have hlabel : Clear mode note.label := clear_noteLabel fun text ht =>
    h text (List.mem_append_right _ (List.mem_flatMap_of_mem hnote ht))
  exact erasable_textLine (hlabel.behind (.word rfl))

theorem erasable_annotatedReport (h : ∀ text ∈ d.texts files, Clear mode text) :
    Erasable mode (d.annotatedReport files) := by
  have hmessage : Clear mode s!": {d.message}" :=
    (h d.message (by simp [texts])).behind (.word rfl)
  have hlabel : Erasable mode (painted d.category.role d.annotatedLabel) :=
    erasable_word _ (inert_annotatedLabel d)
  have hplace : Clear mode s!"--> {d.primarySpan.label}" :=
    (clear_spanLabel (h d.location.file (by simp [texts]))).behind (.word rfl)
  have htop := ((erasable_blankLine.append (hlabel.textLine hmessage)).append
    (erasable_textLine hplace)).append erasable_blankLine
  have hnumber : Inert (" " ++ toString d.location.line ++ " | ") :=
    (Inert.append (.word rfl) (inert_number _)).append (.word rfl)
  have hline : Clear mode s!" {toString d.location.line} | {d.offendingLine files}" :=
    (h (d.offendingLine files) (by simp [texts])).behind hnumber
  have hindent := inert_spaces ((toString d.location.line).length + 4 + d.location.column)
  have hcaret : Erasable mode (painted d.category.role "^") := erasable_word _ (.word rfl)
  have hsource := (htop.append (erasable_textLine hline)).append
    ((erasable_plain hindent).append hcaret).line
  have hremarks := (hsource.append (erasable_secondary h)).append (erasable_notes h)
  have hadvice : Clear mode s!": {d.advice}" :=
    (clear_advice fun text ht => h text (by simp [texts, ht])).behind (.word rfl)
  have hfix : Erasable mode (plain " " ++ painted .help "fix") :=
    Erasable.append (erasable_plain (.word rfl)) (erasable_word .help (.word rfl))
  have hadviceLine : Erasable mode (if d.isError || d.fix.isSome then
      (plain " " ++ painted .help "fix" ++ plain s!": {d.advice}").line else []) := by
    split
    · exact hfix.textLine hadvice
    · exact erasable_nil
  exact (hremarks.append hadviceLine).append erasable_blankLine

/-- A report without its marks is the plain report, in either layout. -/
theorem erasable_report (h : ∀ text ∈ d.texts files, Clear mode text) :
    Erasable mode (d.report files) := by
  unfold report
  split
  · exact erasable_fullReport h
  · exact erasable_annotatedReport h

end Diagnostic

/-! ### Failures -/

namespace Failure

variable {mode : Mode} {files : Files} {failure : Failure}

theorem erasable_titledLine {title body : String} (hbody : Clear mode body)
    (htitle : Inert title) : Erasable mode (titledLine title body) := by
  have hindent : Erasable mode (plain "  ") := erasable_plain (.word rfl)
  exact (erasable_blankLine.append (erasable_word .framing htitle).line).append
    (hindent.append (erasable_painted .neutral hbody)).line

theorem erasable_fileTypeReport {path command : String} (hpath : Clear mode path)
    (hcommand : Clear mode command) : Erasable mode (fileTypeReport path command) := by
  have hbefore : Erasable mode (painted .framing "The file '") := erasable_word _ (.word rfl)
  have hbehind : Erasable mode (painted .framing "' is not a Klang source file.") :=
    erasable_word _ (.word rfl)
  have hname : Erasable mode (painted .error "InvalidFileType") := erasable_word _ (.word rfl)
  have hphase : Erasable mode (painted .framing "ERROR (Cli)") := erasable_word _ (.word rfl)
  have hplace : Erasable mode (painted .framing "at input file") := erasable_word _ (.word rfl)
  have hheading := (hname.line.append hphase.line).append hplace.line
  have hsubject := ((hbefore.append (erasable_painted .neutral hpath)).append hbehind).line
  have htop := (hheading.append erasable_blankLine).append hsubject
  have hexample : Clear mode s!"kc {command} program.k" :=
    (hcommand.behind (.word rfl)).before (.word rfl)
  refine ((htop.append ?_).append ?_).append ?_
  · exact erasable_titledLine (Inert.clear (.word rfl) mode) (.word rfl)
  · exact erasable_titledLine (Inert.clear (.word rfl) mode) (.word rfl)
  · exact erasable_titledLine hexample (.word rfl)

theorem clear_message (hfailure : ∀ d, failure ≠ .diagnostic d)
    (h : ∀ text ∈ failure.texts files, Clear mode text) : Clear mode failure.message := by
  cases failure with
  | diagnostic d => exact absurd rfl (hfailure d)
  | notFound path => exact ((h path (by simp [texts])).behind (.word rfl)).before (.word rfl)
  | permissionDenied path =>
    exact ((h path (by simp [texts])).behind (.word rfl)).before (.word rfl)
  | invalidUtf8 path => exact ((h path (by simp [texts])).behind (.word rfl)).before (.word rfl)
  | unreadable path reason =>
    -- two texts in one sentence: no sign reaches over the words between them
    have hpath : Clear mode ("error reading '" ++ path) :=
      (h path (by simp [texts])).behind (.word rfl)
    exact hpath.spaced (h reason (by simp [texts])) (.word rfl) (by decide)
  | invalidFileType path command =>
    exact ((h path (by simp [texts])).behind (.word rfl)).before (.word rfl)
  | unknownCode text => exact (h text (by simp [texts])).behind (.word rfl)
  | missingExplanation code => exact ((inert_codeLabel code).clear mode).behind (.word rfl)
  | invalidColorMode text =>
    exact ((h text (by simp [texts])).behind (.word rfl)).before (.word rfl)
  | usage command arguments =>
    exact ((h command (by simp [texts])).behind (.word rfl)).before (.word rfl)
  | unwritable reason => exact (h reason (by simp [texts])).behind (.word rfl)

theorem clear_hint {hint : String} (hhint : failure.hint? = some hint)
    (h : ∀ text ∈ failure.texts files, Clear mode text) : Clear mode hint := by
  unfold hint? at hhint
  split at hhint
  · obtain rfl := Option.some.inj hhint
    have hcodes : Inert (String.intercalate ", " (Code.all.map Code.label)) :=
      .of_all (by decide +kernel)
    exact (hcodes.clear mode).behind (.word rfl)
  · obtain rfl := Option.some.inj hhint
    exact Inert.clear (.word rfl) mode
  · next command arguments =>
    obtain rfl := Option.some.inj hhint
    exact (h arguments (by simp [texts])).behind (.word rfl)
  · cases hhint

theorem erasable_report (h : ∀ text ∈ failure.texts files, Clear mode text) :
    Erasable mode (failure.report files) := by
  unfold report
  split
  · exact Diagnostic.erasable_report h
  · next path command =>
    exact erasable_fileTypeReport (h path (by simp [texts])) (h command (by simp [texts]))
  · next hdiagnostic _ =>
    have hsentence : Clear mode s!": {failure.message}" :=
      (clear_message hdiagnostic h).behind (.word rfl)
    have herror : Erasable mode (painted .error "error") := erasable_word .error (.word rfl)
    refine (herror.textLine hsentence).append ?_
    split
    · next hint hhint => exact (erasable_painted .help (clear_hint hhint h)).line
    · exact erasable_nil

end Failure

/-! ### The modes -/

/-- The modes print a document about the given texts alike but for their marks. -/
structure Document.DiffersInMarks (d : Document) (texts : List String) : Prop where
  /-- Unsettled, the mode is the one with colours. -/
  print_auto : d.print .auto = d.print .rich
  /-- Without its terminal sequences, the coloured printing is the plain one. -/
  erase_rich : (∀ text ∈ texts, escapeCharacter ∉ text.toList) →
    Mode.rich.erase (d.print .rich).toList = (d.print .plain).toList
  /-- Without its markers, the printing that names roles is the plain one. -/
  erase_debug : (∀ text ∈ texts, ¬ "[COLOR:".toList <:+: text.toList ∧
      ¬ "[/COLOR]".toList <:+: text.toList) →
    Mode.debug.erase (d.print .debug).toList = (d.print .plain).toList

theorem Document.print_auto_eq_rich (d : Document) : d.print .auto = d.print .rich := by
  have hfragment : Fragment.print .auto = Fragment.print .rich := by
    funext f
    unfold Fragment.print
    cases f.role <;> rfl
  rw [print, print, hfragment]

theorem clear_rich {text : String} (h : escapeCharacter ∉ text.toList) :
    Clear .rich text := by
  intro sign hsign hstands
  obtain rfl := List.mem_singleton.1 hsign
  exact h (hstands.subset (List.mem_singleton_self _))

/-- A marker begins with `[COLOR:` or is `[/COLOR]`. -/
theorem clear_debug {text : String} (hopening : ¬ "[COLOR:".toList <:+: text.toList)
    (hclosing : ¬ "[/COLOR]".toList <:+: text.toList) : Clear .debug text := by
  intro sign hsign hstands
  rcases List.mem_cons.1 hsign with rfl | hsign
  · exact hclosing hstands
  · obtain ⟨role, -, rfl⟩ := List.mem_map.1 hsign
    have hstarts : "[COLOR:".toList <+: s!"[COLOR:{role.name}]".toList := by
      cases role <;> decide
    exact hopening (List.IsInfix.trans hstarts.isInfix hstands)

/-- It is enough that clear texts make the document erasable. -/
theorem Document.differsInMarks {d : Document} {texts : List String}
    (h : ∀ mode, (∀ text ∈ texts, Clear mode text) → Erasable mode d) :
    d.DiffersInMarks texts where
  print_auto := d.print_auto_eq_rich
  erase_rich hescape := (h .rich fun text ht => clear_rich (hescape text ht)).erase_print
  erase_debug hmarkers := (h .debug fun text ht =>
    clear_debug (hmarkers text ht).1 (hmarkers text ht).2).erase_print

/-- **The modes differ in their marks.**  So it is for the report of every diagnostic and of
every failure, and for the line that ends a run. -/
theorem differsInMarks_reports (files : Files) :
    (∀ d : Diagnostic, (d.report files).DiffersInMarks (d.texts files)) ∧
    (∀ failure : Failure, (failure.report files).DiffersInMarks (failure.texts files)) ∧
    ∀ errors warnings, (tally errors warnings).DiffersInMarks [] :=
  ⟨fun _ => differsInMarks fun _ => Diagnostic.erasable_report,
    fun _ => differsInMarks fun _ => Failure.erasable_report,
    fun errors warnings => differsInMarks fun _ _ => erasable_tally errors warnings⟩

/-- Half a marker in the name of the file, with a colon behind it in the report. -/
theorem differsInMarks_halfMarker :
    let d := (Diagnostic.general .typing ⟨"[COLOR", 2, 3⟩ "expected a [COLOR]").withRemark
      ⟨"declared as [COLOR", some (Span.point "[" 1 1)⟩
    (∀ text ∈ d.texts Files.none, escapeCharacter ∉ text.toList) ∧
      (∀ text ∈ d.texts Files.none, ¬ "[COLOR:".toList <:+: text.toList ∧
        ¬ "[/COLOR]".toList <:+: text.toList) ∧
      Mode.rich.erase ((d.report Files.none).print .rich).toList =
        ((d.report Files.none).print .plain).toList ∧
      Mode.debug.erase ((d.report Files.none).print .debug).toList =
        ((d.report Files.none).print .plain).toList := by
  intro d
  have hescape : ∀ text ∈ d.texts Files.none, escapeCharacter ∉ text.toList := by
    decide +kernel
  have hmarkers : ∀ text ∈ d.texts Files.none, ¬ "[COLOR:".toList <:+: text.toList ∧
      ¬ "[/COLOR]".toList <:+: text.toList := by
    decide +kernel
  have hmodes := (differsInMarks_reports Files.none).1 d
  exact ⟨hescape, hmarkers, hmodes.erase_rich hescape, hmodes.erase_debug hmarkers⟩

end FrontEnd
