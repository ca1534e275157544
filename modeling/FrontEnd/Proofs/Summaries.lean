/-
FrontEnd/Proofs/Summaries.lean

A lexical failure is told on one line.

The message of a fault holds no control character, whatever the source text holds
(`Malformed.legible_message`).  So it is one row, and it is not empty: these two make the
cause one row below its title in the full layout (`rowsOf_eq_singleton`).  The summary has
nothing else from outside but the label of the file.  Main result: `brief_of_tokenize_error`.
-/
import FrontEnd.Proofs.Carets
import FrontEnd.Proofs.Escapes

namespace FrontEnd

/-- A text without a newline is one row, unless it is empty. -/
theorem rowsOf_eq_singleton {text : String} (hne : text ≠ "") (h : '\n' ∉ text.toList) :
    rowsOf text = [text] := by
  have hchars : text.toList ≠ [] := mt String.toList_eq_nil_iff.1 hne
  have hrows : rows text.toList = [text.toList] := by
    rw [rows, splitLines, splitAtEach_of_not_mem h, rowsOfPieces.eq_3 _ hchars]
  rw [rowsOf, hrows, List.map_singleton, String.ofList_toList]

/-- A literal is `String.ofList` of its characters. -/
theorem word_ne_empty {chars : List Char} (h : chars.isEmpty = false) :
    String.ofList chars ≠ "" := by
  intro hempty
  have hchars : chars = [] := String.ofList_eq_empty_iff.1 hempty
  rw [hchars] at h
  cases h

theorem append_ne_empty {front : String} (h : front ≠ "") (back : String) :
    front ++ back ≠ "" := by
  simp [h]

/-- There is always something to say. -/
theorem Fault.message_ne_empty (fault : Fault) : fault.message ≠ "" := by
  cases fault with
  | operatorRun c length =>
    let run := String.ofList (List.replicate length c)
    have halone : "Character '" ++ run ++ "' is not valid alone." ≠ "" :=
      append_ne_empty (append_ne_empty (by decide) run) _
    have hsequence : "Character sequence '" ++ run ++ "' is not valid." ≠ "" :=
      append_ne_empty (append_ne_empty (by decide) run) _
    show (if length = 1 then _ else _) ≠ ""
    split
    · exact halone
    · exact hsequence
  | strayCharacter c => exact append_ne_empty (append_ne_empty (by decide) _) _
  | numberSuffix suffix => exact append_ne_empty (append_ne_empty (by decide) _) _
  | stringEscape c body => exact append_ne_empty (by decide) _
  | characterEscape c => exact append_ne_empty (by decide) _
  | _ => exact word_ne_empty rfl

/-! ### Summaries -/

theorem newline_not_mem_fileLabel {file : String} (h : '\n' ∉ file.toList) :
    '\n' ∉ (fileLabel file).toList := by
  unfold fileLabel
  split
  · decide
  · exact h

namespace Diagnostic

variable {d : Diagnostic} {code : Code}

/-- What a summary has beside message and file is on one line. -/
theorem newline_not_mem_summary (hmessage : '\n' ∉ d.message.toList)
    (hfile : '\n' ∉ d.location.file.toList) : '\n' ∉ d.summary.toList := by
  have hlabel := newline_not_mem_fileLabel hfile
  have hplace : '\n' ∉ d.location.label.toList := by
    simp [Location.label, toString, hlabel, not_mem_toDigits]
  unfold summary
  split
  · next code _ =>
    have hcode : '\n' ∉ code.label.toList := by cases code <;> decide
    have hname : '\n' ∉ code.name.toList := by cases code <;> decide
    simp [toString, hcode, hname, hmessage, hplace]
  · next category _ =>
    have hcategory : '\n' ∉ category.label.toList := by cases category <;> decide
    simp [toString, hcategory, hmessage, hplace]

end Diagnostic

/-! ### The report of a diagnostic of reading -/

/-- The diagnostic, with up to `before` lines before its own, is told on one line: in its summary,
and below the title of the cause, which stands behind three rows of heading, a blank row, the
captured lines and the carets. -/
structure Diagnostic.IsBrief (before : Nat) (files : Files) (d : Diagnostic) : Prop where
  summary_eq : splitLines d.summary.toList = [d.summary.toList]
  /-- In any mode, the body of a titled part is the rows of its text. -/
  cause_rows : rowsOf d.message = [d.message]
  cause_eq : ∃ above below,
    splitLines ((d.report files).print .plain).toList =
      above ++ [] :: "Cause:".toList :: ("  " ++ d.message).toList :: [] :: "Fix:".toList ::
        below ∧
    above.length = 5 + min (before + 1) d.location.line

/-- A cause on one row stands between the carets and the advice. -/
theorem Anchored.exists_cause {source : String} {before : Nat} {d : Diagnostic}
    (h : Anchored source before d) (hfile : '\n' ∉ d.location.file.toList)
    (hcause : rowsOf d.message = [d.message]) (files : Files) :
    ∃ above below,
      splitLines ((d.report files).print .plain).toList =
        above ++ [] :: "Cause:".toList :: ("  " ++ d.message).toList :: [] :: "Fix:".toList ::
          below ∧
      above.length = 5 + min (before + 1) d.location.line := by
  obtain ⟨code, hcode⟩ := Option.isSome_iff_exists.1 h.isFull.1
  obtain ⟨line, -, hlast, -⟩ := h.exists_last_line
  have hrows := Diagnostic.hasRows_fullReport hcode hfile hlast h.firstNumber_add_length
    fun _ => h.newline_not_mem_context
  let sources := List.zipWith (numberedRow d.numberWidth)
    (List.range' d.firstNumber d.context.length) d.context
  let carets := caretedRow d.numberWidth (caretIndent line.toList d.location.column)
    (caretCount line.toList d.location.column d.spanLength)
  have hlength : sources.length = min (before + 1) d.location.line := by
    rw [← h.length_context]
    simp [sources]
  refine ⟨headerRows code d.location ++ [[]] ++ (sources ++ [carets]),
    (rowsOf d.advice).map (fun row => ' ' :: ' ' :: row.toList) ++
      ((d.sample.map (titledRows "Example:")).getD [] ++
        ((d.note.map (titledRows "Note:")).getD [] ++ [[]])), ?_, ?_⟩
  · rw [Diagnostic.report_of_isFull h.isFull, hrows.splitLines_eq, titledRows, titledRows, hcause,
      String.toList_append]
    simp only [List.append_assoc, List.cons_append, List.nil_append, List.map_cons, List.map_nil]
    rfl
  · rw [List.length_append, List.length_append, List.length_append, hlength]
    show 3 + 1 + (_ + 1) = _
    omega

/-- **A lexical failure is told on one line.**  No control character of the source text reaches
the message, so neither the summary nor the cause is broken, if the label of the file is not. -/
theorem brief_of_tokenize_error {source file : String} {before : Nat} {d : Diagnostic}
    (h : tokenize source file before = .error d) (files : Files) :
    (∀ c ∈ ['\n', '\r', '\t', '\x00', '\x1b'], c ∉ d.message.toList) ∧
      ('\n' ∉ file.toList → d.IsBrief before files) := by
  obtain ⟨failure, hscan, hd⟩ := tokenize_eq_error_iff.1 h
  obtain ⟨stretches, rest, fault, offset, -, -, hm, rfl⟩ := scan_eq_error_iff.1 hscan
  have hmessage : d.message = fault.message := by rw [hd]; rfl
  have hlegible : Legible d.message := hmessage ▸ hm.legible_message
  have hlabel : d.location.file = file := by rw [hd]; rfl
  have hclean : ∀ c ∈ ['\n', '\r', '\t', '\x00', '\x1b'], c ∉ d.message.toList := by
    have hcontrol : ['\n', '\r', '\t', '\x00', '\x1b'].all isControl = true := by decide
    intro c hc
    exact hlegible.not_mem (List.all_eq_true.1 hcontrol c hc)
  refine ⟨hclean, ?_⟩
  intro hfile
  rw [← hlabel] at hfile
  have hnewline : '\n' ∉ d.message.toList := hclean '\n' List.mem_cons_self
  have hcause : rowsOf d.message = [d.message] :=
    rowsOf_eq_singleton (hmessage ▸ fault.message_ne_empty) hnewline
  have hanchored : Anchored source before d := hd ▸ anchored_of_scan_error file before hscan
  exact ⟨splitAtEach_of_not_mem (Diagnostic.newline_not_mem_summary hnewline hfile), hcause,
    hanchored.exists_cause hfile hcause files⟩

/-- A carriage return behind a backslash, below a line with an escape character and a tab. -/
theorem brief_of_carriage_return :
    let d := (Fault.characterEscape '\r').diagnostic ⟨"m.k", 2, 0⟩ ["/*\x1b\t*/ x", "'\\\r'"]
    tokenize "/*\x1b\t*/ x\n'\\\r'" "m.k" 2 = .error d ∧ '\r' ∉ d.message.toList ∧
      '\n' ∉ "m.k".toList ∧ d.IsBrief 2 Files.none := by
  intro d
  have h : tokenize "/*\x1b\t*/ x\n'\\\r'" "m.k" 2 = .error d := by decide +kernel
  have hfile : '\n' ∉ "m.k".toList := by decide
  obtain ⟨hcontrol, hbrief⟩ := brief_of_tokenize_error h Files.none
  exact ⟨h, hcontrol '\r' (by decide), hfile, hbrief hfile⟩

end FrontEnd
