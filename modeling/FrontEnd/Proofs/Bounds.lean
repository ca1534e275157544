/-
FrontEnd/Proofs/Bounds.lean

How large the numbers of places can get.

A position counts without a limit, but a location and a span hold numbers up to `maxColumn`
only.  Reading never gets there unless the text is that long: one more character makes the
line or the column larger by at most one (`Position.advance_sum_le`), so line and column
together are at most one more than the number of characters before the place
(`Position.after_sum_le`).

For a text with fewer than `maxColumn` characters it follows that every cursor, every token and
every diagnostic of it has numbers that can be held, and that the marked text of a diagnostic
ends at such a column, so that its primary span is not cut.  Main result: `numbers_fit`.
-/
import FrontEnd.Proofs.Cursors
import FrontEnd.Proofs.Gaps
import FrontEnd.Proofs.Rows
import FrontEnd.Proofs.Spans

namespace FrontEnd

namespace Position

/-- Line and column can be held by a location. -/
structure Fits (p : Position) : Prop where
  line_le : p.line ≤ maxColumn
  column_le : p.column ≤ maxColumn

/-- A character takes a place one line down or one column to the right. -/
theorem advance_sum_le (p : Position) (c : Char) :
    (p.advance c).line + (p.advance c).column ≤ p.line + p.column + 1 := by
  unfold advance
  split
  · -- the new line starts at column zero, which makes the sum no larger
    show p.line + 1 + 0 ≤ _
    omega
  · exact Nat.le_refl _

theorem after_sum_le (p : Position) (text : List Char) :
    (p.after text).line + (p.after text).column ≤ p.line + p.column + text.length := by
  induction text generalizing p with
  | nil => exact Nat.le_refl _
  | cons c text ih =>
    have hstep := p.advance_sum_le c
    have hrun := ih (p.advance c)
    rw [after_cons, List.length_cons]
    omega

/-- A place in a text that is not too long. -/
theorem fits_after {source : String} {text rest : List Char} (hsource : source.length < maxColumn)
    (hcut : source.toList = text ++ rest) : (start.after text).Fits := by
  have hsum : (start.after text).line + (start.after text).column ≤ 1 + 0 + text.length :=
    start.after_sum_le text
  have hlength : source.length = text.length + rest.length := by
    rw [← String.length_toList, hcut, List.length_append]
  constructor <;> omega

end Position

section Reading

variable {source : String}

/-- Whatever is done with a cursor over the text, its place fits. -/
theorem Cursor.position_fits (hsource : source.length < maxColumn) (steps : List CursorStep) :
    ((Cursor.ofText source.toList).run steps).position.Fits := by
  have hreads := (Cursor.ofText source.toList).reads_run steps
  rw [hreads.position_eq]
  exact Position.fits_after hsource hreads.unread_eq

/-- The tokens of the text, its end among them, have places that fit. -/
theorem position_fits_of_scan {tokens : TokenList} (hsource : source.length < maxColumn)
    (h : scan source = .ok tokens) {token : Token} (htoken : token ∈ tokens) :
    token.position.Fits := by
  obtain ⟨stretches, htext, hs, rfl⟩ := scan_eq_ok_iff.1 h
  rw [htext, ← map_token_withEnd] at htoken
  obtain ⟨p, hp, rfl⟩ := List.mem_map.1 htoken
  obtain ⟨behind, hbehind⟩ := prefix_textOf_of_mem_withEnd hs hp
  rw [position_eq_after_of_mem_withEnd hs hp]
  exact Position.fits_after hsource (htext.trans hbehind.symm)

/-- So has the fault that stops the reading. -/
theorem position_fits_of_scan_error {failure : LexicalFailure}
    (hsource : source.length < maxColumn) (h : scan source = .error failure) :
    failure.position.Fits := by
  obtain ⟨stretches, rest, fault, offset, htext, -, -, rfl⟩ := scan_eq_error_iff.1 h
  exact Position.fits_after hsource (cut_further htext offset)

/-- The mark of an anchored diagnostic ends on a line of the text, which is no longer than the
text. -/
theorem Anchored.end_le {before : Nat} {d : Diagnostic} (h : Anchored source before d) :
    d.location.column + d.spanLength ≤ source.length := by
  obtain ⟨line, hline, -, hend⟩ := h.exists_last_line
  have hlength := (infix_of_line? hline).length_le
  rw [String.length_toList, String.length_toList] at hlength
  exact Nat.le_trans hend hlength

/-- **The numbers of a text fit.**  As long as a text has fewer characters than the largest number
that a location holds, no place in it has a larger number: not that of a cursor, whatever is done
with it, nor that of a token, nor that of a diagnostic, whose primary span has both ends where
the marked text has them. -/
theorem numbers_fit (hsource : source.length < maxColumn) (file : String) (before : Nat) :
    (∀ steps, ((Cursor.ofText source.toList).run steps).position.Fits) ∧
    (∀ tokens, tokenize source file before = .ok tokens →
      ∀ token ∈ tokens, token.position.Fits) ∧
    ∀ d, tokenize source file before = .error d →
      (⟨d.location.line, d.location.column⟩ : Position).Fits ∧ d.primarySpan.OnOneLine ∧
        d.primarySpan.startColumn = d.location.column + 1 ∧
        d.primarySpan.endColumn = d.location.column + d.spanLength := by
  refine ⟨Cursor.position_fits hsource, ?_, ?_⟩
  · intro tokens htokens token htoken
    exact position_fits_of_scan hsource (tokenize_eq_ok_iff.1 htokens) htoken
  · intro d hd
    obtain ⟨failure, hscan, rfl⟩ := tokenize_eq_error_iff.1 hd
    have hanchored := anchored_of_scan_error file before hscan
    have hend := Nat.le_trans hanchored.end_le (Nat.le_of_lt hsource)
    -- a mark is never without width
    have hpos : 1 ≤ (failure.diagnostic source file before).spanLength := Nat.le_max_right _ _
    have hspan := Diagnostic.primarySpan_of_le hpos hend
    refine ⟨position_fits_of_scan_error hsource hscan, Diagnostic.onOneLine_primarySpan hpos hend,
      ?_, ?_⟩
    · rw [hspan]
    · rw [hspan]

end Reading

end FrontEnd
