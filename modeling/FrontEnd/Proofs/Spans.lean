/-
FrontEnd/Proofs/Spans.lean

Spans and marks: a stretch of one line, told in two ways.

A span tells the first and the last character of the stretch, by columns that count from
one.  The mark of a diagnostic tells the place before the first character, by a column that
counts from zero, and how many characters there are.  A diagnostic about a span takes its
mark from it (`NameFault.marks_span`), and its primary span is made from the mark again.

Both ways lose something in general: a span over several lines is one character wide, and a
width stops at one and at the largest column.  Neither happens to a span whose columns are in
order on one line (`Span.OnOneLine`), and these are the primary spans of the diagnostics whose
marks end at a column that a span holds.  Main result: `primarySpan_round_trip`.
-/
import FrontEnd.Proofs.Blocks
import FrontEnd.Proofs.Widths

namespace FrontEnd

/-! ### Spans -/

/-- The span starts and ends on one line, at columns in order that a span holds. -/
structure Span.OnOneLine (span : Span) : Prop where
  line_eq : span.startLine = span.endLine
  start_pos : 1 ≤ span.startColumn
  start_le : span.startColumn ≤ span.endColumn
  end_le : span.endColumn ≤ maxColumn

/-- No span is without width. -/
theorem Span.width_pos (span : Span) : 1 ≤ span.width := by
  unfold width
  split
  · exact Nat.le_add_left 1 _
  · exact Nat.le_refl 1

/-- On one line the width is what the columns leave between them. -/
theorem Span.OnOneLine.width_eq {span : Span} (h : span.OnOneLine) :
    span.width = span.endColumn - span.startColumn + 1 := by
  have hline : span.isSingleLine = true := beq_iff_eq.2 h.line_eq
  rw [width, hline, Bool.true_and, decide_eq_true h.start_le]
  rfl

/-! ### From a span to its mark and back -/

/-- The mark of the diagnostic starts where the span does and is as wide. -/
structure Diagnostic.Marks (d : Diagnostic) (span : Span) : Prop where
  location_eq : d.location = span.startLocation
  spanLength_eq : d.spanLength = span.width

/-- Whatever is wrong with a name, the place of its use is marked. -/
theorem NameFault.marks_span (fault : NameFault) : fault.diagnostic.Marks fault.span := by
  have hwidth : max fault.span.width 1 = fault.span.width := Nat.max_eq_left fault.span.width_pos
  obtain ⟨name, span, problem⟩ := fault
  cases problem with
  | redeclared | undefined | mismatch => exact ⟨rfl, hwidth⟩
  | constant declaredAt => cases declaredAt <;> exact ⟨rfl, hwidth⟩

/-- What is marked on one line is found again. -/
theorem Diagnostic.Marks.primarySpan_eq {d : Diagnostic} {span : Span} (h : d.Marks span)
    (hline : span.OnOneLine) : d.primarySpan = span := by
  have hpos : 1 ≤ d.spanLength := h.spanLength_eq ▸ span.width_pos
  have hends : d.location.column + d.spanLength = span.endColumn := by
    have hstart := hline.start_pos
    have horder := hline.start_le
    rw [h.location_eq, h.spanLength_eq, hline.width_eq]
    show span.startColumn - 1 + (span.endColumn - span.startColumn + 1) = span.endColumn
    omega
  have hstart : span.startColumn - 1 + 1 = span.startColumn := Nat.sub_add_cancel hline.start_pos
  have hstop : min span.endColumn maxColumn = span.endColumn := Nat.min_eq_left hline.end_le
  calc d.primarySpan
      = ⟨span.file, span.startLine, span.startColumn - 1 + 1, span.startLine,
          min span.endColumn maxColumn⟩ := by
        rw [primarySpan_of_ends hpos hends, h.location_eq]
        rfl
    _ = ⟨span.file, span.startLine, span.startColumn, span.endLine, span.endColumn⟩ := by
        rw [hstart, hstop, ← hline.line_eq]
    _ = span := rfl

section PrimarySpan

variable {d : Diagnostic}

/-- A mark that ends at a column that a span holds is not cut. -/
theorem Diagnostic.primarySpan_of_le (hpos : 1 ≤ d.spanLength)
    (hend : d.location.column + d.spanLength ≤ maxColumn) :
    d.primarySpan = ⟨d.location.file, d.location.line, d.location.column + 1, d.location.line,
      d.location.column + d.spanLength⟩ := by
  rw [primarySpan_of_ends hpos rfl, Nat.min_eq_left hend]

theorem Diagnostic.onOneLine_primarySpan (hpos : 1 ≤ d.spanLength)
    (hend : d.location.column + d.spanLength ≤ maxColumn) : d.primarySpan.OnOneLine := by
  rw [primarySpan_of_le hpos hend]
  exact ⟨rfl, Nat.le_add_left 1 _, Nat.add_le_add_left hpos _, hend⟩

/-- The primary span is marked as the diagnostic says. -/
theorem Diagnostic.marks_primarySpan (hpos : 1 ≤ d.spanLength)
    (hend : d.location.column + d.spanLength ≤ maxColumn) : d.Marks d.primarySpan := by
  have hwidth := (onOneLine_primarySpan hpos hend).width_eq
  rw [primarySpan_of_le hpos hend] at hwidth ⊢
  refine ⟨rfl, ?_⟩
  rw [hwidth]
  show d.spanLength = d.location.column + d.spanLength - (d.location.column + 1) + 1
  omega

end PrimarySpan

/-! ### Errors about names -/

namespace Scopes

variable {s : Scopes} {name : String} {symbol value : Symbol} {span : Span} {fault : NameFault}

theorem span_of_declare_error (h : s.declare name symbol span = .error fault) :
    fault.span = span := by
  cases hlookup : s.inner.lookup name with
  | none =>
    rw [declare_of_none hlookup] at h
    cases h
  | some previous =>
    rw [declare_of_some hlookup] at h
    cases h
    rfl

theorem span_of_resolve_error (h : s.resolve name span = .error fault) : fault.span = span := by
  cases hlookup : s.lookup? name with
  | none =>
    rw [resolve_of_none hlookup] at h
    cases h
    rfl
  | some binding =>
    rw [resolve_of_some hlookup] at h
    cases h

theorem span_of_checkAssignment_error (h : s.checkAssignment name value span = .error fault) :
    fault.span = span := by
  cases hlookup : s.lookup? name with
  | none =>
    rw [checkAssignment_of_none hlookup] at h
    cases h
    rfl
  | some binding =>
    rw [checkAssignment_of_some hlookup] at h
    split at h
    · -- a constant
      cases h
      rfl
    · split at h
      · cases h
      · -- the value does not fit
        cases h
        rfl

end Scopes

/-! ### There and back -/

/-- **Spans survive the way through a diagnostic.**  An error about a name that is used at a span
on one line has that span for its primary span.  The other way round, the primary span of a
diagnostic whose mark ends at a column that a span holds is on one line, starts at the place of
the diagnostic, and is as wide as its mark. -/
theorem primarySpan_round_trip :
    (∀ (s : Scopes) (name : String) (symbol : Symbol) (span : Span) (fault : NameFault),
      span.OnOneLine →
      s.declare name symbol span = .error fault ∨ s.resolve name span = .error fault ∨
        s.checkAssignment name symbol span = .error fault →
      fault.diagnostic.primarySpan = span) ∧
    ∀ d : Diagnostic, 1 ≤ d.spanLength → d.location.column + d.spanLength ≤ maxColumn →
      d.primarySpan.isSingleLine = true ∧ d.primarySpan.startLocation = d.location ∧
        d.primarySpan.width = d.spanLength := by
  constructor
  · intro s name symbol span fault hline herror
    have hspan : fault.span = span := by
      rcases herror with hdeclare | hresolve | hassign
      · exact Scopes.span_of_declare_error hdeclare
      · exact Scopes.span_of_resolve_error hresolve
      · exact Scopes.span_of_checkAssignment_error hassign
    subst hspan
    exact fault.marks_span.primarySpan_eq hline
  · intro d hpos hend
    have hline := Diagnostic.onOneLine_primarySpan hpos hend
    have hmarks := Diagnostic.marks_primarySpan hpos hend
    exact ⟨beq_iff_eq.2 hline.line_eq, hmarks.location_eq.symm, hmarks.spanLength_eq.symm⟩

/-- A name that is declared again, one that is not declared and one that keeps its value; and a
mark that ends at the largest column. -/
theorem primarySpan_round_trip_largest :
    let first := Span.point "a.k" 1 18
    let span : Span := ⟨"a.k", 2, 9, 2, 11⟩
    let s := Scopes.start.run [.declare "MAX" (.constant (.primitive .integer)) first]
    let again : NameFault := ⟨"MAX", span, .redeclared ⟨.constant (.primitive .integer), first⟩⟩
    let missing : NameFault := ⟨"MIN", span, .undefined⟩
    let kept : NameFault := ⟨"MAX", span, .constant (some first)⟩
    let d := (Diagnostic.general .syntactic ⟨"a.k", 3, 4294967292⟩ "Stray text.").withSpanLength 3
    span.OnOneLine ∧
      (s.declare "MAX" (.primitive .double) span = .error again ∧
        again.diagnostic.primarySpan = span) ∧
      (s.resolve "MIN" span = .error missing ∧ missing.diagnostic.primarySpan = span) ∧
      (s.checkAssignment "MAX" (.primitive .double) span = .error kept ∧
        kept.diagnostic.primarySpan = span) ∧
      d.location.column + d.spanLength = maxColumn ∧
      d.primarySpan.startLocation = d.location ∧ d.primarySpan.width = 3 := by
  intro first span s again missing kept d
  have hline : span.OnOneLine := ⟨rfl, by decide, by decide, by decide⟩
  have hagain : s.declare "MAX" (.primitive .double) span = .error again := rfl
  have hmissing : s.resolve "MIN" span = .error missing := rfl
  have hkept : s.checkAssignment "MAX" (.primitive .double) span = .error kept := rfl
  obtain ⟨hnames, hmarks⟩ := primarySpan_round_trip
  obtain ⟨-, hstart, hwidth⟩ := hmarks d (by decide) (by decide)
  exact ⟨hline, ⟨hagain, hnames s "MAX" (.primitive .double) span again hline (.inl hagain)⟩,
    ⟨hmissing, hnames s "MIN" (.primitive .double) span missing hline (.inr (.inl hmissing))⟩,
    ⟨hkept, hnames s "MAX" (.primitive .double) span kept hline (.inr (.inr hkept))⟩,
    by decide, hstart, hwidth⟩

end FrontEnd
