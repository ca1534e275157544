/-
FrontEnd/Proofs/Collecting.lean

A collector stands for the list of what has been reported to it.

The collector keeps a tally of the errors beside the diagnostics, and trusts it when it is
closed: a tally that is too low would lose an error, and one that is too high would lose
everything else.  It is neither, whatever the policy, since a report that is answered with
its error is kept and counted like any other (`Holds.report`).  So a collector answers as
the list does (`Reflects`), and a tally that shows an error always finds one.
-/
import FrontEnd.Diagnostic.Collector

namespace FrontEnd

namespace Collector

/-- The collector after some reports, whatever came back for each of them. -/
def reportAll (c : Collector) (reports : List Diagnostic) : Collector :=
  reports.foldl (fun c d => (c.report d).2) c

/-! ### What a collector holds -/

/-- The collector holds the reports in order, and has counted the errors among them. -/
structure Holds (c : Collector) (policy : Policy) (reports : List Diagnostic) : Prop where
  policy_eq : c.policy = policy
  reported_eq : c.reported = reports
  errorCount_eq : c.errorCount = reports.countP Diagnostic.isError

variable {c : Collector} {policy : Policy} {reports more : List Diagnostic} {d : Diagnostic}

theorem holds_empty (policy : Policy) : (empty policy).Holds policy [] := ⟨rfl, rfl, rfl⟩

/-- A report is kept and counted, also one that is answered with an error. -/
theorem Holds.report (h : c.Holds policy reports) (d : Diagnostic) :
    (c.report d).2.Holds policy (reports ++ [d]) where
  policy_eq := h.policy_eq
  reported_eq := congrArg (· ++ [d]) h.reported_eq
  errorCount_eq := by
    rw [List.countP_append, List.countP_singleton, ← h.errorCount_eq]
    show (if d.isError then c.errorCount + 1 else c.errorCount) = _
    cases d.isError <;> rfl

theorem Holds.reportAll (h : c.Holds policy reports) (more : List Diagnostic) :
    (c.reportAll more).Holds policy (reports ++ more) := by
  induction more generalizing c reports with
  | nil =>
    rw [List.append_nil]
    exact h
  | cons d more ih =>
    rw [List.append_cons]
    exact ih (h.report d)

/-! ### What it answers -/

/-- The collector answers as the list of reports does. -/
structure Reflects (c : Collector) (policy : Policy) (reports : List Diagnostic) : Prop where
  reported_eq : c.reported = reports
  errorCount_eq : c.errorCount = reports.countP (·.category.isError)
  warningCount_eq : c.warningCount = reports.countP (·.category == .warning)
  hasErrors_iff : c.hasErrors = true ↔ 0 < c.errorCount
  /-- The next report is handed back if it is an error and the policy is to fail fast. -/
  report_error_iff : ∀ d fault, (c.report d).1 = .error fault ↔
    policy = .failFast ∧ d.category.isError = true ∧ fault = d
  /-- Closing hands back the first error, whatever was reported after it. -/
  finish_error_iff : ∀ first, c.finish = .error first ↔
    ∃ front back, reports = front ++ first :: back ∧ first.category.isError = true ∧
      ∀ d ∈ front, d.category.isError = false
  /-- Without an error closing gives everything. -/
  finish_ok_iff : ∀ kept, c.finish = .ok kept ↔
    kept = reports ∧ ∀ d ∈ reports, d.category.isError = false
  /-- The tally does not show an error that is not there. -/
  exists_error : c.hasErrors = true → ∃ first, c.reported.find? Diagnostic.isError = some first

theorem report_fst_eq_error_iff {fault : Diagnostic} :
    (c.report d).1 = .error fault ↔ c.policy = .failFast ∧ d.isError = true ∧ fault = d := by
  have hreturned : (d.isError && c.policy == .failFast) = true ↔
      c.policy = .failFast ∧ d.isError = true := by
    rw [Bool.and_eq_true, beq_iff_eq, and_comm]
  unfold report
  by_cases h : (d.isError && c.policy == .failFast) = true
  · obtain ⟨hpolicy, herror⟩ := hreturned.1 h
    rw [if_pos h, Except.error.injEq]
    constructor
    · rintro rfl
      exact ⟨hpolicy, herror, rfl⟩
    · rintro ⟨-, -, rfl⟩
      rfl
  · rw [if_neg h]
    constructor
    · intro hd
      cases hd
    · rintro ⟨hpolicy, herror, -⟩
      exact absurd (hreturned.2 ⟨hpolicy, herror⟩) h

/-- The tally shows an error if there is one. -/
theorem Holds.hasErrors_iff (h : c.Holds policy reports) :
    c.hasErrors = true ↔ ∃ d ∈ reports, d.isError = true := by
  rw [← List.countP_pos_iff, ← h.errorCount_eq, hasErrors, decide_eq_true_iff]

/-- So with an error in the tally, the first error is found. -/
theorem Holds.find?_ne_none (h : c.Holds policy reports) (herrors : c.hasErrors = true) :
    ∃ first, c.reported.find? Diagnostic.isError = some first := by
  obtain ⟨d, hd, herror⟩ := h.hasErrors_iff.1 herrors
  rw [← Option.isSome_iff_exists, List.find?_isSome, h.reported_eq]
  exact ⟨d, hd, herror⟩

/-- Closing looks for the first error and for nothing else. -/
theorem Holds.finish_eq (h : c.Holds policy reports) :
    c.finish =
      match reports.find? Diagnostic.isError with
      | some first => .error first
      | none => .ok reports := by
  unfold finish
  rw [h.reported_eq]
  -- whether there is an error is asked of the tally, and which one of the reports
  by_cases herrors : c.hasErrors = true
  · obtain ⟨first, hfirst⟩ := h.find?_ne_none herrors
    rw [h.reported_eq] at hfirst
    rw [if_pos herrors, hfirst]
  · have hnone : reports.find? Diagnostic.isError = none :=
      List.find?_eq_none.2 fun d hd herror => herrors (h.hasErrors_iff.2 ⟨d, hd, herror⟩)
    rw [if_neg herrors, hnone]

theorem Holds.finish_eq_error_iff (h : c.Holds policy reports) {first : Diagnostic} :
    c.finish = .error first ↔
      ∃ front back, reports = front ++ first :: back ∧ first.isError = true ∧
        ∀ d ∈ front, d.isError = false := by
  have hfind : c.finish = .error first ↔ reports.find? Diagnostic.isError = some first := by
    rw [h.finish_eq]
    cases reports.find? Diagnostic.isError <;> simp
  rw [hfind, List.find?_eq_some_iff_append]
  constructor
  · rintro ⟨herror, front, back, hreports, hfront⟩
    exact ⟨front, back, hreports, herror, fun d hd => by simpa using hfront d hd⟩
  · rintro ⟨front, back, hreports, herror, hfront⟩
    exact ⟨herror, front, back, hreports, fun d hd => by simpa using hfront d hd⟩

theorem Holds.finish_eq_ok_iff (h : c.Holds policy reports) {kept : List Diagnostic} :
    c.finish = .ok kept ↔ kept = reports ∧ ∀ d ∈ reports, d.isError = false := by
  have hfind : reports.find? Diagnostic.isError = none ↔ ∀ d ∈ reports, d.isError = false := by
    simp
  rw [h.finish_eq, ← hfind]
  cases reports.find? Diagnostic.isError <;> simp [eq_comm]

theorem Holds.reflects (h : c.Holds policy reports) : c.Reflects policy reports where
  reported_eq := h.reported_eq
  errorCount_eq := h.errorCount_eq
  warningCount_eq := by rw [warningCount, h.reported_eq, List.countP_eq_length_filter]
  hasErrors_iff := decide_eq_true_iff
  report_error_iff _ _ := by
    rw [report_fst_eq_error_iff, h.policy_eq]
    rfl
  finish_error_iff _ := h.finish_eq_error_iff
  finish_ok_iff _ := h.finish_eq_ok_iff
  exists_error := h.find?_ne_none

/-- **A collector stands for its reports.**  After any reports, under either policy and whatever
was answered on the way, it answers as the list of them does. -/
theorem reflects_reports (policy : Policy) (reports : List Diagnostic) :
    ((empty policy).reportAll reports).Reflects policy reports :=
  ((holds_empty policy).reportAll reports).reflects

/-- Two errors and a warning: both errors are counted, and the first one is handed back. -/
example :
    let warning := Diagnostic.general .warning ⟨"a.k", 1, 0⟩ "unused"
    let first := Diagnostic.general .syntactic ⟨"a.k", 1, 0⟩ "Expected ';'."
    let second := Diagnostic.general .typing ⟨"a.k", 2, 0⟩ "Cannot assign."
    ((empty .failFast).reportAll [warning, first, second]).errorCount = 2 ∧
      ((empty .failFast).reportAll [warning, first, second]).finish = .error first :=
  ⟨rfl, rfl⟩

end Collector

end FrontEnd
