/-
FrontEnd/Diagnostic/Collector.lean

Gathering diagnostics in a pass that may find several.  The policy says whether
the first error is handed back at once or the pass goes on; either way everything
that was reported is kept, in order, with a running tally of the errors.
-/
import FrontEnd.Diagnostic.Basic

namespace FrontEnd

/-- What happens when an error is reported. -/
inductive Policy
  /-- It is handed straight back to the reporter. -/
  | failFast
  /-- It is kept, and decided on when the collector is closed. -/
  | collect
deriving DecidableEq, Repr

/-- A pass collects unless it asks for the other policy. -/
instance : Inhabited Policy := ⟨.collect⟩

/-- What has been reported so far. -/
structure Collector where
  policy : Policy
  /-- Everything reported, first to last. -/
  reported : List Diagnostic
  /-- How many of them are errors. -/
  errorCount : Nat
deriving DecidableEq, Repr

namespace Collector

/-- A collector to which nothing has been reported. -/
def empty (policy : Policy) : Collector := ⟨policy, [], 0⟩

/-- Keeps a diagnostic.  An error comes back as the answer if the policy is to fail fast. -/
def report (c : Collector) (d : Diagnostic) : Except Diagnostic Unit × Collector :=
  let kept : Collector :=
    { c with
      reported := c.reported ++ [d]
      errorCount := if d.isError then c.errorCount + 1 else c.errorCount }
  (if d.isError && c.policy == .failFast then .error d else .ok (), kept)

/-- How many diagnostics have been reported. -/
def size (c : Collector) : Nat := c.reported.length

/-- Whether nothing has been reported. -/
def isEmpty (c : Collector) : Bool := c.reported.isEmpty

/-- Whether the tally shows an error. -/
def hasErrors (c : Collector) : Bool := 0 < c.errorCount

/-- How many warnings have been reported; an info is neither an error nor a warning. -/
def warningCount (c : Collector) : Nat :=
  (c.reported.filter (·.category == .warning)).length

/-- Closes the collector: the first error if the tally shows one, else everything reported. -/
def finish (c : Collector) : Except Diagnostic (List Diagnostic) :=
  if c.hasErrors then
    match c.reported.find? Diagnostic.isError with
    | some first => .error first
    | none => .ok []
  else .ok c.reported

end Collector

end FrontEnd
