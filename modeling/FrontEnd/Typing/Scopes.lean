/-
FrontEnd/Typing/Scopes.lean

Nested scopes of declared names.  There is always an innermost scope to declare
in; the outermost one cannot be closed.  A name means its innermost declaration.
-/
import FrontEnd.Diagnostic.Basic
import FrontEnd.Typing.Symbol

namespace FrontEnd

/-- What is known of a declared name. -/
structure Binding where
  symbol : Symbol
  declaredAt : Span
deriving DecidableEq, Repr

/-- The names of one scope, the latest first. -/
abbrev Scope := List (String × Binding)

/-! ### What can be wrong with a use of a name -/

/-- Why a name cannot be declared, used or assigned to. -/
inductive NameProblem
  /-- The scope has the name already. -/
  | redeclared (previous : Binding)
  /-- No open scope has the name. -/
  | undefined
  /-- The name keeps its first value.  Where it was declared is shown if it is known. -/
  | constant (declaredAt : Option Span)
  /-- The value does not fit. -/
  | mismatch (target value : Symbol)
deriving DecidableEq, Repr

/-- A use of a name that is not allowed: the name, where it is used, and why not. -/
structure NameFault where
  name : String
  span : Span
  problem : NameProblem
deriving DecidableEq, Repr

namespace NameFault

/-- The category of the diagnostic. -/
def category (fault : NameFault) : Category :=
  match fault.problem with
  | .mismatch .. => .typing
  | _ => .semantic

/-- The cause, in words. -/
def message (fault : NameFault) : String :=
  match fault.problem with
  | .redeclared _ => s!"Variable '{fault.name}' is already declared in this scope."
  | .undefined => s!"Undefined variable '{fault.name}'."
  | .constant _ => s!"Cannot assign to constant '{fault.name}'."
  | .mismatch target value =>
    s!"Cannot assign a value of type {value.label} to '{fault.name}' of type {target.label}."

/-- How to mend it. -/
def fix (fault : NameFault) : String :=
  match fault.problem with
  | .redeclared _ =>
    "Rename one of the variables, or assign to the existing one without redeclaring it."
  | .undefined => s!"Declare '{fault.name}' before using it."
  | .constant _ => s!"Declare '{fault.name}' without the constant qualifier."
  | .mismatch target _ => s!"Assign a {target.label} value to '{fault.name}'."

/-- The diagnostic of a fault; it marks the use of the name. -/
def diagnostic (fault : NameFault) : Diagnostic :=
  let d := ((Diagnostic.general fault.category fault.span.startLocation
    fault.message).withSpanLength fault.span.width).withFix fault.fix
  match fault.problem with
  | .redeclared previous =>
    d.withRemark ⟨s!"'{fault.name}' was first declared as {previous.symbol.label}",
      some previous.declaredAt⟩
  | .undefined => d.withSample s!"integer {fault.name} = 0;"
  | .constant (some declaredAt) => d.withSecondary declaredAt
  | .constant none => d
  | .mismatch .. => d

end NameFault

/-! ### Scopes -/

/-- The open scopes: the innermost, and those around it from the inside out. -/
structure Scopes where
  inner : Scope
  outer : List Scope
deriving DecidableEq, Repr

namespace Scopes

/-- The outermost scope alone, with no names. -/
def start : Scopes := ⟨[], []⟩

/-- The number of open scopes. -/
def depth (s : Scopes) : Nat := s.outer.length + 1

/-- All open scopes from the inside out. -/
def all (s : Scopes) : List Scope := s.inner :: s.outer

/-- Opens a scope. -/
def push (s : Scopes) : Scopes := ⟨[], s.all⟩

/-- Closes the innermost scope and tells whether it did; the outermost one stays. -/
def pop (s : Scopes) : Bool × Scopes :=
  match s.outer with
  | [] => (false, s)
  | scope :: outer => (true, ⟨scope, outer⟩)

/-- The innermost declaration of a name. -/
def lookup? (s : Scopes) (name : String) : Option Binding :=
  s.all.findSome? fun scope => scope.lookup name

/-- Declares a name in the innermost scope, which may not have it yet. -/
def declare (s : Scopes) (name : String) (symbol : Symbol) (span : Span) :
    Except NameFault Scopes :=
  match s.inner.lookup name with
  | some previous => .error ⟨name, span, .redeclared previous⟩
  | none => .ok { s with inner := (name, ⟨symbol, span⟩) :: s.inner }

/-- The type of a name that is used at a span. -/
def resolve (s : Scopes) (name : String) (span : Span) : Except NameFault Symbol :=
  match s.lookup? name with
  | some binding => .ok binding.symbol
  | none => .error ⟨name, span, .undefined⟩

/-- Whether a value may be assigned to a name at a span: the name has to be declared, not
constant, and of a type that accepts the value.  Where a constant was declared is looked up when
that is needed, apart from its type. -/
def checkAssignment (s : Scopes) (name : String) (value : Symbol) (span : Span) :
    Except NameFault Unit :=
  match s.resolve name span with
  | .error fault => .error fault
  | .ok target =>
    if target.isConstant then
      .error ⟨name, span, .constant ((s.lookup? name).map Binding.declaredAt)⟩
    else if target.accepts value then .ok ()
    else .error ⟨name, span, .mismatch target value⟩

/-! ### Answers by what is found for a name -/

section Found

variable {s : Scopes} {name : String} {span : Span}

theorem resolve_of_none (h : s.lookup? name = none) :
    s.resolve name span = .error ⟨name, span, .undefined⟩ := by
  rw [resolve, h]

theorem resolve_of_some {binding : Binding} (h : s.lookup? name = some binding) :
    s.resolve name span = .ok binding.symbol := by
  rw [resolve, h]

theorem checkAssignment_of_none {value : Symbol} (h : s.lookup? name = none) :
    s.checkAssignment name value span = .error ⟨name, span, .undefined⟩ := by
  rw [checkAssignment, resolve_of_none h]

/-- The place that is shown of a constant is that of the binding whose type has refused. -/
theorem checkAssignment_of_some {value : Symbol} {binding : Binding}
    (h : s.lookup? name = some binding) :
    s.checkAssignment name value span =
      if binding.symbol.isConstant then
        .error ⟨name, span, .constant (some binding.declaredAt)⟩
      else if binding.symbol.accepts value then .ok ()
      else .error ⟨name, span, .mismatch binding.symbol value⟩ := by
  rw [checkAssignment, resolve_of_some h, h]
  rfl

end Found

/-! ### Opening and closing -/

@[simp] theorem depth_push (s : Scopes) : s.push.depth = s.depth + 1 := rfl

/-- Closing undoes opening. -/
@[simp] theorem pop_push (s : Scopes) : s.push.pop = (true, s) := rfl

/-- Only the outermost scope cannot be closed. -/
theorem pop_fst_eq_false_iff {s : Scopes} : s.pop.1 = false ↔ s.depth = 1 := by
  unfold pop depth
  split <;> simp_all

end Scopes

end FrontEnd
