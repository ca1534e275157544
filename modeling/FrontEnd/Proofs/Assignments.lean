/-
FrontEnd/Proofs/Assignments.lean

What decides whether a value may be assigned to a name.

Of the open scopes that declare the name, the innermost one decides, and of that scope the
one binding of the name (`Scopes.Innermost`).  The outcomes are told apart by rules
(`Scopes.Judges`): no such scope, a constant, a type that does not receive the value, and
neither of these.  The rules exclude each other, so the order in which the conditions are
looked at is all in their premises.

For the answers to obey the rules it must be known that no scope has the name twice, since
otherwise a second binding would stand in the same scope and never be found.  Scopes that
came about by steps are of this kind (`distinct_run`).  Main result:
`assignment_decided_by_innermost`.
-/
import FrontEnd.Proofs.Blocks

namespace FrontEnd

/-! ### Values that fit -/

namespace Symbol

/-- A name with the symbol keeps its first value. -/
def Qualified (symbol : Symbol) : Prop := ∃ inner, symbol = .constant inner

/-- `target.Receives value`: a value can be stored under an unqualified symbol. -/
inductive Receives : Symbol → Symbol → Prop
  | primitive (type : Primitive) : Receives (.primitive type) (.primitive type)
  | array (element : Primitive) : Receives (.array element) (.array element)
  /-- A string may be missing; nothing is stored where `null` is declared but `null`. -/
  | null : Receives (.primitive .string) (.primitive .null)
  /-- Qualifiers of the value do not count, however many there are. -/
  | constant {target value : Symbol} : Receives target value → Receives target (.constant value)

variable {target value : Symbol}

theorem isConstant_iff : target.isConstant = true ↔ target.Qualified := by
  cases target with
  | constant inner => exact iff_of_true rfl ⟨inner, rfl⟩
  | primitive type => simp [isConstant, Qualified]
  | array element => simp [isConstant, Qualified]

theorem receives_primitive_iff {t v : Primitive} :
    (primitive t).Receives (.primitive v) ↔ t = v ∨ t = .string ∧ v = .null := by
  constructor
  · intro h
    cases h with
    | primitive => exact .inl rfl
    | null => exact .inr ⟨rfl, rfl⟩
  · rintro (rfl | ⟨rfl, rfl⟩)
    · exact .primitive t
    · exact .null

theorem receives_array_iff {t v : Primitive} : (array t).Receives (.array v) ↔ t = v := by
  constructor
  · intro h
    cases h
    rfl
  · rintro rfl
    exact .array t

theorem receives_constant_iff : target.Receives (.constant value) ↔ target.Receives value := by
  constructor
  · intro h
    cases h with
    | constant hvalue => exact hvalue
  · exact .constant

/-- What an unqualified symbol accepts is what it receives. -/
theorem accepts_iff (h : ¬ target.Qualified) :
    target.accepts value = true ↔ target.Receives value := by
  -- on the value, whose qualifiers are taken off one by one
  induction value with
  | primitive v =>
    cases target with
    | primitive t => simp [accepts, unqualified, receives_primitive_iff]
    | array t =>
      refine iff_of_false (by simp [accepts, unqualified]) ?_
      intro hreceives
      cases hreceives
    | constant inner => exact absurd ⟨inner, rfl⟩ h
  | array v =>
    cases target with
    | primitive t =>
      refine iff_of_false (by simp [accepts, unqualified]) ?_
      intro hreceives
      cases hreceives
    | array t => simp [accepts, unqualified, receives_array_iff]
    | constant inner => exact absurd ⟨inner, rfl⟩ h
  | constant inner ih =>
    rw [receives_constant_iff, ← ih]
    rfl

end Symbol

namespace Scopes

/-! ### The innermost binding -/

/-- No open scope has a name twice. -/
def Distinct (s : Scopes) : Prop := ∀ scope ∈ s.all, (scope.map Prod.fst).Nodup

/-- No open scope declares the name. -/
def Undeclared (s : Scopes) (name : String) : Prop :=
  ∀ scope ∈ s.all, ∀ binding, (name, binding) ∉ scope

/-- The binding stands in an open scope, and no scope within that one declares the name. -/
def Innermost (s : Scopes) (name : String) (binding : Binding) : Prop :=
  ∃ within scope outer, s.all = within ++ scope :: outer ∧ (name, binding) ∈ scope ∧
    ∀ closer ∈ within, ∀ other, (name, other) ∉ closer

variable {s t : Scopes} {name : String} {value : Symbol} {span : Span} {binding : Binding}

theorem lookup_eq_none_iff_not_mem {scope : Scope} :
    scope.lookup name = none ↔ ∀ binding, (name, binding) ∉ scope := by
  rw [List.lookup_eq_none_iff]
  constructor
  · intro h binding hmem
    simpa using h _ hmem
  · rintro h ⟨other, binding⟩ hmem
    refine bne_iff_ne.2 ?_
    rintro rfl
    exact h binding hmem

theorem lookup?_eq_none_iff : s.lookup? name = none ↔ s.Undeclared name := by
  rw [lookup?, List.findSome?_eq_none_iff]
  simp only [lookup_eq_none_iff_not_mem, Undeclared]

/-- What is found for a name is the innermost binding, if no scope has a name twice. -/
theorem lookup?_eq_some_iff (hdistinct : s.Distinct) :
    s.lookup? name = some binding ↔ s.Innermost name binding := by
  rw [lookup?, List.findSome?_eq_some_iff]
  refine exists_congr fun within => exists_congr fun scope => exists_congr fun outer => ?_
  apply and_congr_right
  intro hall
  have hscope : scope ∈ s.all := by simp [hall]
  rw [lookup_eq_some_iff_mem (hdistinct scope hscope)]
  simp only [lookup_eq_none_iff_not_mem]

/-- The log does not change what the steps do to the scopes. -/
theorem logged_fst (s : Scopes) (log : DeclarationLog) (steps : List ScopeStep) :
    (s.logged log steps).1 = s.run steps := by
  induction steps generalizing s log with
  | nil => rfl
  | cons step steps ih => exact ih (s.step step) (log.record s step)

/-- However the scopes came about, none of them has a name twice. -/
theorem distinct_run (steps : List ScopeStep) : (start.run steps).Distinct := by
  rw [← logged_fst start [] steps]
  exact (mirrors_start.logged steps).distinct

/-! ### The rules for assignments -/

/-- `s.Judges name value span result`: what is declared in `s` calls for this answer to an
assignment of the value to the name. -/
inductive Judges (s : Scopes) (name : String) (value : Symbol) (span : Span) :
    Except NameFault Unit → Prop
  | undefined : s.Undeclared name → Judges s name value span (.error ⟨name, span, .undefined⟩)
  /-- Whether the value would fit is not asked. -/
  | constant {binding : Binding} : s.Innermost name binding → binding.symbol.Qualified →
      Judges s name value span (.error ⟨name, span, .constant (some binding.declaredAt)⟩)
  | mismatch {binding : Binding} : s.Innermost name binding → ¬ binding.symbol.Qualified →
      ¬ binding.symbol.Receives value →
      Judges s name value span (.error ⟨name, span, .mismatch binding.symbol value⟩)
  | fits {binding : Binding} : s.Innermost name binding → ¬ binding.symbol.Qualified →
      binding.symbol.Receives value → Judges s name value span (.ok ())

theorem judges_ok_iff : s.Judges name value span (.ok ()) ↔
    ∃ binding, s.Innermost name binding ∧ ¬ binding.symbol.Qualified ∧
      binding.symbol.Receives value := by
  constructor
  · intro h
    cases h with
    | fits hinnermost hplain hreceives => exact ⟨_, hinnermost, hplain, hreceives⟩
  · rintro ⟨binding, hinnermost, hplain, hreceives⟩
    exact .fits hinnermost hplain hreceives

theorem judges_undefined_iff : s.Judges name value span (.error ⟨name, span, .undefined⟩) ↔
    s.Undeclared name := by
  constructor
  · intro h
    cases h with
    | undefined hundeclared => exact hundeclared
  · exact .undefined

theorem judges_constant_iff {declaredAt : Span} :
    s.Judges name value span (.error ⟨name, span, .constant (some declaredAt)⟩) ↔
      ∃ binding, s.Innermost name binding ∧ binding.symbol.Qualified ∧
        binding.declaredAt = declaredAt := by
  constructor
  · intro h
    cases h with
    | constant hinnermost hconstant => exact ⟨_, hinnermost, hconstant, rfl⟩
  · rintro ⟨binding, hinnermost, hconstant, rfl⟩
    exact .constant hinnermost hconstant

theorem judges_mismatch_iff {target : Symbol} :
    s.Judges name value span (.error ⟨name, span, .mismatch target value⟩) ↔
      ∃ binding, s.Innermost name binding ∧ ¬ binding.symbol.Qualified ∧
        ¬ binding.symbol.Receives value ∧ binding.symbol = target := by
  constructor
  · intro h
    cases h with
    | mismatch hinnermost hplain hreceives => exact ⟨_, hinnermost, hplain, hreceives, rfl⟩
  · rintro ⟨binding, hinnermost, hplain, hreceives, rfl⟩
    exact .mismatch hinnermost hplain hreceives

/-- What is shown of a refused assignment: only a constant points at its declaration, and only a
value that does not fit is an error of types. -/
theorem Judges.error_cases {fault : NameFault} (h : s.Judges name value span (.error fault)) :
    (fault = ⟨name, span, .undefined⟩ ∧
      fault.diagnostic.category = .semantic ∧ fault.diagnostic.secondary = []) ∨
    (∃ declaredAt, fault = ⟨name, span, .constant (some declaredAt)⟩ ∧
      fault.diagnostic.category = .semantic ∧ fault.diagnostic.secondary = [declaredAt]) ∨
    (∃ target, fault = ⟨name, span, .mismatch target value⟩ ∧
      fault.diagnostic.category = .typing ∧ fault.diagnostic.secondary = []) := by
  cases h with
  | undefined => exact .inl ⟨rfl, rfl, rfl⟩
  | constant => exact .inr (.inl ⟨_, rfl, rfl, rfl⟩)
  | mismatch => exact .inr (.inr ⟨_, rfl, rfl, rfl⟩)

/-- Assignments are judged by the rules. -/
theorem judges_checkAssignment (hdistinct : s.Distinct) :
    s.Judges name value span (s.checkAssignment name value span) := by
  -- one case for each rule, in the order in which they are asked
  cases hlookup : s.lookup? name with
  | none =>
    rw [checkAssignment_of_none hlookup]
    exact .undefined (lookup?_eq_none_iff.1 hlookup)
  | some binding =>
    have hinnermost := (lookup?_eq_some_iff hdistinct).1 hlookup
    rw [checkAssignment_of_some hlookup]
    by_cases hconstant : binding.symbol.isConstant = true
    · rw [if_pos hconstant]
      exact .constant hinnermost (Symbol.isConstant_iff.1 hconstant)
    · have hplain := mt Symbol.isConstant_iff.2 hconstant
      rw [if_neg hconstant]
      by_cases haccepts : binding.symbol.accepts value = true
      · rw [if_pos haccepts]
        exact .fits hinnermost hplain ((Symbol.accepts_iff hplain).1 haccepts)
      · rw [if_neg haccepts]
        exact .mismatch hinnermost hplain (mt (Symbol.accepts_iff hplain).2 haccepts)

/-- The answer is the one that the rules call for, and they call for no other. -/
theorem checkAssignment_eq_iff (hdistinct : s.Distinct) {result : Except NameFault Unit} :
    s.checkAssignment name value span = result ↔ s.Judges name value span result := by
  constructor
  · rintro rfl
    exact judges_checkAssignment hdistinct
  · intro h
    cases h with
    | undefined hundeclared =>
      exact checkAssignment_of_none (lookup?_eq_none_iff.2 hundeclared)
    | constant hinnermost hconstant =>
      rw [checkAssignment_of_some ((lookup?_eq_some_iff hdistinct).2 hinnermost)]
      exact if_pos (Symbol.isConstant_iff.2 hconstant)
    | mismatch hinnermost hplain hreceives =>
      rw [checkAssignment_of_some ((lookup?_eq_some_iff hdistinct).2 hinnermost)]
      exact (if_neg (mt Symbol.isConstant_iff.1 hplain)).trans
        (if_neg (mt (Symbol.accepts_iff hplain).1 hreceives))
    | fits hinnermost hplain hreceives =>
      rw [checkAssignment_of_some ((lookup?_eq_some_iff hdistinct).2 hinnermost)]
      exact (if_neg (mt Symbol.isConstant_iff.1 hplain)).trans
        (if_pos ((Symbol.accepts_iff hplain).2 hreceives))

/-! ### The innermost binding decides -/

/-- If no open scope declares the name there is no innermost binding, and else there is one. -/
theorem undeclared_or_innermost (hdistinct : s.Distinct) (name : String) :
    (s.Undeclared name ∧ ∀ binding, ¬ s.Innermost name binding) ∨
      (¬ s.Undeclared name ∧ ∃! binding, s.Innermost name binding) := by
  rw [← lookup?_eq_none_iff]
  -- said of the lookup, both sides are about one optional binding
  simp only [← lookup?_eq_some_iff hdistinct]
  cases s.lookup? name with
  | none =>
    refine .inl ⟨rfl, ?_⟩
    intro binding hfound
    cases hfound
  | some binding =>
    refine .inr ⟨Option.some_ne_none binding, binding, rfl, ?_⟩
    intro other hfound
    exact (Option.some.inj hfound).symm

/-- An assignment is decided by the innermost binding of the name, and by nothing else that is
declared. -/
structure DecidesByInnermost (s : Scopes) (name : String) (value : Symbol) (span : Span) :
    Prop where
  undeclared_or : (s.Undeclared name ∧ ∀ binding, ¬ s.Innermost name binding) ∨
    (¬ s.Undeclared name ∧ ∃! binding, s.Innermost name binding)
  ok_iff : s.checkAssignment name value span = .ok () ↔
    ∃ binding, s.Innermost name binding ∧ ¬ binding.symbol.Qualified ∧
      binding.symbol.Receives value
  undefined_iff : s.checkAssignment name value span = .error ⟨name, span, .undefined⟩ ↔
    s.Undeclared name
  /-- A constant is refused whether or not the value would fit. -/
  constant_iff : ∀ declaredAt,
    s.checkAssignment name value span = .error ⟨name, span, .constant (some declaredAt)⟩ ↔
      ∃ binding, s.Innermost name binding ∧ binding.symbol.Qualified ∧
        binding.declaredAt = declaredAt
  mismatch_iff : ∀ target,
    s.checkAssignment name value span = .error ⟨name, span, .mismatch target value⟩ ↔
      ∃ binding, s.Innermost name binding ∧ ¬ binding.symbol.Qualified ∧
        ¬ binding.symbol.Receives value ∧ binding.symbol = target
  /-- There are no other errors, and this is what their diagnostics show. -/
  error_cases : ∀ fault, s.checkAssignment name value span = .error fault →
    (fault = ⟨name, span, .undefined⟩ ∧
      fault.diagnostic.category = .semantic ∧ fault.diagnostic.secondary = []) ∨
    (∃ declaredAt, fault = ⟨name, span, .constant (some declaredAt)⟩ ∧
      fault.diagnostic.category = .semantic ∧ fault.diagnostic.secondary = [declaredAt]) ∨
    (∃ target, fault = ⟨name, span, .mismatch target value⟩ ∧
      fault.diagnostic.category = .typing ∧ fault.diagnostic.secondary = [])
  /-- Other scopes with the same innermost binding give the same answer. -/
  same_answer : ∀ others : List ScopeStep,
    (∀ binding, (start.run others).Innermost name binding ↔ s.Innermost name binding) →
    (start.run others).checkAssignment name value span = s.checkAssignment name value span
  /-- A declaration in a new scope is the innermost binding and decides, whatever the scopes around
  it declare. -/
  innermost_inner_iff : ∀ symbol declaredAt binding,
    ((s.step .push).step (.declare name symbol declaredAt)).Innermost name binding ↔
      binding = ⟨symbol, declaredAt⟩
  inner_ok_iff : ∀ symbol declaredAt,
    ((s.step .push).step (.declare name symbol declaredAt)).checkAssignment name value span =
        .ok () ↔
      ¬ symbol.Qualified ∧ symbol.Receives value

/-- A name that is declared in a new scope has its innermost binding there. -/
theorem innermost_declare_push {symbol : Symbol} {declaredAt : Span} :
    ((s.step .push).step (.declare name symbol declaredAt)).Innermost name binding ↔
      binding = ⟨symbol, declaredAt⟩ := by
  have hall : ((s.step .push).step (.declare name symbol declaredAt)).all =
      [(name, ⟨symbol, declaredAt⟩)] :: s.all := rfl
  constructor
  · rintro ⟨within, scope, outer, hsplit, hmem, hwithin⟩
    rw [hall] at hsplit
    cases within with
    | nil =>
      obtain ⟨rfl, -⟩ := List.cons.inj hsplit
      simpa using hmem
    | cons closer within =>
      -- the new scope would be one of those that do not declare the name
      obtain ⟨rfl, -⟩ := List.cons.inj hsplit
      exact absurd List.mem_cons_self (hwithin _ List.mem_cons_self ⟨symbol, declaredAt⟩)
  · rintro rfl
    exact ⟨[], _, s.all, hall, List.mem_cons_self, List.forall_mem_nil _⟩

/-- Scopes with the same innermost binding find the same. -/
theorem lookup?_eq_of_innermost_iff (hs : s.Distinct) (ht : t.Distinct)
    (h : ∀ binding, t.Innermost name binding ↔ s.Innermost name binding) :
    t.lookup? name = s.lookup? name := by
  apply Option.ext
  intro binding
  rw [lookup?_eq_some_iff ht, lookup?_eq_some_iff hs]
  exact h binding

/-- **The innermost binding of a name decides what may be assigned to it.**  Whatever steps led to
the scopes, the answer follows from that binding and the value: first whether there is one, then
whether it is a constant, then whether it receives the value. -/
theorem assignment_decided_by_innermost (steps : List ScopeStep) (name : String) (value : Symbol)
    (span : Span) : (start.run steps).DecidesByInnermost name value span := by
  have hdistinct := distinct_run steps
  refine
    { undeclared_or := undeclared_or_innermost hdistinct name
      ok_iff := (checkAssignment_eq_iff hdistinct).trans judges_ok_iff
      undefined_iff := (checkAssignment_eq_iff hdistinct).trans judges_undefined_iff
      constant_iff := fun _ => (checkAssignment_eq_iff hdistinct).trans judges_constant_iff
      mismatch_iff := fun _ => (checkAssignment_eq_iff hdistinct).trans judges_mismatch_iff
      error_cases := fun _ hfault => ((checkAssignment_eq_iff hdistinct).1 hfault).error_cases
      same_answer := ?_
      innermost_inner_iff := fun _ _ _ => innermost_declare_push
      inner_ok_iff := ?_ }
  · intro others hsame
    rw [checkAssignment, checkAssignment, resolve, resolve,
      lookup?_eq_of_innermost_iff hdistinct (distinct_run others) hsame]
  · intro symbol declaredAt
    -- the scopes with the new one on top have come about by steps as well
    have hinner := distinct_run (steps ++ [.push, .declare name symbol declaredAt])
    rw [run_append] at hinner
    refine ((checkAssignment_eq_iff hinner).trans judges_ok_iff).trans ?_
    constructor
    · rintro ⟨binding, hinnermost, hplain, hreceives⟩
      obtain rfl := innermost_declare_push.1 hinnermost
      exact ⟨hplain, hreceives⟩
    · rintro ⟨hplain, hreceives⟩
      exact ⟨_, innermost_declare_push.2 rfl, hplain, hreceives⟩

/-- The name is a constant outside and takes a value inside. -/
example :
    (start.run [.declare "x" (.constant (.primitive .integer)) (.point "a.k" 1 18), .push,
      .declare "x" (.primitive .string) (.point "a.k" 2 8)]).checkAssignment "x"
        (.constant (.primitive .null)) (.point "a.k" 3 1) = .ok () := rfl

end Scopes

end FrontEnd
