/-
FrontEnd/Proofs/DeclarationLog.lean

The open scopes and one flat log of what has been declared.

The log is kept beside the scopes, from their answers alone: a declaration that succeeds
is written down with the depth at which it was made, and closing a scope strikes out the
entries of its depth.  There is no nesting in the log, and no order but that of time.

The log turns out to be the scopes laid out one behind the other, from the inside out
(`laidOut`).  That holds at the start and after every step (`Mirrors.step`), and it is
all that the answers depend on: a name means its latest entry, and a declaration is
refused exactly for an entry with its name at the present depth (`follows_log`).
-/
import FrontEnd.Typing.Scopes
import Mathlib.Data.List.Nodup

namespace FrontEnd

/-! ### Steps -/

/-- What can be done to the scopes. -/
inductive ScopeStep
  | push
  | pop
  | declare (name : String) (symbol : Symbol) (span : Span)
deriving DecidableEq, Repr

/-- The scopes after a step.  A declaration that is refused gives no new scopes. -/
def Scopes.step (s : Scopes) : ScopeStep → Scopes
  | .push => s.push
  | .pop => s.pop.2
  | .declare name symbol span =>
    match s.declare name symbol span with
    | .ok declared => declared
    | .error _ => s

/-- A declaration that has been made, and how many scopes were open then. -/
structure Declaration where
  name : String
  symbol : Symbol
  span : Span
  depth : Nat
deriving DecidableEq, Repr

/-- What is known of the declared name. -/
def Declaration.binding (entry : Declaration) : Binding := ⟨entry.symbol, entry.span⟩

/-- Declarations, the latest first. -/
abbrev DeclarationLog := List Declaration

/-- The log after a step of the scopes `s`, which is written up as `s` answers it. -/
def DeclarationLog.record (log : DeclarationLog) (s : Scopes) : ScopeStep → DeclarationLog
  | .push => log
  | .pop => if s.pop.1 then log.filter (·.depth != s.depth) else log
  | .declare name symbol span =>
    match s.declare name symbol span with
    | .ok _ => ⟨name, symbol, span, s.depth⟩ :: log
    | .error _ => log

/-- Scopes and their log after some steps. -/
def Scopes.logged (s : Scopes) (log : DeclarationLog) : List ScopeStep → Scopes × DeclarationLog
  | [] => (s, log)
  | step :: steps => (s.step step).logged (log.record s step) steps

/-! ### Scopes laid out -/

/-- What a scope at a depth knows, as an entry of the log. -/
def Declaration.ofItem (depth : Nat) (item : String × Binding) : Declaration :=
  ⟨item.1, item.2.symbol, item.2.declaredAt, depth⟩

/-- The entries of the scopes, from the inside out. -/
def laidOut : List Scope → DeclarationLog
  | [] => []
  | scope :: outer => scope.map (.ofItem (outer.length + 1)) ++ laidOut outer

section LaidOut

variable {scope : Scope} {outer scopes : List Scope} {name : String} {entry : Declaration}

/-- No entry is deeper than the scopes are. -/
theorem depth_le_of_mem_laidOut (h : entry ∈ laidOut scopes) : entry.depth ≤ scopes.length := by
  induction scopes with
  | nil => cases h
  | cons scope outer ih =>
    rcases List.mem_append.1 h with hinner | houter
    · obtain ⟨item, -, rfl⟩ := List.mem_map.1 hinner
      exact Nat.le_refl _
    · exact Nat.le_succ_of_le (ih houter)

/-- The entries of the innermost scope are those at its depth. -/
theorem mem_laidOut_of_depth (hdepth : entry.depth = outer.length + 1) :
    entry ∈ laidOut (scope :: outer) ↔ (entry.name, entry.binding) ∈ scope := by
  rw [laidOut, List.mem_append]
  constructor
  · rintro (hinner | houter)
    · obtain ⟨item, hitem, rfl⟩ := List.mem_map.1 hinner
      exact hitem
    · -- an entry further out is not as deep
      have hle := depth_le_of_mem_laidOut houter
      omega
  · intro hitem
    have hentry : Declaration.ofItem (outer.length + 1) (entry.name, entry.binding) = entry := by
      rw [← hdepth]
      rfl
    exact .inl (List.mem_map.2 ⟨_, hitem, hentry⟩)

/-- Striking out the greatest depth leaves the outer scopes. -/
theorem filter_laidOut (scope : Scope) (outer : List Scope) :
    (laidOut (scope :: outer)).filter (·.depth != outer.length + 1) = laidOut outer := by
  have hinner : (scope.map (Declaration.ofItem (outer.length + 1))).filter
      (·.depth != outer.length + 1) = [] := by
    refine List.filter_eq_nil_iff.2 fun entry hentry => ?_
    obtain ⟨item, -, rfl⟩ := List.mem_map.1 hentry
    simp [Declaration.ofItem]
  have houter : (laidOut outer).filter (·.depth != outer.length + 1) = laidOut outer := by
    refine List.filter_eq_self.2 fun entry hentry => ?_
    have hle := depth_le_of_mem_laidOut hentry
    simp only [bne_iff_ne, ne_eq]
    omega
  rw [laidOut, List.filter_append, hinner, houter, List.nil_append]

theorem find?_map_ofItem (depth : Nat) (scope : Scope) (name : String) :
    ((scope.map (.ofItem depth)).find? (·.name == name)).map Declaration.binding =
      scope.lookup name := by
  induction scope with
  | nil => rfl
  | cons item scope ih =>
    rw [List.map_cons, List.find?_cons, List.lookup_cons]
    by_cases h : name = item.1
    · subst h
      simp [Declaration.ofItem, Declaration.binding]
    · have hentry : ((Declaration.ofItem depth item).name == name) = false :=
        beq_eq_false_iff_ne.2 (Ne.symm h)
      rw [hentry, beq_eq_false_iff_ne.2 h]
      exact ih

/-- The innermost declaration of a name is the first entry with the name. -/
theorem find?_laidOut (scopes : List Scope) (name : String) :
    ((laidOut scopes).find? (·.name == name)).map Declaration.binding =
      scopes.findSome? (·.lookup name) := by
  induction scopes with
  | nil => rfl
  | cons scope outer ih =>
    rw [laidOut, List.find?_append, Option.map_or, find?_map_ofItem, ih, List.findSome?_cons]
    cases scope.lookup name <;> rfl

/-- Where no name stands twice, what is found is what stands there. -/
theorem lookup_eq_some_iff_mem {binding : Binding} (hdistinct : (scope.map Prod.fst).Nodup) :
    scope.lookup name = some binding ↔ (name, binding) ∈ scope := by
  induction scope with
  | nil => simp
  | cons item scope ih =>
    obtain ⟨other, declared⟩ := item
    obtain ⟨hfresh, hrest⟩ := List.nodup_cons.1 hdistinct
    rw [List.lookup_cons, List.mem_cons]
    by_cases h : name = other
    · subst h
      have hout : (name, binding) ∉ scope := fun hm =>
        hfresh (List.mem_map.2 ⟨_, hm, rfl⟩)
      simp [hout, eq_comm]
    · simp [beq_eq_false_iff_ne.2 h, h, ih hrest]

end LaidOut

/-! ### The log mirrors the scopes -/

/-- The log is the scopes laid out, and no scope has a name twice. -/
structure Scopes.Mirrors (s : Scopes) (log : DeclarationLog) : Prop where
  log_eq : log = laidOut s.all
  distinct : ∀ scope ∈ s.all, (scope.map Prod.fst).Nodup

namespace Scopes

variable {s : Scopes} {log : DeclarationLog} {name : String} {symbol : Symbol} {span : Span}

/-- Closing a scope leaves the scopes around it, if there are any. -/
theorem pop_cases (s : Scopes) :
    (s.depth = 1 ∧ s.pop = (false, s)) ∨
      (s.pop.1 = true ∧ s.all = s.inner :: s.pop.2.all) := by
  obtain ⟨inner, _ | ⟨scope, outer⟩⟩ := s
  · exact .inl ⟨rfl, rfl⟩
  · exact .inr ⟨rfl, rfl⟩

theorem declare_of_some {previous : Binding} (h : s.inner.lookup name = some previous) :
    s.declare name symbol span = .error ⟨name, span, .redeclared previous⟩ := by
  rw [declare, h]

theorem declare_of_none (h : s.inner.lookup name = none) :
    s.declare name symbol span = .ok { s with inner := (name, ⟨symbol, span⟩) :: s.inner } := by
  rw [declare, h]

/-- A refused declaration leaves no trace, in the scopes or in the log. -/
theorem step_of_declare_error {fault : NameFault} (log : DeclarationLog)
    (h : s.declare name symbol span = .error fault) :
    s.step (.declare name symbol span) = s ∧ log.record s (.declare name symbol span) = log := by
  simp only [step, DeclarationLog.record, h, and_self]

/-- A declaration that succeeds is the latest of the innermost scope and of the log. -/
theorem step_of_declare_ok {declared : Scopes} (log : DeclarationLog)
    (h : s.declare name symbol span = .ok declared) :
    s.step (.declare name symbol span) = declared ∧
      log.record s (.declare name symbol span) = ⟨name, symbol, span, s.depth⟩ :: log := by
  simp only [step, DeclarationLog.record, h, and_self]

theorem mirrors_start : start.Mirrors [] where
  log_eq := rfl
  distinct := by simp [all, start]

/-- What the innermost scope knows is in the log at the present depth. -/
theorem Mirrors.lookup_inner_iff (h : s.Mirrors log) {entry : Declaration}
    (hdepth : entry.depth = s.depth) :
    s.inner.lookup entry.name = some entry.binding ↔ entry ∈ log := by
  have hdistinct := h.distinct s.inner List.mem_cons_self
  rw [lookup_eq_some_iff_mem hdistinct, h.log_eq]
  exact (mem_laidOut_of_depth hdepth).symm

theorem Mirrors.push (h : s.Mirrors log) : s.push.Mirrors log where
  log_eq := h.log_eq
  distinct := List.forall_mem_cons.2 ⟨List.nodup_nil, h.distinct⟩

theorem Mirrors.pop (h : s.Mirrors log) : s.pop.2.Mirrors (log.record s .pop) := by
  rcases s.pop_cases with ⟨-, hpop⟩ | ⟨hpop, hall⟩
  · have hlog : log.record s .pop = log := by simp [DeclarationLog.record, hpop]
    rw [hlog, hpop]
    exact h
  · have hdepth : s.depth = s.pop.2.all.length + 1 := congrArg List.length hall
    refine ⟨?_, fun scope hscope => h.distinct scope ?_⟩
    · rw [DeclarationLog.record, if_pos hpop, h.log_eq, hall, hdepth]
      exact filter_laidOut _ _
    · rw [hall]
      exact List.mem_cons_of_mem _ hscope

theorem Mirrors.declare (h : s.Mirrors log) :
    (s.step (.declare name symbol span)).Mirrors
      (log.record s (.declare name symbol span)) := by
  have hdistinct := h.distinct s.inner List.mem_cons_self
  -- a known name is refused and changes neither; a fresh one goes to the front of both
  cases hlookup : s.inner.lookup name with
  | some previous =>
    obtain ⟨hscopes, hlog⟩ := step_of_declare_error log (declare_of_some hlookup)
    rw [hscopes, hlog]
    exact h
  | none =>
    have hfresh : name ∉ s.inner.map Prod.fst := by
      intro hmem
      obtain ⟨item, hitem, hname⟩ := List.mem_map.1 hmem
      have hne := List.lookup_eq_none_iff.1 hlookup item hitem
      exact (bne_iff_ne.1 hne) hname.symm
    have hdeclared : s.declare name symbol span = .ok _ := declare_of_none hlookup
    obtain ⟨hscopes, hlog⟩ := step_of_declare_ok log hdeclared
    rw [hscopes, hlog]
    refine ⟨by rw [h.log_eq]; rfl, List.forall_mem_cons.2 ⟨?_, ?_⟩⟩
    · exact List.nodup_cons.2 ⟨hfresh, hdistinct⟩
    · exact fun scope hscope => h.distinct scope (List.mem_cons_of_mem _ hscope)

/-- One step keeps the log in line with the scopes. -/
theorem Mirrors.step (h : s.Mirrors log) (step : ScopeStep) :
    (s.step step).Mirrors (log.record s step) := by
  cases step with
  | push => exact h.push
  | pop => exact h.pop
  | declare name symbol span => exact h.declare

/-- So does a run of steps. -/
theorem Mirrors.logged (h : s.Mirrors log) (steps : List ScopeStep) :
    (s.logged log steps).1.Mirrors (s.logged log steps).2 := by
  induction steps generalizing s log with
  | nil => exact h
  | cons step steps ih => exact ih (h.step step)

/-! ### Answers -/

/-- The scopes answer as the log says.  An entry at the present depth stands for the scope in
which the next declaration is made. -/
structure Follows (s : Scopes) (log : DeclarationLog) : Prop where
  /-- There is always a scope to declare in. -/
  depth_pos : 1 ≤ s.depth
  depth_push : (s.step .push).depth = s.depth + 1
  depth_pop : s.pop.1 = true → (s.step .pop).depth + 1 = s.depth
  depth_declare : ∀ name symbol span, (s.step (.declare name symbol span)).depth = s.depth
  /-- The outermost scope is not closed, and no other one is kept open. -/
  pop_eq_false_iff : s.pop.1 = false ↔ s.depth = 1
  pop_of_false : s.pop.1 = false → s.step .pop = s
  /-- A name is refused for an entry with that name at the present depth. -/
  declare_error_iff : ∀ name symbol span,
    (∃ fault, s.declare name symbol span = .error fault) ↔
      ∃ entry ∈ log, entry.name = name ∧ entry.depth = s.depth
  /-- Whichever such entry it is, the diagnostic shows its symbol and its span. -/
  declare_error : ∀ name symbol span fault, s.declare name symbol span = .error fault →
    s.step (.declare name symbol span) = s ∧
      log.record s (.declare name symbol span) = log ∧
      ∀ entry ∈ log, entry.name = name → entry.depth = s.depth →
        fault.problem = .redeclared entry.binding ∧
          fault.diagnostic.notes =
            [⟨s!"'{name}' was first declared as {entry.symbol.label}", some entry.span⟩]
  /-- A name means its latest entry. -/
  resolve_ok_iff : ∀ name span symbol, s.resolve name span = .ok symbol ↔
    ∃ entry, log.find? (·.name == name) = some entry ∧ entry.symbol = symbol
  resolve_error_iff : ∀ name span, (∃ fault, s.resolve name span = .error fault) ↔
    ∀ entry ∈ log, entry.name ≠ name

/-- The latest entry with a name is its innermost declaration. -/
theorem Mirrors.lookup?_eq (h : s.Mirrors log) (name : String) :
    s.lookup? name = (log.find? (·.name == name)).map Declaration.binding := by
  rw [h.log_eq, find?_laidOut, lookup?]

theorem Mirrors.follows (h : s.Mirrors log) : s.Follows log where
  depth_pos := Nat.le_add_left 1 _
  depth_push := rfl
  depth_pop htrue := by
    rcases s.pop_cases with ⟨-, hpop⟩ | ⟨-, hall⟩
    · rw [hpop] at htrue
      cases htrue
    · exact (congrArg List.length hall).symm
  depth_declare name symbol span := by
    cases hlookup : s.inner.lookup name with
    | some previous => rw [(step_of_declare_error log (declare_of_some hlookup)).1]
    | none =>
      rw [(step_of_declare_ok log (declare_of_none hlookup)).1]
      rfl
  pop_eq_false_iff := pop_fst_eq_false_iff
  pop_of_false hfalse := by
    rcases s.pop_cases with ⟨-, hpop⟩ | ⟨htrue, -⟩
    · exact congrArg Prod.snd hpop
    · rw [htrue] at hfalse
      cases hfalse
  declare_error_iff name symbol span := by
    constructor
    · rintro ⟨fault, hfault⟩
      cases hlookup : s.inner.lookup name with
      | none =>
        rw [declare_of_none hlookup] at hfault
        cases hfault
      | some previous =>
        exact ⟨⟨name, previous.symbol, previous.declaredAt, s.depth⟩,
          (h.lookup_inner_iff rfl).1 hlookup, rfl, rfl⟩
    · rintro ⟨entry, hentry, rfl, hdepth⟩
      exact ⟨_, declare_of_some ((h.lookup_inner_iff hdepth).2 hentry)⟩
  declare_error name symbol span fault hfault := by
    obtain ⟨hscopes, hlog⟩ := step_of_declare_error log hfault
    refine ⟨hscopes, hlog, ?_⟩
    rintro entry hentry rfl hdepth
    rw [declare_of_some ((h.lookup_inner_iff hdepth).2 hentry)] at hfault
    obtain rfl := Except.error.inj hfault
    exact ⟨rfl, rfl⟩
  resolve_ok_iff name span symbol := by
    rw [resolve, h.lookup?_eq]
    cases log.find? (·.name == name) with
    | none => simp
    | some entry => simp [Declaration.binding]
  resolve_error_iff name span := by
    have hnone : log.find? (·.name == name) = none ↔ ∀ entry ∈ log, entry.name ≠ name := by
      simp
    rw [resolve, h.lookup?_eq, ← hnone]
    cases log.find? (·.name == name) <;> simp

/-- **The scopes follow the log of declarations.**  After any run of steps from the outermost
scope alone, they answer as the log says that was kept of the run. -/
theorem follows_log (steps : List ScopeStep) :
    (start.logged [] steps).1.Follows (start.logged [] steps).2 :=
  (mirrors_start.logged steps).follows

end Scopes

end FrontEnd
