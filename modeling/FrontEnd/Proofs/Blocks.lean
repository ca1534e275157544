/-
FrontEnd/Proofs/Blocks.lean

A closed block leaves no trace in the scopes.

A block opens a scope, takes some steps and closes a scope.  The steps in between may open
scopes of their own, as long as they close what they open and nothing else (`Balanced`).
Then the scope that the block closes is the one that it has opened.

What carries this is that a step reaches the innermost scope only: as long as there is a
scope on top of the ones around the block, those are not touched (`Scopes.Above`).  The
induction over the steps has to keep count of the scopes on top, since what is left of
balanced steps after the first of them is in general not balanced.
-/
import FrontEnd.Proofs.DeclarationLog
import Mathlib.Data.List.Infix

namespace FrontEnd

/-! ### Balanced steps -/

/-- No scope is closed that has not been opened before, and none is left open. -/
structure Balanced (steps : List ScopeStep) : Prop where
  pops_le : ∀ front, front <+: steps → front.count .pop ≤ front.count .push
  pops_eq : steps.count .pop = steps.count .push

instance (steps : List ScopeStep) : Decidable (Balanced steps) :=
  decidable_of_iff
    ((∀ front ∈ steps.inits, front.count .pop ≤ front.count .push) ∧
      steps.count .pop = steps.count .push)
    ⟨fun h => ⟨fun front hfront => h.1 front ((List.mem_inits _ _).2 hfront), h.2⟩,
      fun h => ⟨fun front hfront => h.pops_le front ((List.mem_inits _ _).1 hfront), h.pops_eq⟩⟩

namespace Scopes

/-- The scopes after some steps. -/
def run (s : Scopes) (steps : List ScopeStep) : Scopes := steps.foldl step s

theorem run_append (s : Scopes) (steps more : List ScopeStep) :
    s.run (steps ++ more) = (s.run steps).run more :=
  List.foldl_append

/-! ### Scopes on top of others -/

/-- On top of `base` there are a scope and `opened` more. -/
def Above (s : Scopes) (opened : Nat) (base : List Scope) : Prop :=
  ∃ top : List Scope, top.length = opened + 1 ∧ s.all = top ++ base

variable {s t : Scopes} {opened : Nat} {base : List Scope} {steps : List ScopeStep}

theorem above_push (s : Scopes) : (s.step .push).Above 0 s.all := ⟨[[]], rfl, rfl⟩

theorem Above.push (h : s.Above opened base) : (s.step .push).Above (opened + 1) base := by
  obtain ⟨top, hlength, hall⟩ := h
  refine ⟨[] :: top, congrArg (· + 1) hlength, ?_⟩
  show [] :: s.all = _
  rw [hall, List.cons_append]

/-- With more than one scope on top, closing one of them leaves one. -/
theorem Above.pop (h : s.Above (opened + 1) base) : (s.step .pop).Above opened base := by
  obtain ⟨top, hlength, hall⟩ := h
  cases top with
  | nil => cases hlength
  | cons scope top =>
    have htop : top.length = opened + 1 := Nat.succ.inj hlength
    rcases s.pop_cases with ⟨hdepth, -⟩ | ⟨-, hpop⟩
    · -- the outermost scope would have the others below it
      have hcount : s.depth = (scope :: top ++ base).length := congrArg List.length hall
      simp only [List.length_append, List.length_cons] at hcount
      omega
    · rw [hpop, List.cons_append] at hall
      exact ⟨top, htop, (List.cons.inj hall).2⟩

/-- A declaration goes into the innermost scope, or nowhere. -/
theorem Above.declare (h : s.Above opened base) (name : String) (symbol : Symbol) (span : Span) :
    (s.step (.declare name symbol span)).Above opened base := by
  obtain ⟨top, hlength, hall⟩ := h
  cases hlookup : s.inner.lookup name with
  | some previous =>
    rw [(step_of_declare_error [] (declare_of_some hlookup)).1]
    exact ⟨top, hlength, hall⟩
  | none =>
    rw [(step_of_declare_ok [] (declare_of_none hlookup)).1]
    cases top with
    | nil => cases hlength
    | cons scope top =>
      obtain ⟨-, houter⟩ := List.cons.inj hall
      exact ⟨((name, ⟨symbol, span⟩) :: s.inner) :: top, hlength, congrArg (_ :: ·) houter⟩

/-- So many scopes are enough for the steps to close: they never close more than these and
those that they have opened. -/
def Suffices (opened : Nat) (steps : List ScopeStep) : Prop :=
  ∀ front, front <+: steps → front.count .pop ≤ opened + front.count .push

theorem Suffices.cons {step : ScopeStep} (h : Suffices opened (step :: steps))
    {front : List ScopeStep} (hfront : front <+: steps) :
    (step :: front).count .pop ≤ opened + (step :: front).count .push :=
  h _ (List.cons_prefix_cons.2 ⟨rfl, hfront⟩)

theorem Suffices.push (h : Suffices opened (.push :: steps)) :
    Suffices (opened + 1) steps := by
  intro front hfront
  have hcount := h.cons hfront
  rw [List.count_cons_of_ne (by decide), List.count_cons_self] at hcount
  omega

/-- The step alone is a front of the steps, so there is a scope for it to close. -/
theorem Suffices.pop (h : Suffices opened (.pop :: steps)) :
    ∃ fewer, opened = fewer + 1 ∧ Suffices fewer steps := by
  have hone : 1 ≤ opened := h.cons List.nil_prefix
  obtain ⟨fewer, rfl⟩ := Nat.exists_eq_add_of_le' hone
  refine ⟨fewer, rfl, fun front hfront => ?_⟩
  have hcount := h.cons hfront
  rw [List.count_cons_self, List.count_cons_of_ne (by decide)] at hcount
  omega

theorem Suffices.declare {name : String} {symbol : Symbol} {span : Span}
    (h : Suffices opened (.declare name symbol span :: steps)) : Suffices opened steps := by
  intro front hfront
  have hcount := h.cons hfront
  rwa [List.count_cons_of_ne ScopeStep.noConfusion,
    List.count_cons_of_ne ScopeStep.noConfusion] at hcount

/-- Where the scopes on top suffice, the ones below are not reached, and the number on top is
that of the openings less that of the closings. -/
theorem Above.run (hsteps : Suffices opened steps) (h : s.Above opened base) :
    ∃ left, left + steps.count .pop = opened + steps.count .push ∧
      (s.run steps).Above left base := by
  induction steps generalizing s opened with
  | nil => exact ⟨opened, rfl, h⟩
  | cons step steps ih =>
    -- a step moves the number on top as it moves the counts, and so does the condition on the rest
    cases step with
    | push =>
      obtain ⟨left, hleft, habove⟩ := ih hsteps.push h.push
      refine ⟨left, ?_, habove⟩
      rw [List.count_cons_of_ne (by decide), List.count_cons_self]
      omega
    | pop =>
      obtain ⟨fewer, rfl, hrest⟩ := hsteps.pop
      obtain ⟨left, hleft, habove⟩ := ih hrest h.pop
      refine ⟨left, ?_, habove⟩
      rw [List.count_cons_self, List.count_cons_of_ne (by decide)]
      omega
    | declare name symbol span =>
      obtain ⟨left, hleft, habove⟩ := ih hsteps.declare (h.declare name symbol span)
      refine ⟨left, ?_, habove⟩
      rwa [List.count_cons_of_ne ScopeStep.noConfusion,
        List.count_cons_of_ne ScopeStep.noConfusion]

/-! ### Blocks -/

/-- Closing the one scope on top gives the scopes below. -/
theorem Above.pop_eq (h : t.Above 0 s.all) : t.pop = (true, s) := by
  obtain ⟨top, hlength, hall⟩ := h
  obtain ⟨scope, rfl⟩ := List.length_eq_one_iff.1 hlength
  obtain ⟨inner, outer⟩ := t
  obtain ⟨rfl, rfl⟩ := List.cons.inj hall
  rfl

/-- Balanced steps on top of some scopes leave one scope on top of them. -/
theorem above_run_push (h : Balanced steps) (s : Scopes) :
    ((s.step .push).run steps).Above 0 s.all := by
  have hsteps : Suffices 0 steps := fun front hfront => by
    rw [Nat.zero_add]
    exact h.pops_le front hfront
  obtain ⟨left, hleft, habove⟩ := s.above_push.run hsteps
  -- as many are closed as are opened, so none but the first is left
  have hpops_eq := h.pops_eq
  obtain rfl : left = 0 := by omega
  exact habove

/-- **A closed block leaves no trace.**  Closing the block succeeds and gives the very scopes
that were there before it, so whatever is done and asked later goes as it does without the
block. -/
theorem block_leaves_no_trace (h : Balanced steps) (s : Scopes) :
    ((s.step .push).run steps).pop = (true, s) ∧
      ∀ later : List ScopeStep,
        let withBlock := s.run (.push :: steps ++ .pop :: later)
        withBlock = s.run later ∧
        ∀ name symbol span,
          withBlock.resolve name span = (s.run later).resolve name span ∧
          withBlock.declare name symbol span = (s.run later).declare name symbol span ∧
          withBlock.checkAssignment name symbol span =
            (s.run later).checkAssignment name symbol span := by
  have hpop := (above_run_push h s).pop_eq
  refine ⟨hpop, fun later => ?_⟩
  have hrun : s.run (.push :: steps ++ .pop :: later) = s.run later := by
    have hclosed : ((s.step .push).run steps).step .pop = s := congrArg Prod.snd hpop
    calc s.run (.push :: steps ++ .pop :: later)
        = ((s.step .push).run steps).run (.pop :: later) := run_append _ (.push :: steps) _
      _ = (((s.step .push).run steps).step .pop).run later := rfl
      _ = s.run later := by rw [hclosed]
  intro withBlock
  have hsame : withBlock = s.run later := hrun
  rw [hsame]
  exact ⟨rfl, fun name symbol span => ⟨rfl, rfl, rfl⟩⟩

/-- In the block a name is shadowed, declared again in a block of its own, and refused. -/
theorem block_leaves_no_trace_shadowing :
    let outside := start.run [.declare "x" (.primitive .integer) (.point "a.k" 1 9)]
    let steps : List ScopeStep :=
      [.declare "x" (.primitive .string) (.point "a.k" 2 8), .push,
        .declare "x" (.constant (.array .double)) (.point "a.k" 3 20), .pop,
        .declare "x" (.primitive .boolean) (.point "a.k" 4 9)]
    Balanced steps ∧ ((outside.step .push).run steps).pop = (true, outside) :=
  have h : Balanced _ := by decide
  ⟨h, (block_leaves_no_trace h _).1⟩

end Scopes

end FrontEnd
