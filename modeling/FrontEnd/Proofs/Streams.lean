/-
FrontEnd/Proofs/Streams.lean

A stream reads its list in order and stops at the end.

Reading one token is all that moves a stream.  A single step leaves the stream as it is, or
gives the next token and moves on by one, and then that token is not the end
(`after_cases`); reading a type name is made of such steps (`typeName_snd`).  So whatever is
done, what has been handed out is what lies between two places in the list
(`unread_readAll`).  None of this depends on the list.

Where the stream stops does.  In the tokens of a text the end stands last and nowhere else
(`TokenList.Ended`), so a stream that stands at a token goes on to a token, and it is at
the end at the last one.  A stream that was kept stands at a token too, so going back to
it changes nothing of this (`Reader.Keeps.step`).
-/
import FrontEnd.Proofs.Reading
import FrontEnd.Typing.TypeName
import Mathlib.Control.Monad.Basic
import Mathlib.Logic.Function.Iterate

namespace FrontEnd

/-! ### Single steps -/

/-- What can be done with a stream at its next token. -/
inductive ReadStep
  | peek
  | peekNth (n : Nat)
  | check (kind : Kind)
  | atEnd
  | advance
  | eat (kind : Kind)
  | expect (kind : Kind)
deriving DecidableEq, Repr

namespace TokenStream

/-- The stream after a step.  Looking ahead gives no other stream. -/
def after (s : TokenStream) : ReadStep → TokenStream
  | .peek | .peekNth _ | .check _ | .atEnd => s
  | .advance => s.advance.2
  | .eat kind => (s.eat kind).2
  | .expect kind => (s.expect kind).2

/-- The token that a step reads, as its answer tells.  To eat a token answers that it was
there. -/
def given? (s : TokenStream) : ReadStep → Option Token
  | .peek | .peekNth _ | .check _ | .atEnd => none
  | .advance => s.advance.1
  | .eat kind => if (s.eat kind).1 then s.peek else none
  | .expect kind => (s.expect kind).1.toOption

/-- The tokens that a step hands out: the one that it reads, if the stream has moved. -/
def handed (s : TokenStream) (step : ReadStep) : List Token :=
  if s.after step = s then [] else (s.given? step).toList

/-- The stream after some steps. -/
def readAll (s : TokenStream) (steps : List ReadStep) : TokenStream := steps.foldl after s

/-- The tokens that some steps hand out, in order. -/
def handedAll : TokenStream → List ReadStep → List Token
  | _, [] => []
  | s, step :: steps => s.handed step ++ (s.after step).handedAll steps

/-- The steps that make up the reading of a type name: none unless a type stands next, and those
for the brackets only if one is opened. -/
def typeNameSteps (s : TokenStream) : List ReadStep :=
  match s.peek.map Token.typeName with
  | some (.ok _) =>
    if (s.advance.2.eat (.punctuator .lbracket)).1 then
      [.advance, .eat (.punctuator .lbracket), .expect (.punctuator .rbracket)]
    else [.advance]
  | _ => []

/-- The tokens that have not been read. -/
def unread (s : TokenStream) : List Token := s.tokens.drop s.index

variable {s : TokenStream} {tokens : TokenList}

theorem atEnd_of_none (h : s.peek = none) : s.atEnd = true := by
  rw [atEnd, check, peekKind, h]
  rfl

theorem atEnd_of_some {token : Token} (h : s.peek = some token) :
    s.atEnd = true ↔ token.kind = .eof := by
  rw [atEnd, check, peekKind, h, beq_iff_eq]

/-- The end is given but not passed, and any other token is passed. -/
theorem advance_cases (s : TokenStream) :
    (s.atEnd = true ∧ s.advance = (s.peek, s)) ∨
      ∃ token, s.peek = some token ∧ token.kind ≠ .eof ∧
        s.advance = (some token, { s with index := s.index + 1 }) := by
  by_cases hend : s.atEnd = true
  · exact .inl ⟨hend, by rw [advance, if_pos hend]⟩
  · cases hpeek : s.peek with
    | none => exact absurd (atEnd_of_none hpeek) hend
    | some token =>
      refine .inr ⟨token, rfl, mt (atEnd_of_some hpeek).2 hend, ?_⟩
      rw [advance, if_neg hend, hpeek]

theorem eat_of_check {kind : Kind} (h : s.check kind = true) :
    s.eat kind = (true, s.advance.2) := by
  rw [eat, if_pos h]

theorem eat_of_not_check {kind : Kind} (h : ¬ s.check kind = true) : s.eat kind = (false, s) := by
  rw [eat, if_neg h]

/-- An expected token is the next one, or there is an error and nothing is read. -/
theorem expect_cases (s : TokenStream) (kind : Kind) :
    (∃ token, s.peek = some token ∧ s.expect kind = (.ok token, s.advance.2)) ∨
      ∃ unexpected, s.expect kind = (.error unexpected, s) := by
  unfold expect
  cases s.peek with
  | none => exact .inr ⟨_, rfl⟩
  | some token =>
    by_cases hkind : token.kind = kind
    · exact .inl ⟨token, rfl, if_pos hkind⟩
    · exact .inr ⟨_, if_neg hkind⟩

/-- A step does nothing to the stream, or it reads the next token. -/
theorem after_eq_or (s : TokenStream) (step : ReadStep) :
    s.after step = s ∨ s.after step = s.advance.2 ∧ s.given? step = s.peek := by
  cases step with
  | peek => exact .inl rfl
  | peekNth n => exact .inl rfl
  | check kind => exact .inl rfl
  | atEnd => exact .inl rfl
  | advance => exact .inr ⟨rfl, rfl⟩
  | eat kind =>
    by_cases hcheck : s.check kind = true
    · refine .inr ⟨?_, ?_⟩
      · rw [after, eat_of_check hcheck]
      · rw [given?, eat_of_check hcheck, if_pos rfl]
    · exact .inl (by rw [after, eat_of_not_check hcheck])
  | expect kind =>
    rcases s.expect_cases kind with ⟨token, hpeek, hexpect⟩ | ⟨unexpected, hexpect⟩
    · refine .inr ⟨?_, ?_⟩
      · rw [after, hexpect]
      · rw [given?, hexpect, hpeek]
        rfl
    · exact .inl (by rw [after, hexpect])

/-- **What a step can do.**  It leaves the stream as it is, or it gives the next token, which is
not the end, and moves on by one. -/
theorem after_cases (s : TokenStream) (step : ReadStep) :
    s.after step = s ∨
      ∃ token, s.peek = some token ∧ token.kind ≠ .eof ∧ s.given? step = some token ∧
        s.after step = { s with index := s.index + 1 } := by
  rcases s.after_eq_or step with hstay | ⟨hafter, hgiven⟩
  · exact .inl hstay
  · rcases s.advance_cases with ⟨-, hadvance⟩ | ⟨token, hpeek, hkind, hadvance⟩
    · exact .inl (by rw [hafter, hadvance])
    · exact .inr ⟨token, hpeek, hkind, hgiven.trans hpeek, by rw [hafter, hadvance]⟩

theorem tokens_after (s : TokenStream) (step : ReadStep) : (s.after step).tokens = s.tokens := by
  rcases s.after_cases step with hstay | ⟨_, -, -, -, hafter⟩
  · rw [hstay]
  · rw [hafter]

theorem index_le_after (s : TokenStream) (step : ReadStep) : s.index ≤ (s.after step).index := by
  rcases s.after_cases step with hstay | ⟨_, -, -, -, hafter⟩
  · exact Nat.le_of_eq (congrArg TokenStream.index hstay.symm)
  · rw [hafter]
    exact Nat.le_succ s.index

/-- What a step hands out stands before what is left to read. -/
theorem unread_after (s : TokenStream) (step : ReadStep) :
    s.unread = s.handed step ++ (s.after step).unread := by
  rcases s.after_cases step with hstay | ⟨token, hpeek, -, hgiven, hafter⟩
  · rw [handed, if_pos hstay, hstay, List.nil_append]
  · have hmoved : s.after step ≠ s := by
      intro hsame
      have hindex := congrArg TokenStream.index (hafter.symm.trans hsame)
      exact Nat.succ_ne_self _ hindex
    obtain ⟨hlt, htoken⟩ := List.getElem?_eq_some_iff.1 hpeek
    rw [handed, if_neg hmoved, hgiven, hafter, unread, List.drop_eq_getElem_cons hlt, htoken]
    rfl

/-! ### Runs of steps -/

/-- What single steps keep of a stream, runs of them keep. -/
theorem of_readAll {P : TokenStream → Prop} (hP : ∀ s step, P s → P (s.after step)) (h : P s)
    (steps : List ReadStep) : P (s.readAll steps) := by
  induction steps generalizing s with
  | nil => exact h
  | cons step steps ih => exact ih (hP s step h)

theorem index_le_readAll (s : TokenStream) (steps : List ReadStep) :
    s.index ≤ (s.readAll steps).index := by
  induction steps generalizing s with
  | nil => exact Nat.le_refl _
  | cons step steps ih => exact Nat.le_trans (s.index_le_after step) (ih (s.after step))

theorem unread_readAll (s : TokenStream) (steps : List ReadStep) :
    s.unread = s.handedAll steps ++ (s.readAll steps).unread := by
  induction steps generalizing s with
  | nil => rfl
  | cons step steps ih =>
    rw [handedAll, List.append_assoc, s.unread_after step, ih (s.after step)]
    rfl

/-- The reading of a type name is a run of steps, also where it ends in an error. -/
theorem typeName_snd (s : TokenStream) : s.typeName.2 = s.readAll s.typeNameSteps := by
  unfold typeName typeNameSteps
  cases hpeek : s.peek with
  | none => rfl
  | some token =>
    cases htype : token.typeName with
    | error fault => simp [htype, readAll]
    | ok type =>
      by_cases hcheck : s.advance.2.check (.punctuator .lbracket) = true
      · rcases s.advance.2.advance.2.expect_cases (.punctuator .rbracket) with
          ⟨_, -, hexpect⟩ | ⟨_, hexpect⟩ <;>
        simp [htype, readAll, after, eat_of_check hcheck, hexpect]
      · simp [htype, readAll, after, eat_of_not_check hcheck]

end TokenStream

/-! ### Lists with an end -/

/-- The last token is the end, and no other token is. -/
def TokenList.Ended (tokens : TokenList) : Prop :=
  ∃ front last, tokens = front ++ [last] ∧ last.kind = .eof ∧ ∀ token ∈ front, token.kind ≠ .eof

theorem ended_of_tokenize {source file : String} {before : Nat} {tokens : TokenList}
    (h : tokenize source file before = .ok tokens) : tokens.Ended := by
  obtain ⟨stretches, -, hs, rfl⟩ := scan_eq_ok_iff.1 (tokenize_eq_ok_iff.1 h)
  refine ⟨_, _, rfl, rfl, fun token htoken => ?_⟩
  obtain ⟨text, behind, hlexeme⟩ := exists_lexeme_of_mem_tokensOf hs htoken
  exact hlexeme.kind_ne_eof

theorem TokenList.Ended.getLast? {tokens : TokenList} (h : tokens.Ended) :
    ∃ last, tokens.getLast? = some last ∧ last.kind = .eof := by
  obtain ⟨front, last, rfl, hlast, -⟩ := h
  exact ⟨last, List.getLast?_concat, hlast⟩

/-- A token is the end if and only if it is the last one. -/
theorem TokenList.Ended.kind_eq_eof_iff {tokens : TokenList} (h : tokens.Ended) {i : Nat}
    {token : Token} (htoken : tokens[i]? = some token) :
    token.kind = .eof ↔ i + 1 = tokens.length := by
  obtain ⟨front, last, rfl, hlast, hfront⟩ := h
  rw [List.length_append, List.length_singleton, Nat.add_right_cancel_iff]
  constructor
  · intro hkind
    by_contra hne
    have hlt : i < front.length := by
      have hle := (List.getElem?_eq_some_iff.1 htoken).1
      rw [List.length_append, List.length_singleton] at hle
      omega
    rw [List.getElem?_append_left hlt] at htoken
    exact hfront token (List.mem_of_getElem? htoken) hkind
  · rintro rfl
    rw [List.getElem?_concat_length, Option.some.injEq] at htoken
    rw [← htoken]
    exact hlast

/-! ### Streams at a token -/

namespace TokenStream

/-- The stream is over the list, and stands at one of its tokens. -/
structure Within (s : TokenStream) (tokens : TokenList) : Prop where
  tokens_eq : s.tokens = tokens
  index_lt : s.index < tokens.length

variable {s : TokenStream} {tokens : TokenList}

theorem Within.exists_token (h : s.Within tokens) :
    ∃ token, s.peek = some token ∧ tokens[s.index]? = some token := by
  have htoken := List.getElem?_eq_getElem h.index_lt
  refine ⟨_, ?_, htoken⟩
  rw [peek, h.tokens_eq, htoken]

theorem Within.unread_eq (h : s.Within tokens) : s.unread = tokens.drop s.index := by
  rw [unread, h.tokens_eq]

theorem Within.atEnd_iff (h : s.Within tokens) (hended : tokens.Ended) :
    s.atEnd = true ↔ s.index + 1 = tokens.length := by
  obtain ⟨token, hpeek, htoken⟩ := h.exists_token
  rw [atEnd_of_some hpeek, hended.kind_eq_eof_iff htoken]

/-- A step never goes behind the end. -/
theorem Within.after (h : s.Within tokens) (hended : tokens.Ended) (step : ReadStep) :
    (s.after step).Within tokens := by
  refine ⟨(s.tokens_after step).trans h.tokens_eq, ?_⟩
  rcases s.after_cases step with hstay | ⟨token, hpeek, hkind, -, hafter⟩
  · rw [hstay]
    exact h.index_lt
  · rw [peek, h.tokens_eq] at hpeek
    -- a token that is passed is not the end, and so not the last
    have hnotLast := mt (hended.kind_eq_eof_iff hpeek).2 hkind
    have hlt := h.index_lt
    rw [hafter]
    show s.index + 1 < tokens.length
    omega

/-! ### Reading up to the end -/

/-- The stream after so many tokens have been asked for. -/
def advanced (s : TokenStream) (n : Nat) : TokenStream :=
  (fun t : TokenStream => t.advance.2)^[n] s

theorem advanced_succ (s : TokenStream) (n : Nat) :
    s.advanced (n + 1) = (s.advanced n).advance.2 :=
  Function.iterate_succ_apply' _ n s

/-- Asking for a token gives the next one, and goes on unless that is the last. -/
theorem Within.advance_eq (h : s.Within tokens) (hended : tokens.Ended) :
    s.advance = (tokens[s.index]?, ⟨tokens, min (s.index + 1) (tokens.length - 1)⟩) := by
  obtain ⟨htokens, hlt⟩ := h
  have hend := Within.atEnd_iff ⟨htokens, hlt⟩ hended
  subst htokens
  rcases s.advance_cases with ⟨hat, hadvance⟩ | ⟨token, hpeek, hkind, hadvance⟩
  · have hindex : min (s.index + 1) (s.tokens.length - 1) = s.index := by
      have hlast := hend.1 hat
      omega
    rw [hadvance, hindex]
    rfl
  · have hindex : min (s.index + 1) (s.tokens.length - 1) = s.index + 1 := by
      have hnotLast := mt hend.2 (mt (atEnd_of_some hpeek).1 hkind)
      omega
    rw [hadvance, hindex, ← hpeek]
    rfl

/-- Asking again and again goes on up to the last token and stays there. -/
theorem Within.advanced_eq (h : s.Within tokens) (hended : tokens.Ended) (n : Nat) :
    s.advanced n = ⟨tokens, min (s.index + n) (tokens.length - 1)⟩ := by
  have hlt := h.index_lt
  induction n with
  | zero =>
    have hindex : min (s.index + 0) (tokens.length - 1) = s.index := by omega
    rw [hindex, ← h.tokens_eq]
    rfl
  | succ n ih =>
    have hwithin : (s.advanced n).Within tokens := by
      rw [ih]
      refine ⟨rfl, ?_⟩
      show min (s.index + n) (tokens.length - 1) < tokens.length
      omega
    have hindex : min (min (s.index + n) (tokens.length - 1) + 1) (tokens.length - 1) =
        min (s.index + (n + 1)) (tokens.length - 1) := by
      omega
    rw [advanced_succ, hwithin.advance_eq hended, ih, hindex]

theorem Within.advanced (h : s.Within tokens) (hended : tokens.Ended) (n : Nat) :
    (s.advanced n).Within tokens := by
  have hlt := h.index_lt
  rw [h.advanced_eq hended]
  refine ⟨rfl, ?_⟩
  show min (s.index + n) (tokens.length - 1) < tokens.length
  omega

end TokenStream

/-! ### Readers -/

/-- What can be done with a stream, and with the streams that have been kept of it. -/
inductive StreamStep
  | read (step : ReadStep)
  | typeName
  /-- Keeps the stream as it is. -/
  | save
  /-- Goes back to the `n`th of the kept streams, the latest first. -/
  | restore (n : Nat)
deriving DecidableEq, Repr

/-- A stream, and the streams that have been kept of it, the latest first. -/
structure Reader where
  stream : TokenStream
  kept : List TokenStream
deriving DecidableEq, Repr

namespace Reader

/-- A reader at the start of a list. -/
def start (tokens : TokenList) : Reader := ⟨.ofList tokens, []⟩

/-- The reader after a step.  There is nowhere to go back to before a stream has been kept. -/
def step (r : Reader) : StreamStep → Reader
  | .read step => { r with stream := r.stream.after step }
  | .typeName => { r with stream := r.stream.typeName.2 }
  | .save => { r with kept := r.stream :: r.kept }
  | .restore n => { r with stream := r.kept[n]?.getD r.stream }

/-- The tokens that a step hands out. -/
def handed (r : Reader) : StreamStep → List Token
  | .read step => r.stream.handed step
  | .typeName => r.stream.handedAll r.stream.typeNameSteps
  | .save | .restore _ => []

/-- The reader after some steps. -/
def run (r : Reader) (steps : List StreamStep) : Reader := steps.foldl step r

/-- The tokens that some steps hand out, in order. -/
def handedAll : Reader → List StreamStep → List Token
  | _, [] => []
  | r, step :: steps => r.handed step ++ (r.step step).handedAll steps

/-- The stream and all that have been kept of it are of one kind. -/
structure Keeps (r : Reader) (P : TokenStream → Prop) : Prop where
  stream : P r.stream
  kept : ∀ s ∈ r.kept, P s

/-- The stream and all that have been kept of it stand at tokens of the list. -/
structure Within (r : Reader) (tokens : TokenList) : Prop where
  stream : r.stream.Within tokens
  kept : ∀ s ∈ r.kept, s.Within tokens

variable {r : Reader} {tokens : TokenList}

/-- What single steps keep of a stream, the steps of a reader keep of all its streams. -/
theorem Keeps.step {P : TokenStream → Prop} (hP : ∀ s step, P s → P (s.after step))
    (h : r.Keeps P) (step : StreamStep) : (r.step step).Keeps P := by
  cases step with
  | read step => exact ⟨hP r.stream step h.stream, h.kept⟩
  | typeName =>
    refine ⟨?_, h.kept⟩
    show P r.stream.typeName.2
    -- a type name is read by single steps
    rw [TokenStream.typeName_snd]
    exact TokenStream.of_readAll hP h.stream _
  | save => exact ⟨h.stream, List.forall_mem_cons.2 ⟨h.stream, h.kept⟩⟩
  | restore n =>
    refine ⟨?_, h.kept⟩
    show P (r.kept[n]?.getD r.stream)
    cases hkept : r.kept[n]? with
    | none => exact h.stream
    | some s => exact h.kept s (List.mem_of_getElem? hkept)

theorem Keeps.run {P : TokenStream → Prop} (hP : ∀ s step, P s → P (s.after step))
    (h : r.Keeps P) (steps : List StreamStep) : (r.run steps).Keeps P := by
  induction steps generalizing r with
  | nil => exact h
  | cons step steps ih => exact ih (h.step hP step)

theorem within_start (hended : tokens.Ended) : (start tokens).Within tokens where
  stream := by
    obtain ⟨front, last, rfl, -, -⟩ := hended
    exact ⟨rfl, by simp [start, TokenStream.ofList]⟩
  kept := List.forall_mem_nil _

theorem Within.run (h : r.Within tokens) (hended : tokens.Ended) (steps : List StreamStep) :
    (r.run steps).Within tokens := by
  have hkeeps : r.Keeps (·.Within tokens) := ⟨h.stream, h.kept⟩
  obtain ⟨hstream, hkept⟩ := hkeeps.run (fun _ step hs => hs.after hended step) steps
  exact ⟨hstream, hkept⟩

/-- Whatever does not go back goes on, or stays. -/
theorem index_le_step (r : Reader) {step : StreamStep} (h : ∀ n, step ≠ .restore n) :
    r.stream.index ≤ (r.step step).stream.index := by
  cases step with
  | read step => exact r.stream.index_le_after step
  | typeName =>
    show r.stream.index ≤ r.stream.typeName.2.index
    rw [TokenStream.typeName_snd]
    exact r.stream.index_le_readAll _
  | save => exact Nat.le_refl _
  | restore n => exact absurd rfl (h n)

theorem unread_step (r : Reader) {step : StreamStep} (h : ∀ n, step ≠ .restore n) :
    r.stream.unread = r.handed step ++ (r.step step).stream.unread := by
  cases step with
  | read step => exact r.stream.unread_after step
  | typeName =>
    show r.stream.unread = r.stream.handedAll _ ++ r.stream.typeName.2.unread
    rw [TokenStream.typeName_snd]
    exact r.stream.unread_readAll _
  | save => rfl
  | restore n => exact absurd rfl (h n)

/-- What is handed out without going back stands before what is left to read. -/
theorem unread_run (r : Reader) {steps : List StreamStep}
    (h : ∀ n, StreamStep.restore n ∉ steps) :
    r.stream.unread = r.handedAll steps ++ (r.run steps).stream.unread := by
  induction steps generalizing r with
  | nil => rfl
  | cons step steps ih =>
    have hstep : ∀ n, step ≠ .restore n := fun n hn => h n (hn ▸ List.mem_cons_self)
    have hsteps : ∀ n, StreamStep.restore n ∉ steps := fun n hn =>
      h n (List.mem_cons_of_mem step hn)
    rw [handedAll, List.append_assoc, r.unread_step hstep, ih (r.step step) hsteps]
    rfl

/-! ### Reading in order -/

/-- The stream stands at a token, and from there on the list is read in order up to its end. -/
structure ReadsInOrder (r : Reader) (tokens : TokenList) : Prop where
  index_lt : r.stream.index < tokens.length
  /-- There is always a next token. -/
  exists_peek : ∃ token, r.stream.peek = some token ∧ tokens[r.stream.index]? = some token
  atEnd_iff : r.stream.atEnd = true ↔ r.stream.index + 1 = tokens.length
  /-- Nothing but going back makes the position smaller. -/
  index_le : ∀ step, (∀ n, step ≠ .restore n) → r.stream.index ≤ (r.step step).stream.index
  /-- Whatever is done without going back hands out the tokens up to the new position. -/
  handed_eq : ∀ later, (∀ n, StreamStep.restore n ∉ later) →
    tokens.drop r.stream.index =
      r.handedAll later ++ tokens.drop (r.run later).stream.index
  eat_stays : ∀ kind, (r.stream.eat kind).1 = false → (r.stream.eat kind).2 = r.stream
  expect_stays : ∀ kind unexpected, (r.stream.expect kind).1 = .error unexpected →
    (r.stream.expect kind).2 = r.stream
  /-- As many steps as there are tokens before the end each give one of them and move. -/
  advance_before_end : ∀ n < tokens.length - 1 - r.stream.index,
    (r.stream.advanced n).atEnd = false ∧
      (r.stream.advanced n).advance =
        (tokens[r.stream.index + n]?, r.stream.advanced (n + 1)) ∧
      (r.stream.advanced (n + 1)).index = (r.stream.advanced n).index + 1
  /-- From then on every step gives the end and stays. -/
  advance_at_end : ∀ n ≥ tokens.length - 1 - r.stream.index,
    (r.stream.advanced n).atEnd = true ∧
      ∃ last, tokens.getLast? = some last ∧ last.kind = .eof ∧
        (r.stream.advanced n).advance = (some last, r.stream.advanced n)

end Reader

namespace TokenStream

variable {s : TokenStream} {tokens : TokenList}

theorem eat_stays {kind : Kind} (h : (s.eat kind).1 = false) : (s.eat kind).2 = s := by
  by_cases hcheck : s.check kind = true
  · rw [eat_of_check hcheck] at h
    cases h
  · rw [eat_of_not_check hcheck]

theorem expect_stays {kind : Kind} {unexpected : Unexpected}
    (h : (s.expect kind).1 = .error unexpected) : (s.expect kind).2 = s := by
  rcases s.expect_cases kind with ⟨token, -, hexpect⟩ | ⟨other, hexpect⟩
  · rw [hexpect] at h
    cases h
  · rw [hexpect]

theorem Within.advance_before_end (h : s.Within tokens) (hended : tokens.Ended) {n : Nat}
    (hn : n < tokens.length - 1 - s.index) :
    (s.advanced n).atEnd = false ∧
      (s.advanced n).advance = (tokens[s.index + n]?, s.advanced (n + 1)) ∧
      (s.advanced (n + 1)).index = (s.advanced n).index + 1 := by
  have hwithin := h.advanced hended n
  have hindex : (s.advanced n).index = s.index + n := by
    rw [h.advanced_eq hended]
    show min (s.index + n) (tokens.length - 1) = s.index + n
    omega
  have hnext : (s.advanced (n + 1)).index = s.index + (n + 1) := by
    rw [h.advanced_eq hended]
    show min (s.index + (n + 1)) (tokens.length - 1) = s.index + (n + 1)
    omega
  have hbefore : ¬ (s.advanced n).atEnd = true := by
    rw [hwithin.atEnd_iff hended, hindex]
    omega
  refine ⟨Bool.eq_false_iff.2 hbefore, ?_, ?_⟩
  · rw [advanced_succ, hwithin.advance_eq hended, hindex]
  · rw [hnext, hindex, Nat.add_assoc]

theorem Within.advance_at_end (h : s.Within tokens) (hended : tokens.Ended) {n : Nat}
    (hn : tokens.length - 1 - s.index ≤ n) :
    (s.advanced n).atEnd = true ∧
      ∃ last, tokens.getLast? = some last ∧ last.kind = .eof ∧
        (s.advanced n).advance = (some last, s.advanced n) := by
  obtain ⟨last, hlast, hkind⟩ := hended.getLast?
  have hwithin := h.advanced hended n
  have hlt := hwithin.index_lt
  have hindex : (s.advanced n).index = tokens.length - 1 := by
    rw [h.advanced_eq hended]
    show min (s.index + n) (tokens.length - 1) = tokens.length - 1
    omega
  have hstays : min (tokens.length - 1 + 1) (tokens.length - 1) = tokens.length - 1 := by omega
  have hsame : (⟨tokens, tokens.length - 1⟩ : TokenStream) = s.advanced n := by
    rw [← hindex, ← hwithin.tokens_eq]
  refine ⟨?_, last, hlast, hkind, ?_⟩
  · rw [hwithin.atEnd_iff hended]
    omega
  · rw [hwithin.advance_eq hended, hindex, hstays, hsame, ← List.getLast?_eq_getElem?, hlast]

end TokenStream

namespace Reader

variable {r : Reader} {tokens : TokenList}

theorem Within.readsInOrder (h : r.Within tokens) (hended : tokens.Ended) :
    r.ReadsInOrder tokens where
  index_lt := h.stream.index_lt
  exists_peek := h.stream.exists_token
  atEnd_iff := h.stream.atEnd_iff hended
  index_le _ hstep := r.index_le_step hstep
  handed_eq later hlater := by
    have hunread := r.unread_run hlater
    rwa [h.stream.unread_eq, (h.run hended later).stream.unread_eq] at hunread
  eat_stays _ := TokenStream.eat_stays
  expect_stays _ _ := TokenStream.expect_stays
  advance_before_end _ := h.stream.advance_before_end hended
  advance_at_end _ := h.stream.advance_at_end hended

/-- **The tokens of a text are read in order.**  Whatever has been done with a stream over them,
it stands at a token, hands out the tokens one after the other, and stops at the end. -/
theorem readsInOrder_of_tokenize {source file : String} {before : Nat} {tokens : TokenList}
    (h : tokenize source file before = .ok tokens) (steps : List StreamStep) :
    ((start tokens).run steps).ReadsInOrder tokens :=
  have hended := ended_of_tokenize h
  ((within_start hended).run hended steps).readsInOrder hended

/-- The type is not closed, which is found behind two of its tokens; then the reader goes back to
where it was before, and the end is eaten but not passed. -/
theorem readsInOrder_openArray :
    let tokens : TokenList := [⟨.keyword .integerKw, none, ⟨1, 7⟩⟩,
      ⟨.punctuator .lbracket, none, ⟨1, 8⟩⟩, ⟨.identifier, some "x", ⟨1, 10⟩⟩,
      ⟨.eof, none, ⟨1, 10⟩⟩]
    let steps : List StreamStep := [.save, .typeName, .read .advance, .read (.eat .eof),
      .restore 0, .typeName]
    tokenize "integer[ x" "a.k" 2 = .ok tokens ∧
      ((start tokens).run steps).stream.index = 2 ∧
      ((start tokens).run steps).ReadsInOrder tokens := by
  intro tokens steps
  have h : tokenize "integer[ x" "a.k" 2 = .ok tokens := by decide +kernel
  exact ⟨h, by decide +kernel, readsInOrder_of_tokenize h steps⟩

end Reader

end FrontEnd
