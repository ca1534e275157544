/-
FrontEnd/Proofs/Lookahead.lean

Looking ahead shows the token that reading on arrives at.

The two stop at the end of the list in different ways.  Looking ahead falls back to the last
token wherever the list is too short.  Reading asks at each token whether it is the end,
and does not go on if it is.  These come to the same only because the end stands last and
nowhere else: then both show the token at the smaller of two places, the one asked for and
the last one (`Within.peekNth_eq`, `Within.peek_advanced`).

A list without tokens has no end to stop at, and neither of the two ever shows a token there.
Main result: `peekNth_eq_peek_advanced`.
-/
import FrontEnd.Proofs.Streams

namespace FrontEnd

namespace TokenStream

variable {s : TokenStream} {tokens : TokenList}

/-! ### Lists with an end -/

/-- Looking ahead goes as far as the list does. -/
theorem Within.peekNth_eq (h : s.Within tokens) (n : Nat) :
    s.peekNth n = tokens[min (s.index + n) (tokens.length - 1)]? := by
  have hlt := h.index_lt
  rw [peekNth, h.tokens_eq]
  by_cases hn : s.index + n < tokens.length
  · -- the place is in the list, so there is nothing to fall back to
    have hplace : min (s.index + n) (tokens.length - 1) = s.index + n := by omega
    rw [hplace, List.getElem?_eq_getElem hn]
    rfl
  · have hplace : min (s.index + n) (tokens.length - 1) = tokens.length - 1 := by omega
    rw [hplace, List.getElem?_eq_none (Nat.not_lt.1 hn), ← List.getLast?_eq_getElem?]
    rfl

/-- Reading on goes as far as the list does. -/
theorem Within.peek_advanced (h : s.Within tokens) (hended : tokens.Ended) (n : Nat) :
    (s.advanced n).peek = tokens[min (s.index + n) (tokens.length - 1)]? := by
  rw [h.advanced_eq hended]
  rfl

/-! ### Lists without tokens -/

theorem peekNth_of_nil (h : s.tokens = []) (n : Nat) : s.peekNth n = none := by
  rw [peekNth, h]
  rfl

theorem peek_of_nil (h : s.tokens = []) : s.peek = none := by
  rw [peek, h]
  rfl

theorem tokens_advanced (s : TokenStream) (n : Nat) : (s.advanced n).tokens = s.tokens := by
  induction n with
  | zero => rfl
  | succ n ih =>
    rw [advanced_succ]
    exact ((s.advanced n).tokens_after .advance).trans ih

end TokenStream

namespace Reader

/-- No step changes the list. -/
theorem tokens_run (tokens : TokenList) (steps : List StreamStep) :
    ((start tokens).run steps).stream.tokens = tokens := by
  have hstart : (start tokens).Keeps fun s => s.tokens = tokens := ⟨rfl, List.forall_mem_nil _⟩
  have hsteps : ∀ (s : TokenStream) (step : ReadStep), s.tokens = tokens →
      (s.after step).tokens = tokens := by
    intro s step htokens
    exact (s.tokens_after step).trans htokens
  exact (hstart.run hsteps steps).stream

/-! ### Looking ahead and reading on -/

/-- **Looking ahead shows what reading on arrives at.**  Whatever has been done with a stream over
the tokens of a text, or over none, and however far ahead: the token that is shown is the one
that stands next when as many tokens have been asked for. -/
theorem peekNth_eq_peek_advanced {tokens : TokenList}
    (h : tokens = [] ∨ ∃ source file before, tokenize source file before = .ok tokens)
    (steps : List StreamStep) (n : Nat) :
    ((start tokens).run steps).stream.peekNth n =
        (((start tokens).run steps).stream.advanced n).peek ∧
      ((start tokens).run steps).stream.peekNth n =
        tokens[min (((start tokens).run steps).stream.index + n) (tokens.length - 1)]? := by
  rcases h with rfl | ⟨source, file, before, htokenize⟩
  · -- without tokens nothing is shown, wherever the stream stands
    have htokens := tokens_run [] steps
    rw [TokenStream.peekNth_of_nil htokens,
      TokenStream.peek_of_nil ((TokenStream.tokens_advanced _ n).trans htokens)]
    exact ⟨rfl, rfl⟩
  · have hended := ended_of_tokenize htokenize
    have hwithin := ((within_start hended).run hended steps).stream
    rw [hwithin.peek_advanced hended, hwithin.peekNth_eq]
    exact ⟨rfl, rfl⟩

/-- In the middle of a text, as far ahead as any number goes, and in no text at all. -/
theorem peekNth_eq_peek_advanced_far :
    let tokens : TokenList := [⟨.identifier, some "x", ⟨1, 1⟩⟩, ⟨.punctuator .dot, none, ⟨1, 2⟩⟩,
      ⟨.identifier, some "y", ⟨1, 3⟩⟩, ⟨.eof, none, ⟨1, 3⟩⟩]
    let s := ((start tokens).run [.read .advance, .save, .read .advance, .restore 0]).stream
    let empty := ((start []).run [.read .advance, .typeName]).stream
    tokenize "x.y" "a.k" 2 = .ok tokens ∧ s.peekNth 1 = (s.advanced 1).peek ∧
      s.peekNth 18446744073709551615 = (s.advanced 18446744073709551615).peek ∧
      empty.peekNth 1 = (empty.advanced 1).peek := by
  intro tokens s empty
  have h : tokenize "x.y" "a.k" 2 = .ok tokens := by decide +kernel
  exact ⟨h, (peekNth_eq_peek_advanced (.inr ⟨_, _, _, h⟩) _ 1).1,
    (peekNth_eq_peek_advanced (.inr ⟨_, _, _, h⟩) _ 18446744073709551615).1,
    (peekNth_eq_peek_advanced (.inl rfl) _ 1).1⟩

/-- With a second token behind the end, looking ahead would pass the end. -/
example :
    let s := TokenStream.ofList [⟨.eof, none, ⟨1, 0⟩⟩, ⟨.number, some "1", ⟨1, 1⟩⟩]
    s.peekNth 1 ≠ (s.advanced 1).peek := by
  decide

end Reader

end FrontEnd
