/-
FrontEnd/Proofs/Cursors.lean

Where a cursor stands, whatever has been done with it.

A cursor can be asked what is next, moved by one character, or moved over a stretch of text.
All of these come to the same: a step skips some characters, none if it only looks, and
gives back what it has skipped (`exists_skip`).  Skipping moves the unread text, the
offset and the position together (`reads_skip`), and so does any run of steps (`reads_run`).

From the start of a text this says where the cursor stands: between two characters, at the
line and the column that the line index knows (`Reads.tracks`).

The end is the one thing that looking at the next characters does not show: NUL characters
behind a text look like no text at all (`nulLikeEnd`).

Main result: `tracks_run`.
-/
import FrontEnd.Proofs.Lines
import FrontEnd.Source.Cursor

namespace FrontEnd

/-! ### Copies of a character behind a text -/

theorem headD_append_replicate (text : List Char) (n : Nat) (x : Char) :
    (text ++ List.replicate n x).headD x = text.headD x := by
  cases text with
  | cons y rest => rfl
  | nil =>
    cases n with
    | zero => rfl
    | succ n => rfl

theorem tail_headD_append_replicate (text : List Char) (n : Nat) (x : Char) :
    (text ++ List.replicate n x).tail.headD x = text.tail.headD x := by
  cases text with
  | cons y rest => exact headD_append_replicate rest n x
  | nil =>
    rw [List.nil_append, List.tail_replicate]
    exact headD_append_replicate [] (n - 1) x

theorem takeWhile_append_replicate {x y : Char} (h : x ≠ y) (text : List Char) (n : Nat) :
    (text ++ List.replicate n y).takeWhile (· == x) = text.takeWhile (· == x) := by
  have hnone : (List.replicate n y).takeWhile (· == x) = [] := by
    cases n with
    | zero => rfl
    | succ n => exact List.takeWhile_cons_of_neg (by simpa using h.symm)
  rw [List.takeWhile_append, hnone, List.append_nil]
  split
  · next hlength => exact (List.takeWhile_prefix _).eq_of_length hlength |>.symm
  · rfl

/-! ### Steps -/

/-- What can be done with a cursor. -/
inductive CursorStep
  | bump
  | eat (x : Char)
  | eatWhile (p : Char → Bool)
  | current
  | peek
  | runLength (x : Char)

/-- Whether a step may move the cursor, and does not only look. -/
def CursorStep.moves : CursorStep → Bool
  | .bump | .eat _ | .eatWhile _ => true
  | .current | .peek | .runLength _ => false

namespace Cursor

/-- The cursor after a step.  Looking ahead gives no other cursor. -/
def after (c : Cursor) : CursorStep → Cursor
  | .bump => c.bump
  | .eat x => (c.eat x).2
  | .eatWhile p => (c.eatWhile p).2
  | .current | .peek | .runLength _ => c

/-- The text that a step gives back.  To eat a character answers that it was there, and the NUL
that a bump answers at the end is no text. -/
def handed (c : Cursor) : CursorStep → List Char
  | .bump => if c.atEnd then [] else [c.current]
  | .eat x => if (c.eat x).1 then [x] else []
  | .eatWhile p => (c.eatWhile p).1
  | .current | .peek | .runLength _ => []

/-- The cursor after some steps. -/
def run (c : Cursor) (steps : List CursorStep) : Cursor := steps.foldl after c

/-- The texts that some steps give back, one behind the other. -/
def handedAll : Cursor → List CursorStep → List Char
  | _, [] => []
  | c, step :: steps => c.handed step ++ (c.after step).handedAll steps

theorem run_append (c : Cursor) (steps more : List CursorStep) :
    c.run (steps ++ more) = (c.run steps).run more :=
  List.foldl_append

variable {c d : Cursor}

theorem atEnd_iff : c.atEnd = true ↔ c.unread = [] := List.isEmpty_iff

/-- A bump gives back the first unread character, if there is one. -/
theorem handed_bump (c : Cursor) : c.handed .bump = c.unread.take 1 := by
  unfold handed atEnd current
  cases c.unread with
  | nil => rfl
  | cons x rest => rfl

/-- A character is bumped over, or it does not stand next and nothing is read. -/
theorem eat_cases (c : Cursor) (x : Char) :
    (c.atEnd = false ∧ c.current = x) ∧ c.eat x = (true, c.bump) ∨
      ¬ (c.atEnd = false ∧ c.current = x) ∧ c.eat x = (false, c) := by
  by_cases h : (!c.atEnd && c.current == x) = true
  · exact .inl ⟨by simpa using h, if_pos h⟩
  · exact .inr ⟨by simpa using h, if_neg h⟩

theorem eat_eq_true_iff {x : Char} : (c.eat x).1 = true ↔ c.atEnd = false ∧ c.current = x := by
  rcases c.eat_cases x with ⟨hnext, heat⟩ | ⟨hnext, heat⟩
  · rw [heat]
    exact iff_of_true rfl hnext
  · rw [heat]
    exact iff_of_false Bool.false_ne_true hnext

/-- **What a step can do.**  It skips some characters and gives them back. -/
theorem exists_skip (c : Cursor) (step : CursorStep) :
    ∃ n, c.after step = c.skip n ∧ c.handed step = c.unread.take n := by
  cases step with
  | bump => exact ⟨1, rfl, c.handed_bump⟩
  | eat x =>
    rcases c.eat_cases x with ⟨⟨hend, hcurrent⟩, heat⟩ | ⟨-, heat⟩
    · -- the character that was asked for is the one that a bump gives back
      refine ⟨1, congrArg Prod.snd heat, ?_⟩
      rw [← c.handed_bump, handed, handed, heat, hend, hcurrent]
      rfl
    · refine ⟨0, congrArg Prod.snd heat, ?_⟩
      rw [handed, heat]
      rfl
  | eatWhile p => exact ⟨_, rfl, List.prefix_iff_eq_take.1 (List.takeWhile_prefix p)⟩
  | current => exact ⟨0, rfl, rfl⟩
  | peek => exact ⟨0, rfl, rfl⟩
  | runLength x => exact ⟨0, rfl, rfl⟩

/-! ### What is read between two cursors -/

/-- Skipping adds the bytes of exactly the text that was skipped. -/
theorem skip_offset (c : Cursor) (n : Nat) :
    (c.skip n).offset = c.offset + (String.ofList (c.unread.take n)).utf8ByteSize := by
  induction n generalizing c with
  | zero => rfl
  | succ n ih =>
    rw [skip, ih, bump_unread]
    cases h : c.unread with
    | nil =>
      -- at the end nothing is skipped and nothing is read
      have hbump : c.bump = c := by rw [bump, h]
      rw [hbump, List.tail_nil, List.take_nil, List.take_nil]
    | cons x rest =>
      have hbump : c.bump.offset = c.offset + x.utf8Size := by rw [bump, h]
      rw [hbump, List.tail_cons, List.take_succ_cons, String.ofList_cons,
        String.utf8ByteSize_append, String.utf8ByteSize_singleton, Nat.add_assoc]

/-- The text `text` stands between the places of two cursors. -/
structure Reads (c : Cursor) (text : List Char) (d : Cursor) : Prop where
  unread_eq : c.unread = text ++ d.unread
  offset_eq : d.offset = c.offset + (String.ofList text).utf8ByteSize
  position_eq : d.position = c.position.after text

theorem reads_skip (c : Cursor) (n : Nat) : c.Reads (c.unread.take n) (c.skip n) where
  unread_eq := by rw [skip_unread, List.take_append_drop]
  offset_eq := c.skip_offset n
  position_eq := c.skip_position n

theorem Reads.trans {e : Cursor} {text more : List Char} (h : c.Reads text d)
    (h' : d.Reads more e) : c.Reads (text ++ more) e where
  unread_eq := by rw [h.unread_eq, h'.unread_eq, List.append_assoc]
  offset_eq := by
    rw [h'.offset_eq, h.offset_eq, String.ofList_append, String.utf8ByteSize_append,
      Nat.add_assoc]
  position_eq := by rw [h'.position_eq, h.position_eq, Position.after_append]

/-- What a step gives back is what it has read. -/
theorem reads_after (c : Cursor) (step : CursorStep) :
    c.Reads (c.handed step) (c.after step) := by
  obtain ⟨n, hafter, hhanded⟩ := c.exists_skip step
  rw [hafter, hhanded]
  exact c.reads_skip n

/-- What some steps give back is what they have read. -/
theorem reads_run (c : Cursor) (steps : List CursorStep) :
    c.Reads (c.handedAll steps) (c.run steps) := by
  induction steps generalizing c with
  | nil => exact c.reads_skip 0
  | cons step steps ih => exact (c.reads_after step).trans (ih (c.after step))

theorem Reads.offset_le {text : List Char} (h : c.Reads text d) : c.offset ≤ d.offset := by
  rw [h.offset_eq]
  exact Nat.le_add_right _ _

/-! ### Looking changes nothing -/

theorem after_of_not_moves (c : Cursor) {step : CursorStep} (h : step.moves = false) :
    c.after step = c ∧ c.handed step = [] := by
  cases step with
  | bump | eat | eatWhile => cases h
  | current | peek | runLength => exact ⟨rfl, rfl⟩

/-- Steps that only look can be left out, of a run and of what it gives back. -/
theorem run_filter_moves (c : Cursor) (steps : List CursorStep) :
    c.run (steps.filter CursorStep.moves) = c.run steps ∧
      c.handedAll (steps.filter CursorStep.moves) = c.handedAll steps := by
  induction steps generalizing c with
  | nil => exact ⟨rfl, rfl⟩
  | cons step steps ih =>
    cases hmoves : step.moves with
    | true =>
      obtain ⟨hrun, hhanded⟩ := ih (c.after step)
      rw [List.filter_cons_of_pos hmoves]
      exact ⟨hrun, congrArg (c.handed step ++ ·) hhanded⟩
    | false =>
      -- the step stays where it is, so what follows is done from the same place
      obtain ⟨hafter, hnone⟩ := c.after_of_not_moves hmoves
      have hfilter : (step :: steps).filter CursorStep.moves = steps.filter CursorStep.moves :=
        List.filter_cons_of_neg (by rw [hmoves]; exact Bool.false_ne_true)
      have hrun : c.run (step :: steps) = c.run steps := congrArg (run · steps) hafter
      have hhanded : c.handedAll (step :: steps) = c.handedAll steps := by
        rw [handedAll, hnone, hafter, List.nil_append]
      rw [hfilter, hrun, hhanded]
      exact ih c

/-! ### The end and the NUL character -/

/-- The cursor with some NUL characters behind its text. -/
def padded (c : Cursor) (n : Nat) : Cursor :=
  { c with unread := c.unread ++ List.replicate n '\x00' }

/-- A NUL character that stands in the text looks like the end of the text.  What tells them
apart is to ask for the end, and nothing that is seen of the characters. -/
structure NulLikeEnd (c : Cursor) : Prop where
  /-- NUL is shown at the end, and before a NUL character. -/
  current_nul : c.current = '\x00' ↔ c.atEnd = true ∨ c.unread.head? = some '\x00'
  /-- The character after the current one is the one that a bump arrives at. -/
  peek_eq : c.peek = c.bump.current
  /-- NUL characters behind the text are not seen. -/
  current_padded : ∀ n, (c.padded n).current = c.current
  peek_padded : ∀ n, (c.padded n).peek = c.peek
  runLength_padded : ∀ n x, x ≠ '\x00' → (c.padded n).runLength x = c.runLength x
  /-- Behind a text that has been read they are told by the end alone. -/
  atEnd_padded : ∀ n, (c.padded n).atEnd = (c.atEnd && n == 0)
  /-- To count or to eat a character asks for the end first, so NUL is one like any other. -/
  runLength_pos : ∀ x, 0 < c.runLength x ↔ c.atEnd = false ∧ c.current = x
  eat_iff : ∀ x, (c.eat x).1 = true ↔ c.atEnd = false ∧ c.current = x

theorem nulLikeEnd (c : Cursor) : c.NulLikeEnd where
  current_nul := by
    unfold current atEnd
    cases c.unread with
    | nil => simp
    | cons x rest => simp
  peek_eq := by rw [current, bump_unread, peek]
  current_padded n := headD_append_replicate c.unread n '\x00'
  peek_padded n := tail_headD_append_replicate c.unread n '\x00'
  runLength_padded n x hx := congrArg List.length (takeWhile_append_replicate hx c.unread n)
  atEnd_padded n := by
    unfold atEnd padded
    cases c.unread with
    | nil => cases n <;> rfl
    | cons x rest => rfl
  runLength_pos x := by
    unfold runLength current atEnd
    cases c.unread with
    | nil => simp
    | cons y rest =>
      by_cases hy : y = x
      · simp [hy]
      · simp [hy]
  eat_iff _ := eat_eq_true_iff

example :
    (ofText ['\x00', 'x']).current = (ofText []).current ∧ (ofText ['\x00', 'x']).atEnd = false ∧
      (ofText []).atEnd = true := by
  decide

/-! ### Places in a source text -/

/-- What a cursor over a source text tells of its place, when it has read `text`. -/
structure Tracks (source : String) (text : List Char) (c : Cursor) : Prop where
  /-- The source text is what has been read and what is left. -/
  source_eq : source.toList = text ++ c.unread
  /-- The offset counts the bytes of what has been read. -/
  offset_eq : c.offset = (String.ofList text).utf8ByteSize
  /-- It never stands inside a character. -/
  boundary : String.Pos.Raw.IsValid source ⟨c.offset⟩
  line_eq : c.position.line = text.count '\n' + 1
  column_eq : c.position.column = (lastLine text).length
  line_le : c.position.line ≤ (LineIndex.ofText source).count
  /-- The line is in the line index, and the column in the line. -/
  column_le : ∃ line, (LineIndex.ofText source).line? c.position.line = some line ∧
    c.position.column ≤ line.length
  /-- The end is where all bytes have been read. -/
  atEnd_iff : c.atEnd = true ↔ c.offset = source.utf8ByteSize

theorem Reads.tracks {source : String} {text : List Char}
    (h : (ofText source.toList).Reads text c) : c.Tracks source text := by
  have hsource : source.toList = text ++ c.unread := h.unread_eq
  have hsplit : source = String.ofList text ++ String.ofList c.unread := by
    rw [← String.ofList_append, ← hsource, String.ofList_toList]
  have hoffset : c.offset = (String.ofList text).utf8ByteSize :=
    h.offset_eq.trans (Nat.zero_add _)
  have hposition : c.position = Position.start.after text := h.position_eq
  have hstart := after_start text
  exact {
    source_eq := hsource
    offset_eq := hoffset
    boundary := by
      refine String.Pos.Raw.isValid_iff_exists_append.2 ⟨_, _, hsplit, ?_⟩
      rw [hoffset]
      rfl
    line_eq := by rw [hposition, hstart]
    column_eq := by rw [hposition, hstart]
    line_le := by
      rw [hposition]
      exact LineIndex.after_line_le_count hsource
    column_le := by
      refine ⟨_, hposition ▸ LineIndex.line?_ofText_after hsource, ?_⟩
      rw [hposition, hstart, String.length_ofList, List.length_append]
      exact Nat.le_add_right _ _
    atEnd_iff := by
      have hsize : source.utf8ByteSize = c.offset + (String.ofList c.unread).utf8ByteSize := by
        rw [hoffset, ← String.utf8ByteSize_append, ← hsplit]
      have hempty : (String.ofList c.unread).utf8ByteSize = 0 ↔ c.unread = [] := by
        rw [String.utf8ByteSize_eq_zero_iff, String.ofList_eq_empty_iff]
      rw [Cursor.atEnd_iff, ← hempty, hsize]
      omega }

/-- **A cursor keeps its place.**  Whatever is done with a cursor over a source text, in any order:
it stands between two characters, at the line and the column of the text before it, which is
what the moving steps have given back; it never goes back; looking ahead changes nothing; and a
NUL character that stands next is told from the end by asking for the end alone. -/
theorem tracks_run (source : String) (steps : List CursorStep) :
    let start := ofText source.toList
    (start.run steps).Tracks source (start.handedAll steps) ∧
      (∀ more, (start.run steps).offset ≤ (start.run (steps ++ more)).offset) ∧
      start.run (steps.filter CursorStep.moves) = start.run steps ∧
      start.handedAll (steps.filter CursorStep.moves) = start.handedAll steps ∧
      (start.run steps).NulLikeEnd := by
  intro start
  obtain ⟨hrun, hhanded⟩ := start.run_filter_moves steps
  refine ⟨(start.reads_run steps).tracks, ?_, hrun, hhanded, nulLikeEnd _⟩
  intro more
  rw [run_append]
  exact ((start.run steps).reads_run more).offset_le

/-- Two bytes are one column, a newline starts a line, and a NUL character is text. -/
example :
    (ofText ['é', '\n', '\x00', 'a']).run
        [.bump, .peek, .eat 'x', .eat '\n', .eatWhile (· == '\x00'), .runLength 'a'] =
      ⟨['a'], 4, ⟨2, 1⟩⟩ := by
  decide

end Cursor

end FrontEnd
