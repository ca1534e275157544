/-
FrontEnd/Proofs/Anchors.lean

Where the diagnostic of a fault points.

A fault is reported at a place that the reading has reached, so its line is a line of
the text, its column lies in that line, and what stands from the column on is the
text behind the place (`line?_ofText_after`).  What is left is a property of the
grammar: the width of a fault, which is counted in characters that the literal
*stands for* rather than in characters of the source, never goes past the end of
the line (`Malformed.exists_marks`).  That holds because every such character is
written with at least one, behind the opening quote, and none of them is a newline.

`Anchored` collects what the diagnostic says of its line; `Fault.Marks` says
what the marked characters are, fault by fault.  The same characters may stand in the
line more than once, and a quote may open a literal or close it: which of them are
marked is told by the splitting of the whole text (`FaultAt`).
-/
import Mathlib.Control.Monad.Basic
import FrontEnd.Proofs.Lines
import FrontEnd.Proofs.Reading

namespace FrontEnd

/-! ### The marked text of a fault -/

/-- The marked text starts with the opening quote of a string, of which `body` has been read. -/
def OpensString (body : String) (marked behind : List Char) : Prop :=
  marked.head? = some '"' ∧
    ∃ text rest, Writes '"' body.toList text ∧ marked ++ behind = '"' :: (text ++ rest)

/-- `fault.Marks front marked behind`: the line of the fault is `front ++ marked ++ behind`, and
`marked` is the text that the fault is about.  A fault in a literal marks the opening quote and
as much behind it as has been read. -/
def Fault.Marks : Fault → List Char → List Char → List Char → Prop
  | .operatorRun c length, front, marked, behind =>
    isLogical c = true ∧ marked = List.replicate length c ∧
      front.getLast? ≠ some c ∧ behind.head? ≠ some c ∧
      (Fault.operatorRun c length).message =
        if marked.length = 1 then "Character '" ++ String.ofList marked ++ "' is not valid alone."
        else "Character sequence '" ++ String.ofList marked ++ "' is not valid."
  | .numberSuffix suffix, _, marked, behind =>
    startsWith isLetter marked = true ∧ (∀ c ∈ marked, isNamePart c = true) ∧
      startsWith isNamePart behind = false ∧
      (Fault.numberSuffix suffix).message =
        "Invalid numeric literal: a number cannot be followed by '" ++ String.ofList marked ++
          "'."
  | .characterCrowded _, front, marked, behind =>
    marked ≠ [] ∧ '\'' ∉ marked ∧ behind.head? = some '\'' ∧
      ∃ before c text, Writes '\'' [c] text ∧ front = before ++ '\'' :: text
  | .commentOpen, _, marked, _ => marked = ['/', '*']
  | .loneDollar, _, marked, _ => marked = ['$']
  | .strayCharacter c, _, marked, _ => marked = [c]
  | .stringLineBreak body, _, marked, behind => OpensString body marked behind
  | .stringOpen body, _, marked, behind => OpensString body marked behind
  | .stringEscape _ body, _, marked, behind => OpensString body marked behind
  | .characterEmpty, _, marked, _ => marked = ['\'']
  | .characterOpen, _, marked, _ => marked = ['\'']
  | .characterEscape _, _, marked, _ => marked = ['\'']

/-- Reading a text meets a fault at a place: the text splits into trivia and lexemes up to a
malformed rest, and the fault of the rest is reported so many characters behind its start.  The
rest of a literal starts with its opening quote, and that of a comment with its opening mark. -/
def FaultAt (source : String) (fault : Fault) (place : Position) : Prop :=
  ∃ stretches rest offset, source.toList = textOf stretches ++ rest ∧ Splits stretches rest ∧
    Malformed rest fault offset ∧
    place = Position.start.after (textOf stretches ++ rest.take offset)

/-- What a diagnostic with up to `before` lines before its own says of its place in a text. -/
structure Anchored (source : String) (before : Nat) (d : Diagnostic) : Prop where
  line_pos : 1 ≤ d.location.line
  line_le : d.location.line ≤ (LineIndex.ofText source).count
  /-- The context holds the lines by their numbers, the line of the place last. -/
  context_eq : d.context.map some =
    (List.range' (max 1 (d.location.line - before))
      (d.location.line + 1 - max 1 (d.location.line - before))).map
      (LineIndex.ofText source).line?
  /-- The width ends within the line, and marks the text that the fault is about, where reading
  meets the fault. -/
  marks : ∃ (fault : Fault) (line : String) (front marked behind : List Char),
    d.heading = .coded fault.code ∧ d.message = fault.message ∧
    (LineIndex.ofText source).line? d.location.line = some line ∧
    d.context.getLast? = some line ∧
    d.location.column + d.spanLength ≤ line.length ∧
    line.toList = front ++ marked ++ behind ∧
    front.length = d.location.column ∧ marked.length = d.spanLength ∧
    fault.Marks front marked behind ∧
    FaultAt source fault ⟨d.location.line, d.location.column⟩

/-! ### Literals stay on their line -/

section Writes

variable {quote : Char} {payload text : List Char}

/-- What is written between quotes takes at least as many characters as it stands for. -/
theorem Writes.length_le (h : Writes quote payload text) : payload.length ≤ text.length := by
  induction h with
  | nil => exact Nat.le_refl 0
  | plain _ _ _ _ ih => exact Nat.succ_le_succ ih
  | escape _ _ ih =>
    simp only [List.length_cons]
    omega

theorem Escapes.letter_ne_newline {letter c : Char} (hq : quote ≠ '\n')
    (h : Escapes quote letter c) : letter ≠ '\n' := by
  cases h with
  | newline | tab | backslash => decide
  | quote => exact hq

theorem Writes.newline_not_mem (hq : quote ≠ '\n') (h : Writes quote payload text) :
    '\n' ∉ text := by
  induction h with
  | nil => exact List.not_mem_nil
  | plain _ _ hn _ ih =>
    rintro (_ | ⟨_, hm⟩)
    · exact hn rfl
    · exact ih hm
  | @escape letter _ _ _ he _ ih =>
    rintro (_ | ⟨_, _ | ⟨_, hm⟩⟩)
    · exact he.letter_ne_newline hq rfl
    · exact ih hm

end Writes

/-! ### The marks of each fault -/

/-- A mark of one or more characters that starts with the first character of the line. -/
theorem exists_marked_of_head {line : List Char} {c : Char} {n : Nat}
    (hc : line.head? = some c) (hpos : 1 ≤ n) (hn : n ≤ line.length) :
    ∃ marked behind, line = marked ++ behind ∧ marked.length = n ∧ marked.head? = some c := by
  refine ⟨line.take n, line.drop n, (List.take_append_drop n line).symm, ?_, ?_⟩
  · rw [List.length_take, Nat.min_eq_left hn]
  · rw [List.head?_take, if_neg (by omega), hc]

/-- The marked text of a fault in a string, of which `text` has been read. -/
theorem exists_marked_string {payload text rest : List Char} (h : Writes '"' payload text) :
    ∃ marked behind, firstLine ('"' :: (text ++ rest)) = marked ++ behind ∧
      marked.length = max (String.ofList payload).length 1 ∧
      OpensString (String.ofList payload) marked behind := by
  have hline : firstLine ('"' :: (text ++ rest)) = '"' :: (text ++ firstLine rest) := by
    rw [firstLine_cons (by decide), firstLine_append (h.newline_not_mem (by decide))]
  -- the width counts what was read, which takes up no fewer characters in the text
  have hwidth : max (String.ofList payload).length 1 ≤ ('"' :: (text ++ firstLine rest)).length := by
    have hle := h.length_le
    rw [String.length_ofList, List.length_cons, List.length_append]
    omega
  obtain ⟨marked, behind, hm, hlength, hhead⟩ :=
    exists_marked_of_head rfl (Nat.le_max_right _ _) hwidth
  refine ⟨marked, behind, hline.trans hm, hlength, hhead, text, firstLine rest, ?_, hm.symm⟩
  rwa [String.toList_ofList]

/-- The marked text of a fault in a character literal that points at its opening quote. -/
theorem exists_marked_quote (rest : List Char) :
    ∃ marked behind, firstLine ('\'' :: rest) = marked ++ behind ∧ marked.length = max 1 1 ∧
      marked = ['\''] :=
  ⟨['\''], firstLine rest, firstLine_cons (by decide), rfl, rfl⟩

theorem not_startsWith_firstLine {p : Char → Bool} {rest : List Char}
    (h : startsWith p rest = false) : startsWith p (firstLine rest) = false := by
  obtain ⟨tail, ht⟩ := firstLine_prefix rest
  exact startsWith_of_append (ht ▸ h)

theorem head?_ne_of_not_startsWith {c : Char} {rest : List Char}
    (h : startsWith (· == c) rest = false) : rest.head? ≠ some c := fun hc => by
  simp [startsWith, hc] at h

/-- The last line of a text ends with what the text ends with, if anything. -/
theorem getLast?_lastLine_ne {text : List Char} {c : Char} (h : text.getLast? ≠ some c) :
    (lastLine text).getLast? ≠ some c := by
  intro hl
  obtain ⟨front, hf⟩ := lastLine_suffix text
  rw [← hf, List.getLast?_append, hl] at h
  exact h rfl

/-- **A fault marks text of its line.** -/
theorem Malformed.exists_marks {stretches : List Stretch} {rest : List Char} {fault : Fault}
    {offset : Nat} (hs : Splits stretches rest) (h : Malformed rest fault offset) :
    ∃ marked behind, firstLine (rest.drop offset) = marked ++ behind ∧
      marked.length = max fault.width 1 ∧
      fault.Marks (lastLine (textOf stretches ++ rest.take offset)) marked behind := by
  cases h with
  | @commentOpen text _ =>
    refine ⟨['/', '*'], firstLine text, ?_, rfl, rfl⟩
    rw [List.drop_zero, firstLine_cons (by decide), firstLine_cons (by decide)]
    rfl
  | stringLineBreak hw => exact exists_marked_string hw
  | stringOpen hw => exact exists_marked_string hw
  | stringEscape hw => exact exists_marked_string hw
  | characterEmpty => exact exists_marked_quote _
  | characterOpen => exact exists_marked_quote _
  | characterEscape => exact exists_marked_quote _
  | characterUnclosed => exact exists_marked_quote _
  | @characterCrowded c text extra rest hw hne hq hn =>
    have hbehind : ('\'' :: (text ++ extra ++ '\'' :: rest)).drop (1 + text.length) =
        extra ++ '\'' :: rest := by
      rw [Nat.add_comm, List.drop_succ_cons, List.append_assoc, List.drop_left]
    have hfront : ('\'' :: (text ++ extra ++ '\'' :: rest)).take (1 + text.length) =
        '\'' :: text := by
      rw [Nat.add_comm, List.take_succ_cons, List.append_assoc, List.take_left]
    -- the mark starts behind the character, which is still on the line of its quote
    have hquote : '\n' ∉ '\'' :: text := by
      rintro (_ | ⟨_, hm⟩)
      exact hw.newline_not_mem (by decide) hm
    have hpos := List.length_pos_iff.2 hne
    refine ⟨extra, '\'' :: firstLine rest, ?_, ?_, hne, hq, rfl, ?_⟩
    · rw [hbehind, firstLine_append hn, firstLine_cons (by decide)]
    · show extra.length = max extra.length 1
      omega
    · rw [hfront, lastLine_append hquote]
      exact ⟨_, c, text, hw, rfl⟩
  | @numberSuffix text suffix rest _ hl hp hstop =>
    -- a suffix is made of name characters, so it stays on the line
    have hn : '\n' ∉ suffix := fun hm => absurd (hp _ hm) (by decide +kernel)
    obtain ⟨x, tail, rfl, -⟩ := exists_cons_of_startsWith hl
    refine ⟨x :: tail, firstLine rest, ?_, ?_, hl, hp, not_startsWith_firstLine hstop, ?_⟩
    · rw [List.drop_left, firstLine_append hn]
    · show _ = max (String.ofList (x :: tail)).length 1
      rw [String.length_ofList, List.length_cons]
      omega
    · rfl
  | @loneDollar rest _ => exact ⟨['$'], firstLine rest, firstLine_cons (by decide), rfl, rfl⟩
  | @operatorRun c n rest hc hpos _ hstop =>
    have hn : '\n' ∉ List.replicate n c := by
      rw [List.mem_replicate]
      rintro ⟨-, rfl⟩
      exact absurd hc (by decide)
    obtain ⟨m, rfl⟩ := Nat.exists_eq_add_one.2 hpos
    refine ⟨List.replicate (m + 1) c, firstLine rest, ?_, ?_, hc, rfl, ?_, ?_, ?_⟩
    · rw [List.drop_zero, firstLine_append hn]
    · show _ = max (m + 1) 1
      rw [List.length_replicate]
      omega
    · -- that the run is whole on its left is known of the split only
      rw [List.take_zero, List.append_nil]
      exact getLast?_lastLine_ne (Splits.getLast?_ne hs hc)
    · exact head?_ne_of_not_startsWith (not_startsWith_firstLine hstop)
    · rw [List.length_replicate]
      rfl
  | @strayCharacter c rest hb =>
    have hn : c ≠ '\n' := by
      rintro rfl
      -- a line break is a blank, and no blank is a stray character
      exact absurd hb (by decide)
    exact ⟨[c], firstLine rest, firstLine_cons hn, rfl, rfl⟩

/-! ### The place of a diagnostic -/

/-- Where a text is cut, it can be cut further on. -/
theorem cut_further {text front rest : List Char} (h : text = front ++ rest) (n : Nat) :
    text = front ++ rest.take n ++ rest.drop n := by
  rw [List.append_assoc, List.take_append_drop, h]

/-- The lines up to a line end with it. -/
theorem getLast?_of_map_some_eq {index : LineIndex} {lines : List String} {first last : Nat}
    (hle : first ≤ last)
    (h : lines.map some = (List.range' first (last + 1 - first)).map index.line?) :
    lines.getLast?.map some = some (index.line? last) := by
  have hlength : last + 1 - first = last - first + 1 := by omega
  have hlast : first + 1 * (last - first) = last := by omega
  rw [← List.getLast?_map, h, hlength, List.range'_concat, hlast]
  simp

/-- The captured lines are lines of the text. -/
theorem Anchored.exists_line? {source : String} {before : Nat} {d : Diagnostic}
    (h : Anchored source before d) {line : String} (hline : line ∈ d.context) :
    ∃ n, (LineIndex.ofText source).line? n = some line := by
  have hmem : some line ∈ d.context.map some := List.mem_map_of_mem hline
  rw [h.context_eq] at hmem
  obtain ⟨n, -, hn⟩ := List.mem_map.1 hmem
  exact ⟨n, hn⟩

/-- The line of the place is the last one captured, and the mark ends on it. -/
theorem Anchored.exists_last_line {source : String} {before : Nat} {d : Diagnostic}
    (h : Anchored source before d) :
    ∃ line, (LineIndex.ofText source).line? d.location.line = some line ∧
      d.context.getLast? = some line ∧ d.location.column + d.spanLength ≤ line.length := by
  obtain ⟨-, line, -, -, -, -, -, hline, hlast, hend, -⟩ := h.marks
  exact ⟨line, hline, hlast, hend⟩

theorem Anchored.context_ne_nil {source : String} {before : Nat} {d : Diagnostic}
    (h : Anchored source before d) : d.context ≠ [] := by
  obtain ⟨line, -, hlast, -⟩ := h.exists_last_line
  intro hnil
  rw [hnil] at hlast
  cases hlast

/-- The diagnostic of a fault that is met behind some stretches is anchored. -/
theorem Splits.anchored {source file : String} {before : Nat} {stretches : List Stretch}
    {rest : List Char} {fault : Fault} {offset : Nat}
    (hsource : source.toList = textOf stretches ++ rest) (hs : Splits stretches rest)
    (hm : Malformed rest fault offset) :
    Anchored source before
      (LexicalFailure.diagnostic
        ⟨fault, Position.start.after (textOf stretches ++ rest.take offset)⟩
        source file before) := by
  -- the place of the fault is a cut of the source text, and the index knows the line of a cut
  let text := textOf stretches ++ rest.take offset
  have hcut : source.toList = text ++ rest.drop offset := cut_further hsource offset
  have hpos := LineIndex.after_line_pos text
  have hle := LineIndex.after_line_le_count hcut
  have hline := LineIndex.line?_ofText_after hcut
  have hwindow := LineIndex.window_map_some before hpos hle
  have hcolumn : (Position.start.after text).column = (lastLine text).length := by
    rw [after_start]
  obtain ⟨marked, behind, hmarked, hwidth, hmarks⟩ := hm.exists_marks hs
  refine ⟨hpos, hle, hwindow, fault, _, lastLine text, marked, behind, rfl, rfl, hline, ?_, ?_,
    ?_, ?_, hwidth, hmarks, stretches, rest, offset, hsource, hs, hm, rfl⟩
  · have hlast := getLast?_of_map_some_eq (by omega) hwindow
    rw [hline] at hlast
    obtain ⟨line, hl, he⟩ := Option.map_eq_some_iff.1 hlast
    rw [← he]
    exact hl
  · show (Position.start.after text).column + max fault.width 1 ≤ _
    rw [hcolumn, String.length_ofList, hmarked, List.length_append, List.length_append, hwidth]
    omega
  · rw [String.toList_ofList, hmarked, List.append_assoc]
  · exact hcolumn.symm

/-- The diagnostic of what stops the reading is anchored. -/
theorem anchored_of_scan_error {source : String} {failure : LexicalFailure} (file : String)
    (before : Nat) (h : scan source = .error failure) :
    Anchored source before (failure.diagnostic source file before) := by
  obtain ⟨stretches, rest, fault, offset, hsource, hs, hm, rfl⟩ := scan_eq_error_iff.1 h
  exact hs.anchored hsource hm

/-- **A diagnostic points into its text.**  Its line is a line of the text, its context holds the
lines up to that one, and its columns mark the text that the fault is about. -/
theorem anchored_of_tokenize_error {source file : String} {before : Nat} {d : Diagnostic}
    (h : tokenize source file before = .error d) : Anchored source before d := by
  obtain ⟨failure, hscan, rfl⟩ := tokenize_eq_error_iff.1 h
  exact anchored_of_scan_error file before hscan

/-- In the second line, two characters stand between the escape and the next quote. -/
theorem anchored_crowded :
    tokenize "x;\n\t'\\néß'" "m.k" 1 =
        .error ((Fault.characterCrowded 2).diagnostic ⟨"m.k", 2, 4⟩ ["x;", "\t'\\néß'"]) ∧
      Anchored "x;\n\t'\\néß'" 1
        ((Fault.characterCrowded 2).diagnostic ⟨"m.k", 2, 4⟩ ["x;", "\t'\\néß'"]) :=
  have h : tokenize "x;\n\t'\\néß'" "m.k" 1 =
      .error ((Fault.characterCrowded 2).diagnostic ⟨"m.k", 2, 4⟩ ["x;", "\t'\\néß'"]) := by
    decide +kernel
  ⟨h, anchored_of_tokenize_error h⟩

end FrontEnd
