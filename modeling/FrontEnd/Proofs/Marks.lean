/-
FrontEnd/Proofs/Marks.lean

The marks of a printed document, and the document without them.

`Mode.erase` goes over a text once, from the front, and drops every mark of its mode.
Whether it finds the marks that were printed, and no others, is a question of what may
stand beside what.  The marks of `debug` are written in ordinary characters, so half a
marker at the end of one text could be completed by the beginning of the next.  It is not:
behind the last text of a line stands a newline, behind a text in a role stands a mark,
and neither of them continues a mark (`Mode.Stops`).

So a part of a document can be judged without what follows it (`Document.Erasable`), and
the parts of a report can be put together.
-/
import FrontEnd.Proofs.Rows
import Mathlib.Data.List.Basic

namespace FrontEnd

/-! ### Marks -/

/-- The length of the terminal sequence in front of a text: the escape character, `[`, and all
up to the next `m`.  Zero if there is none. -/
def sequenceLength : List Char → Nat
  | c :: '[' :: text => if c = escapeCharacter ∧ 'm' ∈ text then text.idxOf 'm' + 3 else 0
  | _ => 0

/-- The markers that name roles.  They hold the whole name: a file called `[COLOR` is shown as
`[COLOR:1:1`, where nothing is to be dropped. -/
def markers : List (List Char) :=
  "[/COLOR]".toList :: Role.all.map fun role => s!"[COLOR:{role.name}]".toList

/-- The length of the marker in front of a text.  Zero if there is none. -/
def markerLength (text : List Char) : Nat :=
  match markers.find? (·.isPrefixOf text) with
  | some marker => marker.length
  | none => 0

/-- A text from which `skip` characters and then all marks are dropped. -/
def eraseMarks (markLength : List Char → Nat) : Nat → List Char → List Char
  | _, [] => []
  | skip + 1, _ :: text => eraseMarks markLength skip text
  | 0, c :: text =>
    match markLength (c :: text) with
    | 0 => c :: eraseMarks markLength 0 text
    | more + 1 => eraseMarks markLength more text

section EraseMarks

variable {markLength : List Char → Nat} {text : List Char}

theorem eraseMarks_skip (skipped rest : List Char) :
    eraseMarks markLength skipped.length (skipped ++ rest) = eraseMarks markLength 0 rest := by
  induction skipped with
  | nil => rfl
  | cons c skipped ih => exact ih

/-- A mark in front is dropped. -/
theorem eraseMarks_mark {mark rest : List Char}
    (h : markLength (mark ++ rest) = mark.length) :
    eraseMarks markLength 0 (mark ++ rest) = eraseMarks markLength 0 rest := by
  cases mark with
  | nil => rfl
  | cons c mark =>
    rw [List.cons_append, List.length_cons] at h
    rw [List.cons_append, eraseMarks, h]
    exact eraseMarks_skip mark rest

/-- A text stays if no mark starts in it. -/
theorem eraseMarks_append {rest : List Char}
    (h : ∀ part, part ≠ [] → part <:+ text → markLength (part ++ rest) = 0) :
    eraseMarks markLength 0 (text ++ rest) = text ++ eraseMarks markLength 0 rest := by
  induction text with
  | nil => rfl
  | cons c text ih =>
    have hc : markLength (c :: (text ++ rest)) = 0 :=
      h (c :: text) (List.cons_ne_nil c text) List.suffix_rfl
    have htext := ih fun part hne hpart => h part hne (hpart.trans (List.suffix_cons c text))
    rw [List.cons_append, eraseMarks, hc, htext]
    rfl

end EraseMarks

namespace Mode

/-- The length of the mark of the mode in front of a text. -/
def markLength : Mode → List Char → Nat
  | .plain => fun _ => 0
  | .debug => markerLength
  | .rich | .auto => sequenceLength

/-- A text without the marks of the mode. -/
def erase (mode : Mode) (text : List Char) : List Char := eraseMarks mode.markLength 0 text

/-- The mark in front of a text in a role. -/
def opening : Mode → Role → List Char
  | .plain, _ => []
  | .debug, role => s!"[COLOR:{role.name}]".toList
  | .rich, role | .auto, role => (terminalSequence role.colour).toList

/-- The mark behind a text in a role. -/
def closing : Mode → List Char
  | .plain => []
  | .debug => "[/COLOR]".toList
  | .rich | .auto => (terminalSequence "0").toList

variable {mode : Mode} {text : String} {rest : List Char}

theorem toList_paint (mode : Mode) (role : Role) (text : String) :
    (mode.paint role text).toList = mode.opening role ++ (text.toList ++ mode.closing) := by
  cases mode with
  | plain => exact (List.append_nil _).symm
  | debug =>
    change (Mode.debug.paint role text).toList =
      s!"[COLOR:{role.name}]".toList ++ (text.toList ++ "[/COLOR]".toList)
    rw [paint]
    simp only [String.toList_append, List.append_assoc, toString]
  | rich => rw [paint, String.toList_append, String.toList_append, List.append_assoc]; rfl
  | auto => rw [paint, String.toList_append, String.toList_append, List.append_assoc]; rfl

end Mode

/-- A terminal sequence ends at its own `m`. -/
theorem sequenceLength_terminalSequence {parameters : String} (h : 'm' ∉ parameters.toList)
    (rest : List Char) :
    sequenceLength ((terminalSequence parameters).toList ++ rest) =
      (terminalSequence parameters).toList.length := by
  have hsequence : (terminalSequence parameters).toList ++ rest =
      escapeCharacter :: '[' :: (parameters.toList ++ 'm' :: rest) := by
    simp [terminalSequence]
  have hindex : (parameters.toList ++ 'm' :: rest).idxOf 'm' = parameters.toList.length := by
    rw [List.idxOf_append_of_notMem h, List.idxOf_cons_self, Nat.add_zero]
  rw [hsequence, sequenceLength, if_pos ⟨rfl, by simp⟩, hindex]
  simp [terminalSequence]

namespace Mode

variable {mode : Mode} {text : String} {rest : List Char}

theorem m_not_mem_colour (role : Role) : 'm' ∉ role.colour.toList := by
  cases role <;> decide

theorem markLength_opening (mode : Mode) (role : Role) (rest : List Char) :
    mode.markLength (mode.opening role ++ rest) = (mode.opening role).length := by
  have hsequence := sequenceLength_terminalSequence (m_not_mem_colour role) rest
  cases mode with
  | plain => rfl
  | debug => cases role <;> rfl
  | rich => exact hsequence
  | auto => exact hsequence

theorem markLength_closing (mode : Mode) (rest : List Char) :
    mode.markLength (mode.closing ++ rest) = mode.closing.length := by
  have hreset : 'm' ∉ "0".toList := by decide
  have hsequence := sequenceLength_terminalSequence hreset rest
  cases mode with
  | plain => rfl
  | debug => rfl
  | rich => exact hsequence
  | auto => exact hsequence

/-! ### Signs of a mark -/

/-- What a text holds if a mark starts in it.  For a terminal sequence that is the escape
character alone, for a marker it is the marker. -/
def signs : Mode → List (List Char)
  | .plain => []
  | .debug => markers
  | .rich | .auto => [[escapeCharacter]]

theorem head_of_sequenceLength {text : List Char} (h : sequenceLength text ≠ 0) :
    [escapeCharacter] <+: text := by
  unfold sequenceLength at h
  split at h
  · next c text =>
    split at h
    · next hc => exact ⟨'[' :: text, by rw [hc.1]; rfl⟩
    · exact absurd rfl h
  · exact absurd rfl h

theorem exists_marker_of_markerLength {text : List Char} (h : markerLength text ≠ 0) :
    ∃ marker ∈ markers, marker <+: text := by
  unfold markerLength at h
  split at h
  · next marker hfind =>
    have hfront := List.find?_some hfind
    exact ⟨marker, List.mem_of_find?_eq_some hfind, List.isPrefixOf_iff_prefix.1 hfront⟩
  · exact absurd rfl h

/-- Where a mark starts, there is a sign of it. -/
theorem exists_sign {text : List Char} (h : mode.markLength text ≠ 0) :
    ∃ sign ∈ mode.signs, sign <+: text := by
  cases mode with
  | plain => exact absurd rfl h
  | debug => exact exists_marker_of_markerLength h
  | rich => exact ⟨_, List.mem_singleton_self _, head_of_sequenceLength h⟩
  | auto => exact ⟨_, List.mem_singleton_self _, head_of_sequenceLength h⟩

/-- The characters in which signs begin and end. -/
def signEnds : List Char := [escapeCharacter, '[', ']']

theorem head?_sign : ∀ sign ∈ mode.signs, sign.head? ∈ signEnds.map some := by
  cases mode <;> decide

theorem getLast?_sign : ∀ sign ∈ mode.signs, sign.getLast? ∈ signEnds.map some := by
  cases mode <;> decide

theorem blank_not_mem_sign : ∀ sign ∈ mode.signs, ' ' ∉ sign := by
  cases mode <;> decide

/-! ### Texts without a sign -/

/-- The text has no character in which a sign begins or ends. -/
def Inert (text : String) : Prop := ∀ c ∈ text.toList, c ∉ signEnds

theorem Inert.of_all (h : text.toList.all (· ∉ signEnds) = true) : Inert text :=
  fun c hc => of_decide_eq_true (List.all_eq_true.1 h c hc)

/-- The words of a report are inert.  A literal is `String.ofList` of its characters. -/
theorem Inert.word {chars : List Char} (h : chars.all (· ∉ signEnds) = true) :
    Inert (String.ofList chars) :=
  .of_all (by rw [String.toList_ofList]; exact h)

theorem Inert.append {front back : String} (hf : Inert front) (hb : Inert back) :
    Inert (front ++ back) := by
  intro c hc
  rw [String.toList_append, List.mem_append] at hc
  exact hc.elim (hf c) (hb c)

/-- No sign of the mode stands in the text. -/
def Clear (mode : Mode) (text : String) : Prop := ∀ sign ∈ mode.signs, ¬ sign <:+: text.toList

instance (mode : Mode) (text : String) : Decidable (mode.Clear text) :=
  inferInstanceAs (Decidable (∀ sign ∈ mode.signs, ¬ sign <:+: text.toList))

/-- No sign begins in an inert text. -/
theorem Inert.not_subset (h : Inert text) {left right : List Char}
    (hsign : left ++ right ∈ mode.signs) (hl : left ≠ []) : ¬ left ⊆ text.toList := by
  intro hsubset
  obtain ⟨c, hc, hhead⟩ := List.mem_map.1 (head?_sign _ hsign)
  rw [List.head?_append_of_ne_nil left hl] at hhead
  exact h c (hsubset (List.mem_of_mem_head? hhead.symm)) hc

theorem Inert.clear (h : Inert text) (mode : Mode) : mode.Clear text := by
  intro sign hsign hstands
  obtain ⟨c, hc, hhead⟩ := List.mem_map.1 (head?_sign sign hsign)
  exact h c (hstands.subset (List.mem_of_mem_head? hhead.symm)) hc

/-- What stands in a clear text is clear. -/
theorem Clear.of_infix {part : String} (h : mode.Clear text)
    (hpart : part.toList <:+: text.toList) : mode.Clear part :=
  fun sign hsign hstands => h sign hsign (hstands.trans hpart)

/-- Two clear texts are clear together if no sign begins in the first and ends in the second. -/
theorem Clear.append {front back : String} (hf : mode.Clear front) (hb : mode.Clear back)
    (happart : ∀ left right, left ++ right ∈ mode.signs → left ≠ [] → right ≠ [] →
      left <:+ front.toList → ¬ right <+: back.toList) :
    mode.Clear (front ++ back) := by
  intro sign hsign hstands
  rw [String.toList_append, List.infix_append_iff] at hstands
  rcases hstands with hfront | hback | ⟨left, right, rfl, hleft, hright⟩
  · exact hf sign hsign hfront
  · exact hb sign hsign hback
  · -- a sign with nothing of it on one side stands on the other
    rcases eq_or_ne left [] with rfl | hl
    · exact hb right hsign hright.isInfix
    rcases eq_or_ne right [] with rfl | hr
    · exact hf _ hsign (by simpa using hleft.isInfix)
    exact happart left right hsign hl hr hleft hright

/-- An inert text may stand in front of a clear one. -/
theorem Clear.behind {front : String} (h : mode.Clear text) (hf : Inert front) :
    mode.Clear (front ++ text) := by
  refine (hf.clear mode).append h fun left right hsign hl _ hleft _ => ?_
  exact hf.not_subset hsign hl hleft.subset

/-- An inert text may stand behind a clear one. -/
theorem Clear.before {back : String} (h : mode.Clear text) (hb : Inert back) :
    mode.Clear (text ++ back) := by
  refine h.append (hb.clear mode) fun left right hsign _ hr _ hright => ?_
  obtain ⟨c, hc, hlast⟩ := List.mem_map.1 (getLast?_sign _ hsign)
  rw [List.getLast?_append_of_ne_nil left hr] at hlast
  exact hb c (hright.subset (List.mem_of_getLast? hlast.symm)) hc

/-- A sign holds no blank, so it does not reach over an inert text with one. -/
theorem Clear.spaced {front gap back : String} (hf : mode.Clear front) (hb : mode.Clear back)
    (hgap : Inert gap) (hblank : ' ' ∈ gap.toList) : mode.Clear (front ++ gap ++ back) := by
  refine (hf.before hgap).append hb fun left right hsign hl _ hleft _ => ?_
  rw [String.toList_append] at hleft
  -- the sign begins in the gap, or it has all of the gap in it
  rcases List.suffix_or_suffix_of_suffix hleft (List.suffix_append _ _) with hshort | hlong
  · exact hgap.not_subset hsign hl hshort.subset
  · exact blank_not_mem_sign _ hsign (List.mem_append_left right (hlong.subset hblank))

/-! ### What erasing keeps -/

/-- The text does not begin with a character that could continue a mark. -/
def Stops (mode : Mode) (text : List Char) : Prop :=
  ∀ c, text.head? = some c → ∀ sign ∈ mode.signs, c ∉ sign.tail

theorem stops_newline (mode : Mode) (text : List Char) : mode.Stops ("\n".toList ++ text) := by
  intro c hc
  obtain rfl : '\n' = c := Option.some.inj hc
  cases mode <;> decide

theorem stops_closing (mode : Mode) (text : List Char) : mode.Stops (mode.closing ++ text) := by
  intro c hc
  cases mode with
  | plain => intro sign hsign; cases hsign
  | debug =>
    obtain rfl : '[' = c := Option.some.inj hc
    decide
  | rich =>
    obtain rfl : escapeCharacter = c := Option.some.inj hc
    decide
  | auto =>
    obtain rfl : escapeCharacter = c := Option.some.inj hc
    decide

/-- A sign that stood in a clear text and what follows would go on behind the text. -/
theorem Clear.not_starts (h : mode.Clear text) (hstops : mode.Stops rest)
    {part sign : List Char} (hne : part ≠ []) (hpart : part <:+ text.toList)
    (hsign : sign ∈ mode.signs) : ¬ sign <+: part ++ rest := by
  intro hstarts
  have hclear : ¬ sign <+: part := fun hp => h sign hsign (hp.isInfix.trans hpart.isInfix)
  cases rest with
  | nil => exact hclear (by simpa using hstarts)
  | cons c rest =>
    -- the sign does not fit into `part`, so the next character belongs to it
    have hlonger : part ++ [c] <+: sign := by
      have hback : part ++ [c] <+: part ++ c :: rest := ⟨rest, by simp⟩
      rcases List.prefix_or_prefix_of_prefix hstarts hback with hshort | hlong
      · rcases List.prefix_concat_iff.1 hshort with hfull | hinside
        · exact hfull ▸ List.prefix_rfl
        · exact absurd hinside hclear
      · exact hlong
    obtain ⟨more, rfl⟩ := hlonger
    refine hstops c rfl _ hsign ?_
    cases part with
    | nil => exact absurd rfl hne
    | cons first part => simp

/-- A clear text is kept if what follows does not continue a mark. -/
theorem Clear.erase_append (h : mode.Clear text) (hstops : mode.Stops rest) :
    mode.erase (text.toList ++ rest) = text.toList ++ mode.erase rest := by
  refine eraseMarks_append fun part hne hpart => ?_
  by_contra hmark
  obtain ⟨sign, hsign, hstarts⟩ := exists_sign hmark
  exact h.not_starts hstops hne hpart hsign hstarts

/-- An inert text is kept. -/
theorem Inert.erase_append (h : Inert text) :
    mode.erase (text.toList ++ rest) = text.toList ++ mode.erase rest := by
  refine eraseMarks_append fun part hne hpart => ?_
  by_contra hmark
  obtain ⟨sign, hsign, hstarts⟩ := exists_sign hmark
  -- a sign begins with a character that does not stand in the text
  obtain ⟨c, hc, hhead⟩ := List.mem_map.1 (head?_sign sign hsign)
  obtain ⟨sign, rfl⟩ := List.head?_eq_some_iff.1 hhead.symm
  cases part with
  | nil => exact hne rfl
  | cons first part =>
    obtain ⟨rfl, -⟩ := List.cons_prefix_cons.1 hstarts
    exact h c (hpart.subset List.mem_cons_self) hc

/-- Of a clear text in a role the text is left. -/
theorem Clear.erase_paint (h : mode.Clear text) (role : Role) :
    mode.erase ((mode.paint role text).toList ++ rest) = text.toList ++ mode.erase rest := by
  calc mode.erase ((mode.paint role text).toList ++ rest)
      = mode.erase (mode.opening role ++ (text.toList ++ (mode.closing ++ rest))) := by
        rw [toList_paint, List.append_assoc, List.append_assoc]
    _ = mode.erase (text.toList ++ (mode.closing ++ rest)) :=
        eraseMarks_mark (markLength_opening mode role _)
    _ = text.toList ++ mode.erase (mode.closing ++ rest) :=
        h.erase_append (stops_closing mode rest)
    _ = text.toList ++ mode.erase rest := by
        rw [erase, erase, eraseMarks_mark (markLength_closing mode rest)]

end Mode

/-! ### Documents without their marks -/

namespace Document

/-- Without the marks of the mode, the document is what the plain mode prints, whatever follows
it. -/
def Erasable (mode : Mode) (d : Document) : Prop :=
  ∀ rest, mode.erase ((d.print mode).toList ++ rest) =
    (d.print .plain).toList ++ mode.erase rest

variable {mode : Mode} {d e : Document} {text : String}

theorem erasable_nil : Erasable mode [] := fun _ => rfl

theorem Erasable.append (hd : d.Erasable mode) (he : e.Erasable mode) :
    (d ++ e).Erasable mode := by
  intro rest
  rw [print_append, print_append, String.toList_append, String.toList_append,
    List.append_assoc, hd, he, List.append_assoc]

theorem erasable_flatMap {α : Type} {parts : List α} {part : α → Document}
    (h : ∀ a ∈ parts, (part a).Erasable mode) : Erasable mode (parts.flatMap part) := by
  induction parts with
  | nil => exact erasable_nil
  | cons a parts ih =>
    have hparts := ih fun b hb => h b (List.mem_cons_of_mem a hb)
    exact (h a List.mem_cons_self).append hparts

theorem erasable_painted (role : Role) (h : mode.Clear text) :
    (painted role text).Erasable mode := by
  intro rest
  rw [print_painted, print_painted, Mode.paint_plain]
  exact h.erase_paint role

theorem erasable_plain (h : Mode.Inert text) : (plain text).Erasable mode := by
  intro rest
  rw [print_plain, print_plain]
  exact h.erase_append

theorem Erasable.line (hd : d.Erasable mode) : d.line.Erasable mode :=
  hd.append (erasable_plain (.word rfl))

theorem erasable_blankLine : blankLine.Erasable mode :=
  erasable_plain (.word rfl)

/-- A clear text ends a line. -/
theorem Erasable.textLine (hd : d.Erasable mode) (h : mode.Clear text) :
    (d ++ plain text).line.Erasable mode := by
  intro rest
  have hnewline : Mode.Inert "\n" := .word rfl
  simp only [print_line, print_append, print_plain, String.toList_append, List.append_assoc]
  rw [hd, h.erase_append (Mode.stops_newline mode rest), hnewline.erase_append]

/-- Nothing is left out when nothing follows. -/
theorem Erasable.erase_print (h : d.Erasable mode) :
    mode.erase (d.print mode).toList = (d.print .plain).toList := by
  simpa [Mode.erase, eraseMarks] using h []

end Document

end FrontEnd
