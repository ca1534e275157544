/-
FrontEnd/Proofs/Legible.lean

The words of a lexical diagnostic hold no control character.

A message quotes the source in four ways.  A rejected character and the one behind a
backslash are quoted in their readable form, and that form shows nothing but printable
characters, whatever the character is (`legible_escaped`).  The end of a number and a
run of operators are quoted as they stand, and there it is the grammar that keeps
control characters out: a suffix is made of name characters, a run of `&` or of `|`.
So `Malformed.legible_message` needs the fault to be one that reading can meet.

Advice and remarks quote nothing.  A sample does: it holds what has been read of a
string, and what is read there are characters of the line, or a line break or tab that an
escape on the line stands for (`Malformed.mem_firstLine_of_mem_sample`).
-/
import FrontEnd.Proofs.Anchors

namespace FrontEnd

/-! ### Control characters -/

/-- Code points of general category Cc. -/
def controlRanges : CodeRanges := [(0x0, 0x1F), (0x7F, 0x9F)]

/-- A character that gives an order to a terminal instead of showing itself. -/
def isControl (c : Char) : Bool := controlRanges.contains c

theorem not_isPrintable_of_isControl {c : Char} (h : isControl c = true) :
    isPrintable c = false := by
  obtain ⟨range, hrange, hlow, hhigh⟩ := CodeRanges.contains_iff.1 h
  have hwithin : ∀ r ∈ controlRanges, ∃ s ∈ unprintableRanges, s.1 ≤ r.1 ∧ r.2 ≤ s.2 := by
    decide +kernel
  obtain ⟨wider, hwider, hbelow, habove⟩ := hwithin range hrange
  have hunprintable : unprintableRanges.contains c = true :=
    CodeRanges.contains_iff.2 ⟨wider, hwider, Nat.le_trans hbelow hlow, Nat.le_trans hhigh habove⟩
  rw [isPrintable, hunprintable, Bool.not_true]

theorem not_isControl_of_isNamePart {c : Char} (h : isNamePart c = true) :
    isControl c = false := by
  refine eq_false_of_imp (fun hc => isNamePart_eq_false_iff.2 ⟨?_, ?_, ?_⟩) h
  · exact CodeRanges.not_contains_of_apart (by decide +kernel) hc
  · exact CodeRanges.not_contains_of_apart (by decide +kernel) hc
  · exact ne_of_class hc (by decide)

/-- A text without control characters. -/
def Legible (text : String) : Prop := ∀ c ∈ text.toList, isControl c = false

namespace Legible

/-- A literal is `String.ofList` of its characters. -/
theorem word {chars : List Char} (h : chars.all (!isControl ·) = true) :
    Legible (String.ofList chars) := by
  intro c hc
  rw [String.toList_ofList] at hc
  simpa using List.all_eq_true.1 h c hc

theorem append {front back : String} (hf : Legible front) (hb : Legible back) :
    Legible (front ++ back) := by
  intro c hc
  rw [String.toList_append, List.mem_append] at hc
  exact hc.elim (hf c) (hb c)

/-- A text that a sentence quotes. -/
theorem quoted {front text back : String} (h : Legible text) (hf : Legible front)
    (hb : Legible back) : Legible (front ++ text ++ back) :=
  (hf.append h).append hb

theorem not_mem {text : String} {c : Char} (h : Legible text) (hc : isControl c = true) :
    c ∉ text.toList := fun hm => by
  rw [h c hm] at hc
  cases hc

end Legible

/-! ### The readable form of a character -/

theorem not_isControl_of_mem_hexDigits {n : Nat} {c : Char} (h : c ∈ hexDigits n) :
    isControl c = false := by
  have hdigit : ∀ d < 16, isControl (Nat.digitChar d) = false := by decide
  unfold hexDigits at h
  -- the last digit is split off, and what stands before it writes a smaller number
  induction n using Nat.strongRecOn with
  | ind n ih =>
    rw [Nat.toDigits_eq_if (by decide)] at h
    split at h
    · next hsmall =>
      obtain rfl := List.mem_singleton.1 h
      exact hdigit n hsmall
    · next hlarge =>
      rcases List.mem_append.1 h with hfront | hlast
      · exact ih (n / 16) (by omega) hfront
      · obtain rfl := List.mem_singleton.1 hlast
        exact hdigit _ (Nat.mod_lt n (by decide))

theorem not_isControl_of_mem_codePointEscape {c x : Char} (h : c ∈ codePointEscape x) :
    isControl c = false := by
  have hfront : ['\\', 'u', '\x7b'].all (!isControl ·) = true := by decide
  rw [codePointEscape, List.mem_append, List.mem_append] at h
  rcases h with (hopen | hdigits) | hclose
  · simpa using List.all_eq_true.1 hfront c hopen
  · exact not_isControl_of_mem_hexDigits hdigits
  · obtain rfl := List.mem_singleton.1 hclose
    decide

theorem not_isControl_of_shortEscape? {x letter : Char} (h : shortEscape? x = some letter) :
    isControl letter = false := by
  unfold shortEscape? at h
  split at h <;> cases h <;> decide

/-- **The readable form of a character is readable.**  A character without a two-character escape
stands for itself only if it can be printed. -/
theorem legible_escaped (x : Char) : Legible (escaped x) := by
  intro c hc
  rw [escaped, String.toList_ofList, escapeChar] at hc
  split at hc
  · next letter hletter =>
    rcases List.mem_cons.1 hc with rfl | hc
    · decide
    · obtain rfl := List.mem_singleton.1 hc
      exact not_isControl_of_shortEscape? hletter
  · split at hc
    · exact not_isControl_of_mem_codePointEscape hc
    · next hshown =>
      obtain rfl := List.mem_singleton.1 hc
      have hprintable : isPrintable c = true := by
        simp only [Bool.or_eq_true, not_or, Bool.not_eq_true, Bool.not_eq_false'] at hshown
        exact hshown.2
      exact eq_false_of_imp not_isPrintable_of_isControl hprintable

/-! ### What a fault says -/

section Faults

variable {text : List Char} {fault : Fault} {offset : Nat}

/-- **A message holds no control character**, whatever the source text holds. -/
theorem Malformed.legible_message (h : Malformed text fault offset) : Legible fault.message := by
  cases h with
  | commentOpen | stringLineBreak | stringOpen | characterEmpty | characterOpen
  | characterCrowded | characterUnclosed | loneDollar => exact .word rfl
  | stringEscape => exact Legible.append (.word rfl) (legible_escaped _)
  | characterEscape => exact Legible.append (.word rfl) (legible_escaped _)
  | strayCharacter => exact (legible_escaped _).quoted (.word rfl) (.word rfl)
  | @numberSuffix _ suffix _ _ _ hparts _ =>
    have hsuffix : Legible (String.ofList suffix) := fun c hc =>
      not_isControl_of_isNamePart (hparts c (by rwa [String.toList_ofList] at hc))
    exact hsuffix.quoted (.word rfl) (.word rfl)
  | @operatorRun c n _ hc _ _ _ =>
    -- a run repeats one of the two logical characters
    have hrun : Legible (String.ofList (List.replicate n c)) := by
      intro x hx
      rw [String.toList_ofList] at hx
      obtain rfl := List.eq_of_mem_replicate hx
      rcases isLogical_iff.1 hc with rfl | rfl <;> decide
    have halone : Legible ("Character '" ++ String.ofList (List.replicate n c) ++
        "' is not valid alone.") := hrun.quoted (.word rfl) (.word rfl)
    have hsequence : Legible ("Character sequence '" ++ String.ofList (List.replicate n c) ++
        "' is not valid.") := hrun.quoted (.word rfl) (.word rfl)
    show Legible (if n = 1 then _ else _)
    split
    · exact halone
    · exact hsequence

theorem Fault.legible_fix (fault : Fault) : Legible fault.fix := by
  cases fault with
  | operatorRun c length =>
    simp only [Fault.fix]
    split <;> exact .word rfl
  | _ => exact .word rfl

theorem Fault.legible_note {note : String} (h : fault.note? = some note) : Legible note := by
  unfold Fault.note? at h
  split at h <;> cases h <;> exact .word rfl

/-! ### What a sample shows of the source -/

theorem mem_of_mem_trimBlanks {body : String} {c : Char} (h : c ∈ (trimBlanks body).toList) :
    c ∈ body.toList := by
  rw [trimBlanks, String.toList_ofList, trimmed, List.mem_reverse] at h
  have hfront := List.mem_reverse.1 ((List.dropWhile_suffix isBlank).subset h)
  exact (List.dropWhile_suffix isBlank).subset hfront

/-- What a literal stands for is written in it, line breaks and tabs apart. -/
theorem Writes.mem_text {quote c : Char} {payload text : List Char} (h : Writes quote payload text)
    (hc : c ∈ payload) (hn : c ≠ '\n') (ht : c ≠ '\t') : c ∈ text := by
  induction h with
  | nil => cases hc
  | plain _ _ _ _ ih =>
    rcases List.mem_cons.1 hc with rfl | hc
    · exact List.mem_cons_self
    · exact List.mem_cons_of_mem _ (ih hc)
  | escape he _ ih =>
    rcases List.mem_cons.1 hc with rfl | hc
    · cases he with
      | newline => exact absurd rfl hn
      | tab => exact absurd rfl ht
      | backslash => exact List.mem_cons_self
      | quote => exact List.mem_cons_of_mem _ List.mem_cons_self
    · exact List.mem_cons_of_mem _ (List.mem_cons_of_mem _ (ih hc))

/-- What stands in a string that is closed again stands on the line of its opening quote. -/
theorem Writes.mem_firstLine_of_mem_closedString {c : Char} {payload text rest : List Char}
    (h : Writes '"' payload text)
    (hc : c ∈ (Fault.closedString (String.ofList payload)).toList) (hcontrol : isControl c = true)
    (hn : c ≠ '\n') (ht : c ≠ '\t') : c ∈ firstLine ('"' :: (text ++ rest)) := by
  have hquote : c ∉ "\"".toList := fun hm => by
    obtain rfl : c = '"' := by simpa using hm
    exact absurd hcontrol (by decide)
  rw [Fault.closedString, String.toList_append, String.toList_append, List.mem_append,
    List.mem_append, or_assoc] at hc
  have hbody := (hc.resolve_left hquote).resolve_right hquote
  have hpayload : c ∈ payload := by simpa using mem_of_mem_trimBlanks hbody
  rw [firstLine_cons (by decide), firstLine_append (h.newline_not_mem (by decide))]
  exact List.mem_cons_of_mem _ (List.mem_append_left _ (h.mem_text hpayload hn ht))

/-- A sample in fixed words has lines, but no other control characters. -/
theorem not_mem_words {c : Char} {chars : List Char} (hcontrol : isControl c = true)
    (hn : c ≠ '\n') (h : chars.all (fun x => !isControl x || x == '\n') = true) :
    c ∉ (String.ofList chars).toList := by
  rw [String.toList_ofList]
  intro hc
  have hx := List.all_eq_true.1 h c hc
  simp [hcontrol, hn] at hx

theorem not_mem_append {c : Char} {front back : String} (hf : c ∉ front.toList)
    (hb : c ∉ back.toList) : c ∉ (front ++ back).toList := by
  rw [String.toList_append, List.mem_append, not_or]
  exact ⟨hf, hb⟩

theorem not_mem_logicalSample {c : Char} {operator words : String} (hcontrol : isControl c = true)
    (hn : c ≠ '\n') (hoperator : c ∉ operator.toList) (hwords : c ∉ words.toList) :
    c ∉ (Fault.logicalSample operator words).toList := by
  have hif : c ∉ "if (firstCondition ".toList := not_mem_words hcontrol hn rfl
  have hthen : c ∉ " secondCondition) \x7b\n".toList := not_mem_words hcontrol hn rfl
  have hprint : c ∉ "    println(\"".toList := not_mem_words hcontrol hn rfl
  have hclose : c ∉ "\");\n\x7d".toList := not_mem_words hcontrol hn rfl
  have hcondition := not_mem_append (not_mem_append hif hoperator) hthen
  exact not_mem_append (not_mem_append (not_mem_append hcondition hprint) hwords) hclose

/-- **What a sample quotes stands on the line of the fault.** -/
theorem Malformed.mem_firstLine_of_mem_sample (h : Malformed text fault offset) {sample : String}
    (hsample : fault.sample? = some sample) {c : Char} (hc : c ∈ sample.toList)
    (hcontrol : isControl c = true) (hn : c ≠ '\n') (ht : c ≠ '\t') :
    c ∈ firstLine (text.drop offset) := by
  cases h with
  | stringLineBreak hw | stringOpen hw | stringEscape hw =>
    obtain rfl := Option.some.inj hsample
    exact hw.mem_firstLine_of_mem_closedString hc hcontrol hn ht
  | strayCharacter => cases hsample
  | operatorRun =>
    simp only [Fault.sample?] at hsample
    split at hsample <;> obtain rfl := Option.some.inj hsample
    · exact absurd hc (not_mem_logicalSample hcontrol hn (not_mem_words hcontrol hn rfl)
        (not_mem_words hcontrol hn rfl))
    · exact absurd hc (not_mem_logicalSample hcontrol hn (not_mem_words hcontrol hn rfl)
        (not_mem_words hcontrol hn rfl))
  | _ =>
    obtain rfl := Option.some.inj hsample
    exact absurd hc (not_mem_words hcontrol hn rfl)

end Faults

end FrontEnd
