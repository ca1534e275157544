/-
FrontEnd/Proofs/Pieces.lean

Where a rule of the grammar applies, the next piece is the one that the rule describes.

The order in which a piece is looked for matters in this module only.  The first
part says which reader is asked (`next_of_blank` to `next_of_mark`): each of its
lemmas names a first character that fails all earlier tests.  The second part says
what each reader gives on text that the grammar allows, and the third puts the two
together, one case for each rule (`IsTrivia.next_eq`, `IsLexeme.next_eq`,
`Malformed.next_eq`).
-/
import FrontEnd.Lexer.Piece
import FrontEnd.Proofs.Bodies

namespace FrontEnd

namespace Piece

variable {c : Cursor} {x : Char} {text rest : List Char}

/-! ### Looking ahead -/

theorem current_of_cons (h : c.unread = x :: text) : c.current = x := by
  simp [Cursor.current, h]

theorem peek_of_cons (h : c.unread = x :: text) : c.peek = text.headD '\x00' := by
  simp [Cursor.peek, h]

/-- The NUL that stands for the end is in no class that the reader looks for. -/
theorem headD_of_class (p : Char → Bool) (hp : p '\x00' = false) (text : List Char) :
    p (text.headD '\x00') = startsWith p text := by
  cases text with
  | nil => exact hp
  | cons d text => simp

/-! ### Which reader is asked -/

theorem next_of_blank (h : c.unread = x :: text) (hx : isBlank x = true) :
    next c = .trivia 1 := by
  rw [next, current_of_cons h, if_pos hx]

theorem next_of_doubleQuote (h : c.unread = '"' :: text) : next c = stringLiteral c := by
  rw [next, current_of_cons h, if_neg (by decide), if_pos rfl]

theorem next_of_apostrophe (h : c.unread = '\'' :: text) : next c = characterLiteral c := by
  rw [next, current_of_cons h, if_neg (by decide), if_neg (by decide), if_pos rfl]

theorem next_of_lineComment (h : c.unread = '/' :: '/' :: text) : next c = lineComment c := by
  rw [next, current_of_cons h, peek_of_cons h, if_neg (by decide), if_neg (by decide),
    if_neg (by decide), if_pos ⟨rfl, rfl⟩]

theorem next_of_blockComment (h : c.unread = '/' :: '*' :: text) : next c = blockComment c := by
  rw [next, current_of_cons h, peek_of_cons h, if_neg (by decide), if_neg (by decide),
    if_neg (by decide), if_neg (by simp), if_pos ⟨rfl, rfl⟩]

theorem next_of_logical (h : c.unread = x :: text) (hx : isLogical x = true) :
    next c = logicalOperator c := by
  rw [next, current_of_cons h]
  rcases isLogical_iff.1 hx with rfl | rfl
  · rw [if_neg (by decide), if_neg (by decide), if_neg (by decide), if_neg (by simp),
      if_neg (by simp), if_pos (.inl rfl)]
  · rw [if_neg (by decide), if_neg (by decide), if_neg (by decide), if_neg (by simp),
      if_neg (by simp), if_pos (.inr rfl)]

/-- The tests that come before names let a character pass that is none of theirs. -/
theorem next_of_unmarked (h : c.unread = x :: text) (hb : isBlank x = false) (hq : x ≠ '"')
    (ha : x ≠ '\'') (hl : isLogical x = false)
    (hs : x = '/' → startsWith opensComment text = false) :
    next c = if isNameStart x then name c else if x.isDigit then number c else operator c := by
  -- at the end of the text the reader sees a NUL, which opens no comment either
  have hcomment : ∀ y, opensComment y = true → ¬ (x = '/' ∧ text.headD '\x00' = y) := by
    rintro y hy ⟨rfl, rfl⟩
    rw [headD_of_class opensComment (by decide), hs rfl] at hy
    cases hy
  have hlogical : ¬ (x = '&' ∨ x = '|') := fun h => by
    rw [isLogical_iff.2 h] at hl
    cases hl
  rw [next, current_of_cons h, peek_of_cons h, if_neg (by simp [hb]), if_neg hq, if_neg ha,
    if_neg (hcomment '/' (by decide)), if_neg (hcomment '*' (by decide)), if_neg hlogical]

/-- A character of a class without symbols passes the tests that come before names. -/
theorem next_of_not_isSymbol (h : c.unread = x :: text) (hb : isBlank x = false)
    (hx : isSymbol x = false) :
    next c = if isNameStart x then name c else if x.isDigit then number c else operator c := by
  refine next_of_unmarked h hb ?_ ?_ ?_ ?_
  · rintro rfl
    exact absurd hx (by decide)
  · rintro rfl
    exact absurd hx (by decide)
  · refine Bool.eq_false_iff.2 fun hl => ?_
    rw [isSymbol_of_isLogical hl] at hx
    cases hx
  · rintro rfl
    exact absurd hx (by decide)

theorem next_of_nameStart (h : c.unread = x :: text) (hx : isNameStart x = true) :
    next c = name c := by
  rw [next_of_not_isSymbol h (eq_false_of_imp not_isNameStart_of_isBlank hx)
    (eq_false_of_imp not_isNameStart_of_isSymbol hx), if_pos hx]

theorem next_of_digit (h : c.unread = x :: text) (hx : x.isDigit = true) :
    next c = number c := by
  rw [next_of_not_isSymbol h (not_isBlank_of_isDigit hx) (not_isSymbol_of_isDigit hx),
    not_isNameStart_of_isDigit hx, if_neg Bool.false_ne_true, if_pos hx]

theorem next_of_operator (h : c.unread = x :: text) (hb : isBlank x = false) (hq : x ≠ '"')
    (ha : x ≠ '\'') (hl : isLogical x = false) (hn : isNameStart x = false)
    (hd : x.isDigit = false) (hs : x = '/' → startsWith opensComment text = false) :
    next c = operator c := by
  rw [next_of_unmarked h hb hq ha hl hs, if_neg (by simp [hn]), if_neg (by simp [hd])]

/-- A mark is read as an operator unless it is a logical one or opens a comment. -/
theorem next_of_mark (h : c.unread = x :: text) {mark : Punctuator}
    (hm : Punctuator.single? x = some mark)
    (hs : x = '/' → startsWith opensComment text = false) : next c = operator c := by
  have hx := isSymbol_of_single? hm
  have hne : ∀ y, Punctuator.single? y = none → x ≠ y := by
    rintro y hy rfl
    rw [hy] at hm
    cases hm
  -- a character that is a mark has no reader of its own that comes first
  refine next_of_operator h (not_isBlank_of_isSymbol hx) (hne _ (by decide +kernel))
    (hne _ (by decide +kernel)) ?_ (not_isNameStart_of_isSymbol hx)
    (eq_false_of_imp not_isSymbol_of_isDigit hx) hs
  exact Bool.eq_false_iff.2 fun hl => hne x (single?_eq_none_of_isLogical hl) rfl

/-! ### What each reader gives -/

/-- A name is read to its last character. -/
theorem name_of_isWord {word : List Char} (h : c.unread = word ++ rest) (hw : IsWord word)
    (hs : startsWith isNamePart rest = false) :
    name c =
      match Keyword.ofWord? word with
      | some keyword => .lexeme (.keyword keyword) none word.length
      | none => .lexeme .identifier (some (String.ofList word)) word.length := by
  cases word with
  | nil => exact hw.elim
  | cons x tail =>
    obtain ⟨hx, htail, hdollar⟩ := hw
    have hpeek : ¬ (x = '$' ∧ ¬ (isLetter c.peek = true ∨ c.peek = '_')) := by
      rintro ⟨rfl, hpeek⟩
      obtain ⟨d, more, rfl, hd⟩ := exists_cons_of_startsWith (hdollar rfl)
      rw [peek_of_cons h] at hpeek
      simp [mayFollowDollar] at hd hpeek
      exact hd.elim (by simp [hpeek.1]) hpeek.2
    have hword : (c.bump.eatWhile isNamePart).1 = tail := by
      simp only [Cursor.eatWhile, Cursor.bump_unread, h, List.cons_append, List.tail_cons]
      exact takeWhile_append_of_stop htail hs
    rcases hk : Keyword.ofWord? (x :: tail) with - | word
    · simp only [name, current_of_cons h, if_neg hpeek, hword, hk]
    · simp only [name, current_of_cons h, if_neg hpeek, hword, hk]

theorem name_of_loneDollar (h : c.unread = '$' :: rest)
    (hs : startsWith mayFollowDollar rest = false) : name c = .fault .loneDollar 0 := by
  have hpeek : mayFollowDollar c.peek = false := by
    rw [peek_of_cons h, headD_of_class mayFollowDollar (by decide +kernel), hs]
  rw [name, current_of_cons h, if_pos ⟨rfl, by simpa [mayFollowDollar] using hpeek⟩]

/-- Looking two characters ahead tells whether a fraction follows. -/
theorem fractionAhead_iff :
    c.current = '.' ∧ c.peek.isDigit = true ↔ FractionAhead c.unread := by
  constructor
  · rintro ⟨hdot, hd⟩
    cases hu : c.unread with
    | nil => rw [Cursor.current, hu] at hdot; exact absurd hdot (by decide)
    | cons x text =>
      rw [current_of_cons hu] at hdot
      rw [peek_of_cons hu, headD_of_class Char.isDigit (by decide)] at hd
      exact ⟨text, by rw [hdot], hd⟩
  · rintro ⟨text, hu, hd⟩
    exact ⟨current_of_cons hu, by rw [peek_of_cons hu, headD_of_class Char.isDigit (by decide), hd]⟩

/-- A numeral is read to its last digit. -/
theorem numeral_of_isNumeral (h : c.unread = text ++ rest) (hn : IsNumeral text)
    (hs : NumeralStops text rest) : numeral c = text := by
  cases hn with
  | whole hd =>
    have hdigits : (c.eatWhile Char.isDigit).1 = text := by
      rw [Cursor.eatWhile, h]
      exact takeWhile_append_of_stop hd.2 hs.1
    have hdot : '.' ∉ text := fun hm => absurd (hd.2 _ hm) (by decide)
    have hrest : (c.skip text.length).unread = rest := by simp [h]
    rw [numeral, hdigits, if_neg]
    rw [fractionAhead_iff, hrest]
    exact hs.2 hdot
  | @fraction digits more hd hm =>
    -- the digits stop at the point, and the digit behind it makes the reader go on
    have hu : c.unread = digits ++ '.' :: (more ++ rest) := by simp [h]
    have hdigits : (c.eatWhile Char.isDigit).1 = digits := by
      rw [Cursor.eatWhile, hu]
      exact takeWhile_append_of_stop hd.2 (by simp)
    have hbehind : (c.skip digits.length).unread = '.' :: (more ++ rest) := by simp [hu]
    have hmore : ((c.skip digits.length).bump.eatWhile Char.isDigit).1 = more := by
      rw [Cursor.eatWhile, Cursor.bump_unread, hbehind]
      exact takeWhile_append_of_stop hm.2 hs.1
    have hahead : FractionAhead (c.skip digits.length).unread := by
      rw [hbehind]
      refine ⟨_, rfl, ?_⟩
      obtain ⟨d, ds, rfl⟩ := List.exists_cons_of_ne_nil hm.1
      simpa using hm.2 d List.mem_cons_self
    rw [numeral, hdigits, if_pos (fractionAhead_iff.2 hahead), hmore]

/-- A number is wrong exactly if a letter follows its numeral. -/
theorem number_of_isNumeral (h : c.unread = text ++ rest) (hn : IsNumeral text)
    (hs : NumeralStops text rest) :
    number c =
      if startsWith isLetter rest then
        .fault (.numberSuffix (String.ofList (rest.takeWhile isNamePart))) text.length
      else .lexeme .number (some (String.ofList text)) text.length := by
  have hrest : (c.skip text.length).unread = rest := by simp [h]
  have hletter : isLetter (c.skip text.length).current = startsWith isLetter rest := by
    rw [Cursor.current, hrest, headD_of_class isLetter (by decide +kernel)]
  rw [number, numeral_of_isNumeral h hn hs, hletter, Cursor.eatWhile, hrest]

/-- What is left to read of a string is the text behind its body. -/
theorem stringBody_bump {payload body : List Char} (h : c.unread = '"' :: (body ++ rest))
    (hw : Writes '"' payload body) :
    stringBody c.bump.unread =
      ⟨payload ++ (stringBody rest).payload, body.length + (stringBody rest).length,
        (stringBody rest).ending⟩ := by
  have hbehind : c.bump.unread = body ++ rest := by rw [Cursor.bump_unread, h, List.tail_cons]
  rw [hbehind, stringBody_append hw]

/-- What is left to read of a character literal is the text behind its character. -/
theorem characterBody_bump {body : List Char} (h : c.unread = '\'' :: (body ++ rest))
    (hw : Writes '\'' [x] body) :
    characterBody c.bump.unread = characterTail x body.length rest := by
  have hbehind : c.bump.unread = body ++ rest := by rw [Cursor.bump_unread, h, List.tail_cons]
  rw [hbehind, characterBody_append hw]

/-- A run is counted to its end. -/
theorem runLength_of_run {n : Nat} (h : c.unread = List.replicate n x ++ rest)
    (hs : startsWith (· == x) rest = false) : c.runLength x = n := by
  rw [Cursor.runLength, h, takeWhile_append_of_stop (by simp) hs, List.length_replicate]

/-- A mark that starts no pair is an operator by itself. -/
theorem operator_of_single (h : c.unread = x :: rest)
    (hs : startsWith (fun d => (Punctuator.pair? x d).isSome) rest = false) :
    operator c =
      match Punctuator.single? x with
      | some mark => .lexeme (.punctuator mark) none 1
      | none => .fault (.strayCharacter x) 0 := by
  -- nor does the NUL that is seen at the end complete a pair
  have hnul : (Punctuator.pair? x '\x00').isSome = false := by
    rw [pair?_eq_none_of_not_isSymbol (by decide)]
    rfl
  have hpair : Punctuator.pair? x c.peek = none := by
    rw [peek_of_cons h]
    simpa using (headD_of_class _ hnul rest).trans hs
  rcases hm : Punctuator.single? x with - | mark
  · simp only [operator, current_of_cons h, hpair, hm]
  · simp only [operator, current_of_cons h, hpair, hm]

end Piece

/-! ### A rule that applies gives the piece -/

section Next

variable {c : Cursor} {text rest : List Char}

theorem IsTrivia.next_eq (h : IsTrivia text rest) (hc : c.unread = text ++ rest) :
    Piece.next c = .trivia text.length := by
  cases h with
  | blank hb => exact Piece.next_of_blank hc hb
  | @lineComment body _ hbody hrest =>
    have hbehind : (c.skip 2).unread = body ++ rest := by simp [hc]
    have hstop : startsWith (· != '\n') rest = false := by
      rcases hrest with rfl | hrest
      · rfl
      · exact startsWith_eq_false_of_imp (by simp) hrest
    rw [Piece.next_of_lineComment hc, Piece.lineComment, Cursor.eatWhile, hbehind,
      takeWhile_append_of_stop (all_ne_of_not_mem hbody) hstop, List.length_cons,
      List.length_cons, Nat.add_comm]
  | @blockComment body _ hbody =>
    have hbehind : (c.skip 2).unread = body ++ '*' :: '/' :: rest := by simp [hc]
    have hlength : ('/' :: '*' :: (body ++ ['*', '/'])).length = 2 + (body.length + 2) := by
      simp only [List.length_cons, List.length_append, List.length_nil]
      omega
    rw [Piece.next_of_blockComment hc, Piece.blockComment, hbehind,
      commentLength?_of_closed hbody, hlength]

theorem IsWord.exists_cons (h : IsWord text) :
    ∃ x tail, text = x :: tail ∧ isNameStart x = true := by
  cases text with
  | nil => exact h.elim
  | cons x tail => exact ⟨x, tail, rfl, h.1⟩

theorem IsDigits.exists_cons (h : IsDigits text) :
    ∃ x tail, text = x :: tail ∧ x.isDigit = true := by
  obtain ⟨x, tail, rfl⟩ := List.exists_cons_of_ne_nil h.1
  exact ⟨x, tail, rfl, h.2 x List.mem_cons_self⟩

theorem IsNumeral.exists_cons (h : IsNumeral text) :
    ∃ x tail, text = x :: tail ∧ x.isDigit = true := by
  cases h with
  | whole hd => exact hd.exists_cons
  | fraction hd hm =>
    obtain ⟨x, tail, rfl, hx⟩ := hd.exists_cons
    exact ⟨x, _, rfl, hx⟩

theorem IsLexeme.next_eq {kind : Kind} {value : Option String}
    (h : IsLexeme text rest kind value) (hc : c.unread = text ++ rest) :
    Piece.next c = .lexeme kind value text.length := by
  cases h with
  | keyword hw hs hk =>
    obtain ⟨x, tail, rfl, hx⟩ := hw.exists_cons
    rw [Piece.next_of_nameStart hc hx, Piece.name_of_isWord hc hw hs, hk]
  | identifier hw hs hk =>
    obtain ⟨x, tail, rfl, hx⟩ := hw.exists_cons
    rw [Piece.next_of_nameStart hc hx, Piece.name_of_isWord hc hw hs, hk]
  | number hn hs hl =>
    obtain ⟨x, tail, rfl, hx⟩ := hn.exists_cons
    rw [Piece.next_of_digit hc hx, Piece.number_of_isNumeral hc hn hs, hl]
    rfl
  | @stringLiteral payload text _ hw =>
    have hbody : c.unread = '"' :: (text ++ '"' :: rest) := by simpa using hc
    rw [Piece.next_of_doubleQuote hc, Piece.stringLiteral, Piece.stringBody_bump hbody hw]
    simp [stringBody, Nat.add_comm]
  | @characterLiteral x text _ hw =>
    have hbody : c.unread = '\'' :: (text ++ '\'' :: rest) := by simpa using hc
    rw [Piece.next_of_apostrophe hc, Piece.characterLiteral, Piece.characterBody_bump hbody hw,
      characterTail_closed]
    simp [Nat.add_comm]
  | @logical x _ mark hl hp hs =>
    rw [Piece.next_of_logical hc hl, Piece.logicalOperator, Piece.current_of_cons hc,
      Piece.runLength_of_run (n := 2) hc hs]
    rw [pair?_of_isLogical hl] at hp
    obtain rfl := Option.some.inj hp
    rfl
  | @pair x d _ mark hl hp =>
    obtain ⟨first, hm⟩ := exists_single?_of_pair? hp hl
    -- a slash starts no pair, so this is no comment
    have hs : x = '/' → startsWith opensComment (d :: rest) = false := by
      rintro rfl
      rw [pair?_slash] at hp
      cases hp
    have hpeek : c.peek = d := Piece.peek_of_cons hc
    rw [Piece.next_of_mark hc hm hs, Piece.operator, Piece.current_of_cons hc, hpeek, hp]
    rfl
  | single hm hp hs =>
    rw [Piece.next_of_mark hc hm hs, Piece.operator_of_single hc hp, hm]
    rfl

theorem Malformed.next_eq {fault : Fault} {offset : Nat} (h : Malformed text fault offset)
    (hc : c.unread = text) : Piece.next c = .fault fault offset := by
  cases h with
  | @commentOpen text hopen =>
    have hbehind : (c.skip 2).unread = text := by simp [hc]
    rw [Piece.next_of_blockComment hc, Piece.blockComment, hbehind, commentLength?_of_open hopen]
  | stringLineBreak hw =>
    rw [Piece.next_of_doubleQuote hc, Piece.stringLiteral, Piece.stringBody_bump hc hw]
    simp [stringBody]
  | stringOpen hw hrest =>
    rw [Piece.next_of_doubleQuote hc, Piece.stringLiteral, Piece.stringBody_bump hc hw]
    rcases hrest with rfl | rfl <;> simp [stringBody]
  | stringEscape hw hx =>
    rw [Piece.next_of_doubleQuote hc, Piece.stringLiteral, Piece.stringBody_bump hc hw]
    simp [stringBody, unescape?_eq_none hx]
  | characterEmpty =>
    rw [Piece.next_of_apostrophe hc, Piece.characterLiteral, Cursor.bump_unread, hc]
    rfl
  | characterOpen hrest =>
    rw [Piece.next_of_apostrophe hc, Piece.characterLiteral, Cursor.bump_unread, hc]
    rcases hrest with rfl | rfl | hrest
    · rfl
    · rfl
    · obtain ⟨x, more, rfl, hx⟩ := exists_cons_of_startsWith hrest
      obtain rfl : x = '\n' := by simpa using hx
      rfl
  | characterEscape hx =>
    rw [Piece.next_of_apostrophe hc, Piece.characterLiteral, Cursor.bump_unread, hc]
    simp [characterBody, unescape?_eq_none hx]
  | @characterCrowded x text extra rest hw he hq hn =>
    have hbody : c.unread = '\'' :: (text ++ (extra ++ '\'' :: rest)) := by simpa using hc
    rw [Piece.next_of_apostrophe hc, Piece.characterLiteral, Piece.characterBody_bump hbody hw,
      characterTail_crowded he hq hn]
  | characterUnclosed hw hq =>
    rw [Piece.next_of_apostrophe hc, Piece.characterLiteral, Piece.characterBody_bump hc hw,
      characterTail_unclosed hq]
  | @numberSuffix text suffix rest hn hl hp hs =>
    obtain ⟨x, tail, rfl, hx⟩ := hn.exists_cons
    obtain ⟨y, more, rfl, hy⟩ := exists_cons_of_startsWith hl
    -- a letter is no digit and no point, so the numeral ends before it
    have hstops : NumeralStops (x :: tail) (y :: more ++ rest) := by
      refine ⟨by simpa using eq_false_of_imp not_isLetter_of_isDigit hy, ?_⟩
      rintro - ⟨_, hdot, -⟩
      obtain ⟨rfl, -⟩ := List.cons.inj hdot
      exact absurd hy (by decide +kernel)
    rw [Piece.next_of_digit hc hx, Piece.number_of_isNumeral hc hn hstops,
      takeWhile_append_of_stop hp hs]
    simp [hy]
  | loneDollar hs =>
    rw [Piece.next_of_nameStart hc (by decide +kernel), Piece.name_of_loneDollar hc hs]
  | @operatorRun x n rest hl hpos hn hs =>
    obtain ⟨n, rfl⟩ := Nat.exists_eq_add_one.2 hpos
    have hcons : c.unread = x :: (List.replicate n x ++ rest) := hc
    rw [Piece.next_of_logical hcons hl, Piece.logicalOperator, Piece.current_of_cons hcons,
      Piece.runLength_of_run hc hs]
    simp [hn]
  | @strayCharacter x rest hb hname hd hq ha hl hm =>
    have hslash : x = '/' → startsWith opensComment rest = false := by
      rintro rfl
      exact absurd hm (by decide +kernel)
    -- what starts a pair is a mark by itself, so no pair starts here
    have hpair : ∀ d, (Punctuator.pair? x d).isSome = false := by
      intro d
      rcases hp : Punctuator.pair? x d with - | mark
      · rfl
      · obtain ⟨first, hf⟩ := exists_single?_of_pair? hp hl
        rw [hf] at hm
        cases hm
    have hfree : startsWith (fun d => (Punctuator.pair? x d).isSome) rest = false := by
      cases rest with
      | nil => rfl
      | cons d rest => simpa using hpair d
    rw [Piece.next_of_operator hc hb hq ha hl hname hd hslash, Piece.operator_of_single hc hfree,
      hm]

end Next

end FrontEnd
