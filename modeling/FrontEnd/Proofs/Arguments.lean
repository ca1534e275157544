/-
FrontEnd/Proofs/Arguments.lean

The order of the arguments of the `lex` command.

The arguments are taken up from left to right.  One is refused for what it is, a flag of
another kind, or for what stands before it, another path (`Refused`).  As long as none is
refused, what has been taken up can be said without an order: the one path, and the value
of the last colour flag (`parse_of_taken`).  The step is that one more argument is refused,
or is added to this (`parse_requestOf`); the run over a list grows at its end, as `Refused`
looks at the arguments in front.

So the order tells which argument is refused first and which colour flag is the last, and
nothing else.  Neither is changed by a colour flag with another one somewhere behind it, nor
by moving the path among colour flags.  Main result: `runLex_order`.
-/
import FrontEnd.Proofs.LexCommand
import Mathlib.Data.List.Induction

namespace FrontEnd

/-! ### Refused arguments -/

/-- The argument is written as a flag. -/
def isDashed (argument : String) : Bool := argument.toList.head? == some '-'

/-- Behind `front`, the argument cannot be used: it is a flag but no colour flag, or it is a
second path. -/
def Refused (front : List String) (argument : String) : Prop :=
  (isDashed argument = true ∧ ∀ value, argument ≠ "--color=" ++ value) ∨
    (isDashed argument = false ∧ ∃ path ∈ front, isDashed path = false)

/-- None of the arguments is refused. -/
def Taken (arguments : List String) : Prop :=
  ∀ front argument, front ++ [argument] <+: arguments → ¬ Refused front argument

/-- The first of the arguments that is refused. -/
def FirstRefused (arguments : List String) (argument : String) : Prop :=
  ∃ front back, arguments = front ++ argument :: back ∧ Taken front ∧ Refused front argument

/-- The path among the arguments. -/
def pathArgument? (arguments : List String) : Option String := arguments.find? (!isDashed ·)

/-- What is asked for by arguments that are not refused. -/
def requestOf (arguments : List String) : LexRequest :=
  ⟨pathArgument? arguments, (colorFlags arguments).getLast?⟩

section Arguments

variable {arguments front back flags : List String} {argument value : String}
  {request : LexRequest}

theorem isDashed_colorFlag (value : String) : isDashed ("--color=" ++ value) = true := by
  simp [isDashed]

theorem colorFlag?_of_not_isDashed (h : isDashed argument = false) :
    colorFlag? argument = none := by
  by_contra hflag
  obtain ⟨value, hvalue⟩ := Option.ne_none_iff_exists'.1 hflag
  obtain rfl := colorFlag?_eq_some_iff.1 hvalue
  rw [isDashed_colorFlag] at h
  cases h

/-- Colour flags are never refused. -/
theorem refused_iff : Refused front argument ↔ colorFlag? argument = none ∧
    (isDashed argument = true ∨ ∃ path ∈ front, isDashed path = false) := by
  have hnone : colorFlag? argument = none ↔ ∀ value, argument ≠ "--color=" ++ value := by
    simp only [Option.eq_none_iff_forall_ne_some, ne_eq, colorFlag?_eq_some_iff]
  rw [Refused, ← hnone]
  cases hdash : isDashed argument with
  | true => simp
  | false => simp [colorFlag?_of_not_isDashed hdash]

theorem taken_nil : Taken [] := by
  intro front argument h
  exact absurd (List.prefix_nil.1 h) (by simp)

theorem taken_concat : Taken (front ++ [argument]) ↔ Taken front ∧ ¬ Refused front argument := by
  constructor
  · intro h
    exact ⟨fun f a hf => h f a (hf.trans (List.prefix_append _ _)),
      h front argument List.prefix_rfl⟩
  · rintro ⟨hfront, hlast⟩ f a hf
    rcases List.prefix_concat_iff.1 hf with hsame | hf
    · obtain ⟨rfl, hargument⟩ := List.append_inj' hsame rfl
      obtain rfl := List.singleton_inj.1 hargument
      exact hlast
    · exact hfront f a hf

/-- Where an argument is refused, there is a first one. -/
theorem taken_or_firstRefused (arguments : List String) :
    Taken arguments ∨ ∃ argument, FirstRefused arguments argument := by
  induction arguments using List.reverseRecOn with
  | nil => exact .inl taken_nil
  | append_singleton front argument ih =>
    -- an argument more at the end does not change which one was refused first
    rcases ih with hfront | ⟨first, earlier, later, rfl, hearlier, hrefused⟩
    · by_cases hlast : Refused front argument
      · exact .inr ⟨argument, front, [], rfl, hfront, hlast⟩
      · exact .inl (taken_concat.2 ⟨hfront, hlast⟩)
    · refine .inr ⟨first, earlier, later ++ [argument], ?_, hearlier, hrefused⟩
      rw [List.append_assoc, List.cons_append]

/-! ### Taking up arguments -/

/-- The arguments are taken up one by one. -/
theorem LexRequest.parse_append (request : LexRequest) (front back : List String) :
    LexRequest.parse request (front ++ back) =
      (LexRequest.parse request front).bind fun known => LexRequest.parse known back := by
  induction front generalizing request with
  | nil => rfl
  | cons argument front ih =>
    rw [List.cons_append, parse, parse]
    cases colorFlag? argument with
    | some value => exact ih _
    | none =>
      simp only
      split
      · exact ih _
      · rfl

/-- An argument that is no colour flag is taken as the path, if it can be one. -/
theorem parse_operand (h : colorFlag? argument = none) :
    LexRequest.parse request [argument] =
      if isDashed argument = false ∧ request.path = none then
        .ok { request with path := some argument }
      else .error argument := by
  have hfits : (argument.toList.head? != some '-' && request.path.isNone) = true ↔
      isDashed argument = false ∧ request.path = none := by
    simp [isDashed]
  rw [LexRequest.parse, h]
  simp only [hfits]
  rfl

theorem pathArgument?_eq_none_iff :
    pathArgument? front = none ↔ ¬ ∃ path ∈ front, isDashed path = false := by
  simp [pathArgument?]

theorem pathArgument?_concat (front : List String) (argument : String) :
    pathArgument? (front ++ [argument]) =
      (pathArgument? front).or (if isDashed argument then none else some argument) := by
  rw [pathArgument?, List.find?_append]
  cases hdash : isDashed argument <;> simp [pathArgument?, hdash]

theorem getLast?_colorFlags_concat (front : List String) (argument : String) :
    (colorFlags (front ++ [argument])).getLast? =
      (colorFlag? argument).or (colorFlags front).getLast? := by
  rw [colorFlags, List.filterMap_append, List.getLast?_append]
  cases hflag : colorFlag? argument <;> simp [colorFlags, hflag]

/-- **One more argument** is refused, or added to what the arguments before it ask for. -/
theorem parse_requestOf (front : List String) (argument : String) :
    (Refused front argument ∧
        LexRequest.parse (requestOf front) [argument] = .error argument) ∨
      (¬ Refused front argument ∧
        LexRequest.parse (requestOf front) [argument] = .ok (requestOf (front ++ [argument]))) := by
  -- that no path stands in front is what the request tells of the arguments in front
  rw [refused_iff, ← not_not (a := ∃ path ∈ front, _), ← pathArgument?_eq_none_iff,
    requestOf.eq_1 (front ++ _), pathArgument?_concat, getLast?_colorFlags_concat]
  cases hflag : colorFlag? argument with
  | some value =>
    obtain rfl := colorFlag?_eq_some_iff.1 hflag
    right
    rw [isDashed_colorFlag, if_pos rfl, Option.or_none, Option.some_or]
    simp [LexRequest.parse, hflag, requestOf]
  | none =>
    rw [parse_operand hflag]
    by_cases hfits : isDashed argument = false ∧ (requestOf front).path = none
    · obtain ⟨hdash, hfirst⟩ := hfits
      have hnone : pathArgument? front = none := hfirst
      right
      rw [if_pos ⟨hdash, hfirst⟩, hnone, hdash]
      exact ⟨by simp, rfl⟩
    · left
      rw [if_neg hfits]
      refine ⟨⟨rfl, ?_⟩, rfl⟩
      cases hdash : isDashed argument with
      | true => exact .inl rfl
      | false => exact .inr fun hfirst => hfits ⟨hdash, hfirst⟩

/-- **Arguments that are not refused** come to the path among them and the last colour. -/
theorem parse_of_taken (h : Taken arguments) :
    LexRequest.parse ⟨none, none⟩ arguments = .ok (requestOf arguments) := by
  induction arguments using List.reverseRecOn with
  | nil => rfl
  | append_singleton front argument ih =>
    obtain ⟨hfront, hlast⟩ := taken_concat.1 h
    rw [LexRequest.parse_append, ih hfront]
    rcases parse_requestOf front argument with ⟨hrefused, -⟩ | ⟨-, hparse⟩
    · exact absurd hrefused hlast
    · exact hparse

theorem parse_of_firstRefused (h : FirstRefused arguments argument) :
    LexRequest.parse ⟨none, none⟩ arguments = .error argument := by
  obtain ⟨front, back, rfl, hfront, hrefused⟩ := h
  have hstop : LexRequest.parse (requestOf front) [argument] = .error argument := by
    rcases parse_requestOf front argument with ⟨-, hparse⟩ | ⟨hnot, -⟩
    · exact hparse
    · exact absurd hrefused hnot
  have hcut : front ++ argument :: back = (front ++ [argument]) ++ back := by simp
  rw [hcut, LexRequest.parse_append, LexRequest.parse_append, parse_of_taken hfront]
  exact congrArg (·.bind fun known => LexRequest.parse known back) hstop

/-- Of the arguments that are not refused one is a path, or none is. -/
theorem filter_of_taken (h : Taken arguments) :
    arguments.filter (!isDashed ·) = (pathArgument? arguments).toList := by
  induction arguments using List.reverseRecOn with
  | nil => rfl
  | append_singleton front argument ih =>
    obtain ⟨hfront, hlast⟩ := taken_concat.1 h
    rw [List.filter_append, ih hfront, pathArgument?_concat]
    cases hdash : isDashed argument with
    | true => simp [hdash]
    | false =>
      have hfirst : pathArgument? front = none :=
        pathArgument?_eq_none_iff.2 fun hsecond => hlast (.inr ⟨hdash, hsecond⟩)
      simp [hdash, hfirst]

/-! ### What can be moved -/

/-- A later colour flag hides what was known of the colour. -/
theorem parse_color_of_later (h : colorFlags back ≠ []) (path color other : Option String) :
    LexRequest.parse ⟨path, color⟩ back = LexRequest.parse ⟨path, other⟩ back := by
  induction back generalizing path with
  | nil => exact absurd rfl h
  | cons argument back ih =>
    rw [LexRequest.parse, LexRequest.parse]
    cases hflag : colorFlag? argument with
    | some value => rfl
    | none =>
      -- the later flag is still ahead, and the argument here does not look at the colour
      rw [(colorFlags_cons_of_none hflag back).1] at h
      simp only
      split
      · exact ih h (some argument)
      · rfl

/-- A colour flag can be left out if there is another one behind it. -/
theorem parse_earlier_color (h : colorFlags back ≠ []) (value : String) :
    LexRequest.parse request (front ++ ("--color=" ++ value) :: back) =
      LexRequest.parse request (front ++ back) := by
  have hflag : colorFlag? ("--color=" ++ value) = some value := colorFlag?_eq_some_iff.2 rfl
  rw [LexRequest.parse_append, LexRequest.parse_append]
  congr 1
  funext known
  rw [LexRequest.parse, hflag]
  exact parse_color_of_later h known.path (some value) known.color

/-- What is no colour flag can change places with colour flags. -/
theorem parse_past_colors (hargument : colorFlag? argument = none)
    (hflags : ∀ flag ∈ flags, (colorFlag? flag).isSome) :
    LexRequest.parse request (flags ++ argument :: back) =
      LexRequest.parse request (argument :: (flags ++ back)) := by
  induction flags generalizing request with
  | nil => rfl
  | cons flag flags ih =>
    obtain ⟨hfirst, hmore⟩ := List.forall_mem_cons.1 hflags
    obtain ⟨value, hvalue⟩ := Option.isSome_iff_exists.1 hfirst
    -- the flag changes the colour only, and the argument looks at the path only
    calc LexRequest.parse request (flag :: (flags ++ argument :: back))
        = LexRequest.parse { request with color := some value } (flags ++ argument :: back) := by
          rw [LexRequest.parse, hvalue]
      _ = LexRequest.parse { request with color := some value } (argument :: (flags ++ back)) :=
          ih hmore
      _ = LexRequest.parse request (argument :: flag :: (flags ++ back)) := by
          simp only [LexRequest.parse, hargument, hvalue]

/-! ### Runs -/

/-- A run looks at its arguments only as they are taken up. -/
theorem runLex_congr {others : List String}
    (h : LexRequest.parse ⟨none, none⟩ others = LexRequest.parse ⟨none, none⟩ arguments)
    (environment : Environment) (files : Files) :
    runLex others environment files = runLex arguments environment files := by
  simp only [runLex, Command.parse, if_pos, h]

theorem runLex_of_firstRefused (h : FirstRefused arguments argument) (environment : Environment)
    (files : Files) :
    runLex arguments environment files =
      ⟨1, "", "error: unexpected argument '" ++ argument ++ "'\nUsage: " ++ lexUsage ++ "\n"⟩ := by
  simp only [runLex, Command.parse, if_pos, parse_of_firstRefused h]
  rfl

/-- What a run of the `lex` command does not read off the order of its arguments. -/
structure OrderFree (arguments : List String) : Prop where
  /-- If an argument is refused, there is a first one. -/
  exists_first : (∃ front argument, front ++ [argument] <+: arguments ∧ Refused front argument) →
    ∃ argument, FirstRefused arguments argument
  /-- The run fails for the first refused argument, whatever else there is. -/
  first_refused : ∀ argument, FirstRefused arguments argument →
    ∀ environment files, runLex arguments environment files =
      ⟨1, "", "error: unexpected argument '" ++ argument ++ "'\nUsage: " ++ lexUsage ++ "\n"⟩
  /-- Otherwise there is at most one path. -/
  single_path : Taken arguments →
    arguments.filter (!isDashed ·) = (pathArgument? arguments).toList
  /-- Then the run is that of all arguments with this path and this last colour. -/
  same_run : Taken arguments → ∀ others, Taken others →
    pathArgument? others = pathArgument? arguments →
    (colorFlags others).getLast? = (colorFlags arguments).getLast? →
    ∀ environment files, runLex others environment files = runLex arguments environment files
  /-- A colour flag with another one behind it can be put in anywhere, and so be left out or
  moved. -/
  earlier_color : ∀ front back value later, arguments = front ++ back →
    "--color=" ++ later ∈ back → ∀ environment files,
    runLex (front ++ ("--color=" ++ value) :: back) environment files =
      runLex arguments environment files
  /-- The path can be moved among colour flags. -/
  moved_path : ∀ front path flags back, arguments = front ++ path :: (flags ++ back) →
    isDashed path = false → (∀ flag ∈ flags, ∃ value, flag = "--color=" ++ value) →
    ∀ environment files, runLex (front ++ (flags ++ path :: back)) environment files =
      runLex arguments environment files

/-- **The order of the arguments** tells which of them is refused first and which colour is the
last, and nothing else. -/
theorem runLex_order (arguments : List String) : OrderFree arguments where
  exists_first := by
    rintro ⟨front, argument, hprefix, hrefused⟩
    refine (taken_or_firstRefused arguments).resolve_left fun htaken => ?_
    exact htaken front argument hprefix hrefused
  first_refused _ := runLex_of_firstRefused
  single_path := filter_of_taken
  same_run htaken others hothers hpath hcolor := by
    refine runLex_congr ?_
    rw [parse_of_taken htaken, parse_of_taken hothers, requestOf, hpath, hcolor]
    rfl
  earlier_color := by
    rintro front back value later rfl hlater
    have hback : colorFlags back ≠ [] := by
      have hflag : later ∈ colorFlags back :=
        List.mem_filterMap.2 ⟨_, hlater, colorFlag?_eq_some_iff.2 rfl⟩
      exact List.ne_nil_of_mem hflag
    exact runLex_congr (parse_earlier_color hback value)
  moved_path := by
    rintro front path flags back rfl hpath hflags
    refine runLex_congr ?_
    have hcolors : ∀ flag ∈ flags, (colorFlag? flag).isSome := by
      intro flag hflag
      obtain ⟨value, rfl⟩ := hflags flag hflag
      exact Option.isSome_iff_exists.2 ⟨value, colorFlag?_eq_some_iff.2 rfl⟩
    rw [LexRequest.parse_append, LexRequest.parse_append]
    congr 1
    funext known
    exact parse_past_colors (colorFlag?_of_not_isDashed hpath) hcolors

/-- A stray flag between an invalid colour and two paths, and the path moved behind an invalid
colour that does not count. -/
theorem runLex_order_flags :
    let environment : Environment := ⟨fun _ => some "loud", false, false⟩
    let files : Files := ⟨fun _ => .ok "#"⟩
    runLex ["--color=loud", "-v", "a.k", "b.k"] environment files =
        ⟨1, "", "error: unexpected argument '-v'\nUsage: kc lex <file.k> [--color=<mode>]\n"⟩ ∧
      runLex ["a.k", "b.k", "-v"] environment files =
        ⟨1, "", "error: unexpected argument 'b.k'\nUsage: kc lex <file.k> [--color=<mode>]\n"⟩ ∧
      runLex ["--color=loud", "a.k", "--color=never"] environment files =
        runLex ["a.k", "--color=loud", "--color=never"] environment files ∧
      runLex ["--color=loud", "a.k", "--color=never"] environment files =
        runLex ["a.k", "--color=never"] environment files := by
  intro environment files
  have hcolor : Taken ([] ++ ["--color=loud"]) :=
    taken_concat.2 ⟨taken_nil, by rw [refused_iff]; decide⟩
  have hpath : Taken ([] ++ ["a.k"]) :=
    taken_concat.2 ⟨taken_nil, by rw [refused_iff]; decide⟩
  have hstray : FirstRefused ["--color=loud", "-v", "a.k", "b.k"] "-v" :=
    ⟨["--color=loud"], ["a.k", "b.k"], rfl, hcolor, refused_iff.2 (by decide)⟩
  have hsecond : FirstRefused ["a.k", "b.k", "-v"] "b.k" :=
    ⟨["a.k"], ["-v"], rfl, hpath, refused_iff.2 (by decide)⟩
  refine ⟨(runLex_order _).first_refused _ hstray environment files,
    (runLex_order _).first_refused _ hsecond environment files, ?_, ?_⟩
  · exact ((runLex_order _).moved_path [] "a.k" ["--color=loud"] ["--color=never"] rfl (by decide)
      (List.forall_mem_singleton.2 ⟨"loud", rfl⟩) environment files)
  · exact (runLex_order ["a.k", "--color=never"]).earlier_color [] _ "loud" "never" rfl
      (by decide) environment files

end Arguments

end FrontEnd
