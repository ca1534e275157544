/-
FrontEnd/Proofs/LexCommand.lean

The `lex` command is all or nothing.

The arguments are taken up one by one, but what comes of them can be said without that:
the last colour flag counts, and of the arguments that are no colour flags there may be
one, the path (`parse_eq_ok_iff`).

A run finds its source text or stops before it (`fails_or_finds`).  Where it stops it has
written nothing to the standard output, and whatever it stops for has a report that is
not empty.  With the source text found there is one check left, the reading of the
tokens, and only behind it the listing (`Finds.runLex_eq`).
-/
import FrontEnd.Command.Run
import FrontEnd.Proofs.Listing
import FrontEnd.Proofs.Rows

namespace FrontEnd

open Document

/-! ### Arguments -/

/-- The values of the colour flags, in order. -/
def colorFlags (arguments : List String) : List String := arguments.filterMap colorFlag?

/-- The arguments that are no colour flags. -/
def operands (arguments : List String) : List String :=
  arguments.filter fun argument => (colorFlag? argument).isNone

/-- A colour flag is followed by its value, which may be empty. -/
theorem colorFlag?_eq_some_iff {argument value : String} :
    colorFlag? argument = some value ↔ argument = "--color=" ++ value := by
  have hflag : ("--color=" ++ value).toList = "--color=".toList ++ value.toList :=
    String.toList_append
  unfold colorFlag?
  rw [Option.ite_none_right_eq_some, List.isPrefixOf_iff_prefix]
  constructor
  · rintro ⟨⟨rest, hrest⟩, hvalue⟩
    obtain rfl := Option.some.inj hvalue
    rw [← String.toList_inj, hflag, ← hrest]
    simp
  · rintro rfl
    rw [hflag]
    simp

theorem colorFlags_cons_of_some {argument value : String} (h : colorFlag? argument = some value)
    (arguments : List String) :
    colorFlags (argument :: arguments) = value :: colorFlags arguments ∧
      operands (argument :: arguments) = operands arguments := by
  simp [colorFlags, operands, h]

theorem colorFlags_cons_of_none {argument : String} (h : colorFlag? argument = none)
    (arguments : List String) :
    colorFlags (argument :: arguments) = colorFlags arguments ∧
      operands (argument :: arguments) = argument :: operands arguments := by
  simp [colorFlags, operands, h]

namespace LexRequest

variable {request result : LexRequest} {arguments : List String}

/-- Arguments are taken if there is at most one path among them, counting one that is known
before, and nothing else but colour flags. -/
theorem parse_eq_ok_iff : LexRequest.parse request arguments = .ok result ↔
    (∀ argument ∈ operands arguments, argument.toList.head? ≠ some '-') ∧
      request.path.toList ++ operands arguments = result.path.toList ∧
      (colorFlags arguments).getLast?.or request.color = result.color := by
  -- on the arguments; what is known before them changes with each
  induction arguments generalizing request with
  | nil =>
    obtain ⟨path, color⟩ := request
    obtain ⟨other, others⟩ := result
    have hpath : path.toList = other.toList ↔ path = other := by
      cases path <;> cases other <;> simp
    simp [parse, operands, colorFlags, hpath]
  | cons argument arguments ih =>
    cases hflag : colorFlag? argument with
    | some value =>
      obtain ⟨hcolors, hoperands⟩ := colorFlags_cons_of_some hflag arguments
      have hlast : (value :: colorFlags arguments).getLast?.or request.color =
          (colorFlags arguments).getLast?.or (some value) := by
        rw [List.getLast?_cons]
        cases (colorFlags arguments).getLast? <;> rfl
      rw [parse, hflag, hcolors, hoperands, hlast]
      exact ih
    | none =>
      obtain ⟨hcolors, hoperands⟩ := colorFlags_cons_of_none hflag arguments
      rw [parse, hflag, hcolors, hoperands, List.forall_mem_cons]
      by_cases hdash : argument.toList.head? = some '-'
      · simp [hdash]
      · obtain ⟨_ | path, color⟩ := request
        · simp [hdash, ih]
        · -- a second path: no request has two
          have htwo : path :: argument :: operands arguments ≠ result.path.toList := by
            cases result.path <;> simp
          simp [hdash, htwo]

end LexRequest

/-- A word for a colour mode is what the flag says, else what the variable says, else `auto`. -/
theorem Mode.choose_eq_ok_iff {flag setting : Option String} {terminal : Terminal} {mode : Mode} :
    Mode.choose flag setting terminal = .ok mode ↔
      ∃ chosen, Mode.parse? ((flag.or setting).getD "auto") = some chosen ∧
        chosen.resolve terminal = mode := by
  have hauto : Mode.parse? "auto" = some .auto := by decide +kernel
  rw [choose, Option.orElse_eq_orElse, Option.orElse_eq_or]
  cases flag.or setting with
  | none => simp [hauto]
  | some word => cases hword : Mode.parse? word <;> simp [hword]

/-! ### Failures -/

/-- A document with a line in it is not printed as nothing. -/
theorem Document.print_line_ne_empty (d e : Document) (mode : Mode) :
    (d.line ++ e).print mode ≠ "" := by
  simp

theorem Failure.print_report_ne_empty (failure : Failure) (files : Files) (mode : Mode)
    (h : ∀ d, failure ≠ .diagnostic d) : (failure.report files).print mode ≠ "" := by
  unfold report
  split
  · exact absurd rfl (h _)
  · simp [fileTypeReport]
  · exact Document.print_line_ne_empty _ _ mode

/-! ### Runs -/

/-- What a run of the `lex` command with some arguments leaves behind. -/
def runLex (arguments : List String) (environment : Environment) (files : Files) : Outcome :=
  (Command.parse ("lex" :: arguments)).run environment files

/-- The word for the colour mode: from the last flag, else from the variable, else `auto`. -/
def colorWord (arguments : List String) (environment : Environment) : String :=
  ((colorFlags arguments).getLast?.or (environment.setting? "KLANG_COLOR")).getD "auto"

/-- The run finds a source text, and the mode for what there is to report about it. -/
structure Finds (arguments : List String) (environment : Environment) (files : Files)
    (mode : Mode) (path source : String) : Prop where
  /-- Beside colour flags there is one argument. -/
  operands_eq : operands arguments = [path]
  /-- It is not meant as a flag of some other kind. -/
  head?_ne : path.toList.head? ≠ some '-'
  mode_eq : ∃ chosen, Mode.parse? (colorWord arguments environment) = some chosen ∧
    chosen.resolve environment.terminal = mode
  extension : hasExtension path sourceExtension = true
  read_eq : files.read path = .ok source

/-- The run has failed: its standard output is empty, and its standard error is not. -/
structure Outcome.Fails (outcome : Outcome) : Prop where
  exitCode_eq : outcome.exitCode = 1
  stdout_eq : outcome.stdout = ""
  stderr_ne : outcome.stderr ≠ ""

theorem Outcome.fails_failed (files : Files) (mode : Mode) (failure : Failure) :
    (Outcome.failed files mode failure).Fails := by
  refine ⟨rfl, rfl, ?_⟩
  unfold failed
  cases failure with
  | diagnostic d =>
    have htally : (tally 1 0).print mode ≠ "" := by simp [tally]
    simp [htally]
  | _ => simpa using Failure.print_report_ne_empty _ files mode (by simp)

section Runs

variable {arguments : List String} {environment : Environment} {files : Files} {mode : Mode}
  {path source : String} {request : LexRequest}

theorem runLex_of_parse (h : LexRequest.parse ⟨none, none⟩ arguments = .ok request) :
    runLex arguments environment files = request.run environment files := by
  simp [runLex, Command.parse, h, Command.run]

/-- Whatever stops a run before it has a source text, the run fails. -/
theorem fails_or_finds (arguments : List String) (environment : Environment) (files : Files) :
    (runLex arguments environment files).Fails ∨
      ∃ mode path source, Finds arguments environment files mode path source := by
  -- arguments, mode, path and source text, one after the other; each of them can end the run
  cases hparse : LexRequest.parse ⟨none, none⟩ arguments with
  | error argument =>
    left
    unfold runLex
    rw [Command.parse, if_pos rfl, hparse]
    exact ⟨rfl, rfl, by simp [Command.run, toString]⟩
  | ok request =>
    obtain ⟨hflags, hpath, hcolor⟩ := LexRequest.parse_eq_ok_iff.1 hparse
    rw [runLex_of_parse hparse, LexRequest.run]
    cases hmode : Mode.choose request.color (environment.setting? "KLANG_COLOR")
        environment.terminal with
    | error word => exact .inl (Outcome.fails_failed files _ _)
    | ok mode =>
      obtain ⟨_ | path, color⟩ := request
      · exact .inl (Outcome.fails_failed files _ _)
      · cases hsource : readSource files path "lex" with
        | error failure =>
          left
          simp only [lexFile_of_readSource_error hsource]
          exact Outcome.fails_failed files _ _
        | ok source =>
          obtain ⟨hextension, hread⟩ := readSource_eq_ok_iff.1 hsource
          have hoperands : operands arguments = [path] := hpath
          rw [hoperands] at hflags
          rw [← hcolor, Option.or_none] at hmode
          exact .inr ⟨mode, path, source, hoperands, hflags path List.mem_cons_self,
            Mode.choose_eq_ok_iff.1 hmode, hextension, hread⟩

/-- A run with a source text lists its tokens, or reports why there are none. -/
theorem Finds.runLex_eq (h : Finds arguments environment files mode path source) :
    runLex arguments environment files =
      match tokenize source path defaultContext with
      | .ok tokens => .success tokens.listing
      | .error d => .failed files mode (.diagnostic d) := by
  have hparse : LexRequest.parse ⟨none, none⟩ arguments =
      .ok ⟨some path, (colorFlags arguments).getLast?⟩ := by
    refine LexRequest.parse_eq_ok_iff.2 ⟨?_, h.operands_eq, Option.or_none⟩
    rw [h.operands_eq]
    exact List.forall_mem_singleton.2 h.head?_ne
  have hmode := Mode.choose_eq_ok_iff.2 h.mode_eq
  have hsource : readSource files path "lex" = .ok source :=
    readSource_eq_ok_iff.2 ⟨h.extension, h.read_eq⟩
  rw [runLex_of_parse hparse, LexRequest.run]
  simp only [hmode, lexFile_of_readSource hsource]
  cases tokenize source path defaultContext <;> rfl

theorem fails_or_lists (arguments : List String) (environment : Environment) (files : Files) :
    (runLex arguments environment files).Fails ∨
      ∃ mode path source tokens, Finds arguments environment files mode path source ∧
        tokenize source path defaultContext = .ok tokens := by
  rcases fails_or_finds arguments environment files with hfails | ⟨mode, path, source, hfinds⟩
  · exact .inl hfails
  · cases htokens : tokenize source path defaultContext with
    | ok tokens => exact .inr ⟨mode, path, source, tokens, hfinds, htokens⟩
    | error d =>
      left
      rw [hfinds.runLex_eq, htokens]
      exact Outcome.fails_failed files mode _

theorem Finds.exitCode_eq_zero {tokens : TokenList}
    (h : Finds arguments environment files mode path source)
    (htokens : tokenize source path defaultContext = .ok tokens) :
    (runLex arguments environment files).exitCode = 0 := by
  rw [h.runLex_eq, htokens]
  rfl

/-- A lexical diagnostic is about the file that has been named. -/
theorem file_of_tokenize_error {d : Diagnostic} {before : Nat}
    (h : tokenize source path before = .error d) : d.location.file = path := by
  obtain ⟨failure, -, rfl⟩ := tokenize_eq_error_iff.1 h
  rfl

/-- **The `lex` command is all or nothing.**  It succeeds exactly if it finds a source text that
consists of tokens, and then the whole listing is its output.  In all other cases it fails with
an empty output; a problem of the source text is reported in the mode that was asked for. -/
theorem runLex_all_or_nothing (arguments : List String) (environment : Environment)
    (files : Files) :
    ((runLex arguments environment files).exitCode = 0 ↔
      ∃ mode path source tokens, Finds arguments environment files mode path source ∧
        tokenize source path defaultContext = .ok tokens) ∧
    ((runLex arguments environment files).exitCode ≠ 0 →
      (runLex arguments environment files).Fails) ∧
    ∀ mode path source, Finds arguments environment files mode path source →
      (∀ tokens, tokenize source path defaultContext = .ok tokens →
        runLex arguments environment files =
            ⟨0, String.join (tokens.map fun token => token.label ++ "\n"), ""⟩ ∧
          tokens.getLast?.map Token.kind = some .eof) ∧
      ∀ d, tokenize source path defaultContext = .error d →
        runLex arguments environment files =
            ⟨1, "", (d.report files).print mode ++ (tally 1 0).print mode⟩ ∧
          d.location.file = path := by
  have hrun := fails_or_lists arguments environment files
  refine ⟨⟨fun hzero => ?_, ?_⟩, fun hcode => ?_, fun mode path source hfinds => ⟨?_, ?_⟩⟩
  · refine hrun.resolve_left fun hfails => ?_
    have hone := hfails.exitCode_eq
    omega
  · rintro ⟨mode, path, source, tokens, hfinds, htokens⟩
    exact hfinds.exitCode_eq_zero htokens
  · refine hrun.resolve_right ?_
    rintro ⟨mode, path, source, tokens, hfinds, htokens⟩
    exact hcode (hfinds.exitCode_eq_zero htokens)
  · intro tokens htokens
    rw [hfinds.runLex_eq, htokens, getLast?_of_tokenize htokens]
    exact ⟨rfl, rfl⟩
  · intro d hd
    rw [hfinds.runLex_eq, hd, ← print_append]
    exact ⟨rfl, file_of_tokenize_error hd⟩

/-- The last flag hides the first and the variable, neither of which names a mode. -/
theorem runLex_all_or_nothing_flags :
    let environment : Environment := ⟨fun _ => some "loud", false, false⟩
    let files : Files := ⟨fun path => .ok (if path = "a.k" then "x" else "#")⟩
    let stray := (Fault.strayCharacter '#').diagnostic ⟨"b.k", 1, 0⟩ ["#"]
    runLex ["--color=quiet", "a.k", "--color=never"] environment files =
        ⟨0, "IDENTIFIER(x)\nEOF\n", ""⟩ ∧
      runLex ["b.k", "--color=quiet", "--color=debug"] environment files =
        ⟨1, "", (stray.report files).print .debug ++ (tally 1 0).print .debug⟩ := by
  intro environment files stray
  have hlisted : Finds ["--color=quiet", "a.k", "--color=never"] environment files .plain
      "a.k" "x" :=
    ⟨by decide +kernel, by decide, ⟨.plain, by decide +kernel, rfl⟩, by decide +kernel, rfl⟩
  have hstopped : Finds ["b.k", "--color=quiet", "--color=debug"] environment files .debug
      "b.k" "#" :=
    ⟨by decide +kernel, by decide, ⟨.debug, by decide +kernel, rfl⟩, by decide +kernel, rfl⟩
  have htokens : tokenize "x" "a.k" defaultContext =
      .ok [⟨.identifier, some "x", ⟨1, 1⟩⟩, ⟨.eof, none, ⟨1, 1⟩⟩] := by
    decide +kernel
  have hstray : tokenize "#" "b.k" defaultContext = .error stray := by decide +kernel
  have hlist := (runLex_all_or_nothing _ environment files).2.2 _ _ _ hlisted
  have hstop := (runLex_all_or_nothing _ environment files).2.2 _ _ _ hstopped
  exact ⟨(hlist.1 _ htokens).1, (hstop.2 _ hstray).1⟩

end Runs

end FrontEnd
