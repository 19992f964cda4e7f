import Lox.Proofs.CommandLine.Matching
import Lox.Proofs.Run.Shapes

/-!
# The commands that read a file, stage by stage

Three commands read the text of a file. One lists its tokens, one shows its tree, and one evaluates
it. They agree on every stage that they share: what cannot be read, scanned or parsed fails for each
command that comes so far, with one report, and a command has no complaint about a stage that it
leaves out. A command that fails has no output, and one that succeeds writes no line to the error
stream, since no log entry of a run is a warning.

One kind of fault is not reported. A path whose lookup the file system refuses, because a name in it
is too long or a folder on the way may not be searched, breaks the program.

## Main definitions

* `ProgramOutcome.Fails`, `ProgramOutcome.Succeeds`: the two ways to finish
* `InStep`: three outcomes that agree stage by stage

## Main results

* `inStep_of_source`: the three commands agree on every source
* `ending_of_refused`: a lookup that is refused breaks each of the three commands
* `program_inStep_iff`: the three commands agree stage by stage, for every lookup that is not refused
* `program_breaks_on_long_name`: a lookup that is refused
-/

namespace Lox.CommandLine

/-! ## The two ways to finish -/

namespace ProgramOutcome

/-- **The program fails with a report**: it has no output, and the report is all that is written to
the error stream. -/
structure Fails (outcome : ProgramOutcome) (status : ExitStatus) (report : String) : Prop where
  ending : outcome.ending = .finished status
  output : outcome.output = ""
  errors : outcome.errors = [.text report]
  nonempty : report ≠ ""

/-- **The program succeeds**: nothing is written to the error stream. -/
structure Succeeds (outcome : ProgramOutcome) : Prop where
  ending : outcome.ending = .finished .ok
  errors : outcome.errors = []

end ProgramOutcome

/-- **Three outcomes in step**, of the commands that list the tokens, show the tree and evaluate it,
on the reading of a file. Either all fail because the file cannot be read, or all fail at the scan,
or the last two fail at the parse, or the last one fails at the evaluation, or none fails. Commands
that fail at the same stage have the same report. -/
inductive InStep (tokens tree run : ProgramOutcome) : Except ReadFault String → Prop
  | unreadable {fault report} :
      tokens.Fails .inputError report → tree.Fails .inputError report →
      run.Fails .inputError report → InStep tokens tree run (.error fault)
  | unscanned {source report} :
      tokens.Fails .dataError report → tree.Fails .dataError report →
      run.Fails .dataError report → InStep tokens tree run (.ok source)
  | unparsed {source report} :
      tokens.Succeeds → tree.Fails .dataError report → run.Fails .dataError report →
      InStep tokens tree run (.ok source)
  | faulty {source report} :
      tokens.Succeeds → tree.Succeeds → run.Fails .runtimeError report →
      InStep tokens tree run (.ok source)
  | evaluated {source} :
      tokens.Succeeds → tree.Succeeds → run.Succeeds → InStep tokens tree run (.ok source)

/-! ## The commands on a source -/

section Sources

variable {preferences : Preferences} {color : Bool} {source : String}

/-- Entries for debugging are not kept by default. -/
theorem filter_kept_of_debug {log : List LogEntry} (h : ∀ entry ∈ log, entry.level = .debug) :
    (log.map ErrorLine.log).filter (·.kept .warning) = [] := by
  rw [List.filter_eq_nil_iff]
  intro line hline
  obtain ⟨entry, hentry, rfl⟩ := List.mem_map.mp hline
  simp [ErrorLine.kept, LogEntry.reaches, h entry hentry, LogLevel.rank]

theorem exists_report (preferences : Preferences) (color : Bool) (source : String)
    (failure : Failure) :
    ∃ report, preferences.report color source failure = .text report ∧ report ≠ "" :=
  ⟨_, rfl, by simp⟩

/-- **A failure is reported**, and a log for debugging is not shown. -/
theorem fails_failed {log : List LogEntry} {failure : Failure} {report : String}
    (hlog : ∀ entry ∈ log, entry.level = .debug)
    (hreport : preferences.report color source failure = .text report) (hne : report ≠ "") :
    ((preferences.failed color source log failure).quiet .warning).Fails (.ofFailure failure)
      report where
  ending := rfl
  output := rfl
  errors := by
    simp only [ProgramOutcome.quiet, Preferences.failed, List.filter_append,
      filter_kept_of_debug hlog, hreport]
    rfl
  nonempty := hne

/-- A success with a log for debugging shows nothing of it. -/
theorem succeeds_quiet {output : String} {log : List LogEntry}
    (h : ∀ entry ∈ log, entry.level = .debug) :
    (ProgramOutcome.quiet { output := output, errors := log.map .log } .warning).Succeeds where
  ending := rfl
  errors := filter_kept_of_debug h

/-- **The commands agree on a source stage by stage.** -/
theorem inStep_of_source (preferences : Preferences) (color : Bool) (source : String)
    (file : Option String) :
    InStep ((listTokens preferences color source file).quiet .warning)
      ((showTree preferences color source file).quiet .warning)
      ((evaluateSource preferences color source file).quiet .warning) (.ok source) := by
  have hscanned (tokens : List Token) :
      ∀ entry ∈ [LogEntry.scanned tokens file], entry.level = .debug := by
    simp [LogEntry.scanned]
  -- by the stage at which the evaluation ends: the other two commands make a start of it
  have hcourse := run_course source file
  unfold evaluateSource
  generalize run source file = result at hcourse
  cases hcourse with
  | @unscanned error hscan =>
    obtain ⟨report, hreport, hne⟩ := exists_report preferences color source error.failure
    rw [listTokens, showTree, hscan]
    exact .unscanned (fails_failed (by simp) hreport hne) (fails_failed (by simp) hreport hne)
      (fails_failed (by simp [LogEntry.scanFailed]) hreport hne)
  | @unparsed tokens parser error hscan _ hparse herrors _ =>
    have hlog : ∀ entry ∈ [LogEntry.scanned tokens file, .parseError error],
        entry.level = .debug := by
      simp [LogEntry.scanned, LogEntry.parseError]
    obtain ⟨report, hreport, hne⟩ := exists_report preferences color source error.failure
    obtain ⟨_, _⟩ := parser
    cases herrors
    rw [listTokens, showTree, hscan]
    simp only [hparse]
    exact .unparsed (succeeds_quiet (hscanned tokens)) (fails_failed hlog hreport hne)
      (fails_failed hlog hreport hne)
  | @parsed tokens parser tree hscan _ hparse htree =>
    have hlog := runTree_log_unwarned htree.builtFrom.isRuled.isClean.unwarned file tokens
    have htokens := hscanned tokens
    rw [listTokens, showTree, hscan]
    simp only [hparse]
    obtain ⟨v, hv⟩ | ⟨cause, op, hfault⟩ := Expr.evaluate_cases htree.exists_kinds
    · rw [runTree_finished hv]
      exact .evaluated (succeeds_quiet htokens) (succeeds_quiet htokens) (succeeds_quiet hlog)
    · obtain ⟨report, hreport, hne⟩ :=
        exists_report preferences color source (.runtime cause.message op)
      rw [runTree_failed hfault]
      exact .faulty (succeeds_quiet htokens) (succeeds_quiet htokens)
        (fails_failed hlog hreport hne)

end Sources

/-! ## The commands on a file -/

/-- The outcome of a command with an argument: the log is kept from warnings on. -/
theorem program_commandLine {task : Task} {described : Described}
    (h : task.slot = .argument described) (world : World) (columns diagnostics : Bool)
    (argument : String) :
    program world (task.commandLine columns diagnostics argument) =
      (world.perform ⟨columns, diagnostics, .warning⟩ (task.request argument)).quiet .warning := by
  rw [program, readArguments_commandLine h]
  rfl

/-- A fault that is reported. -/
theorem fails_withSource {world : World} {path : Path} {fault : ReadFault}
    (hread : world.read path = .error fault) (hfault : fault.refusal? = none)
    (task : String → Option String → ProgramOutcome) :
    ((world.withSource path task).quiet .warning).Fails .inputError
      (fault.message path ++ "\n") := by
  have houtcome : world.withSource path task =
      { errors := [.text (fault.message path ++ "\n")], ending := .finished .inputError } := by
    simp only [World.withSource, hread, hfault]
  rw [houtcome]
  exact ⟨rfl, rfl, rfl, by simp⟩

/-- **A lookup that is refused breaks each of the three commands.** -/
theorem ending_of_refused {world : World} {file : String} {error : SystemError}
    (hread : world.read (.ofString file) = .error (.lookup error))
    (hrefused : error.isAbsence = false) (columns diagnostics : Bool) :
    ∀ task ∈ [Task.tokens, .tree, .run],
      (program world (task.commandLine columns diagnostics file)).ending =
        .broken (.refused (.ofString file) error) := by
  have hrefusal := ReadFault.refusal?_eq_some_iff.mpr ⟨rfl, hrefused⟩
  have hbroken (body : String → Option String → ProgramOutcome) :
      world.withSource (.ofString file) body = .brokenBy (.refused (.ofString file) error) := by
    simp only [World.withSource, hread, hrefusal]
  simp only [List.forall_mem_cons]
  refine ⟨?_, ?_, ?_, by simp⟩
  all_goals
    rw [program_commandLine rfl]
    exact congrArg ProgramOutcome.ending (congrArg (·.quiet .warning) (hbroken _))

/-- **The three commands agree stage by stage**, for every path, text and choice of reports, if and
only if the lookup of the path is not refused: if it has an error, that means that there is no such
file. -/
theorem program_inStep_iff (world : World) (columns diagnostics : Bool) (file : String) :
    InStep (program world (Task.tokens.commandLine columns diagnostics file))
        (program world (Task.tree.commandLine columns diagnostics file))
        (program world (Task.run.commandLine columns diagnostics file))
        (world.read (.ofString file)) ↔
      ∀ error, world.read (.ofString file) = .error (.lookup error) → error.isAbsence = true := by
  constructor
  · -- a program that is broken has not failed with a report
    intro hstep error hread
    by_contra hrefused
    rw [Bool.not_eq_true] at hrefused
    have hbroken := ending_of_refused hread hrefused columns diagnostics .tokens (by simp)
    rw [hread] at hstep
    obtain ⟨htokens, -, -⟩ := hstep
    cases htokens.ending.symm.trans hbroken
  · intro hfound
    rw [program_commandLine rfl, program_commandLine rfl, program_commandLine rfl]
    simp only [World.perform, Task.request]
    cases hread : world.read (.ofString file) with
    | error fault =>
      have hfault : fault.refusal? = none := by
        rw [Option.eq_none_iff_forall_ne_some]
        intro error hrefusal
        obtain ⟨rfl, hrefused⟩ := ReadFault.refusal?_eq_some_iff.mp hrefusal
        exact absurd (hfound error hread) (Bool.eq_false_iff.mp hrefused)
      exact .unreadable (fails_withSource hread hfault _) (fails_withSource hread hfault _)
        (fails_withSource hread hfault _)
    | ok source =>
      simp only [World.withSource, hread]
      exact inStep_of_source _ _ source _

/-- A name without slashes is a path of one part. -/
theorem ofString_name {name : String} (hslash : '/' ∉ name.toList) (hempty : name ≠ "")
    (hdot : name ≠ ".") : Path.ofString name = ⟨"", [name]⟩ := by
  have hparts : name.toList.splitOn '/' = [name.toList] := List.splitOn_eq_singleton hslash
  have hroot (slashes : List Char) : ('/' :: slashes).isPrefixOf name.toList = false := by
    cases htext : name.toList with
    | nil => rfl
    | cons c rest =>
      have hc : ('/' == c) = false := by
        rw [beq_eq_false_iff_ne]
        rintro rfl
        exact hslash (by simp [htext])
      rw [List.isPrefixOf, hc, Bool.false_and]
  simp [Path.ofString, hparts, hroot, hempty, hdot]

/-- The world of an empty folder. -/
def World.empty : World :=
  ⟨(Folder.mk []).read, [], false, false⟩

/-- A name that is too long, in an empty folder. -/
theorem read_of_long_name {name : String} (hslash : '/' ∉ name.toList)
    (hlong : Folder.nameLimit < name.utf8ByteSize) :
    World.empty.read (.ofString name) = .error (.lookup .nameTooLong) := by
  have hne {short : String} (hshort : short.utf8ByteSize ≤ Folder.nameLimit) : name ≠ short := by
    rintro rfl
    exact absurd hlong (Nat.not_lt.mpr hshort)
  have hroot : (Folder.mk []).find? [] = some .folder := rfl
  have hresolve : (Folder.mk []).resolve (some []) [name] = .error (.lookup .nameTooLong) := by
    have hdots : name ≠ ".." := hne (by decide)
    simp only [Folder.resolve, hroot, if_neg hdots, if_pos hlong]
  rw [ofString_name hslash (hne (by decide)) (hne (by decide))]
  change (Folder.mk []).read _ = _
  unfold Folder.read
  split
  · rfl
  · change ((Folder.mk []).resolve (some []) [name] >>= _) = _
    rw [hresolve]
    rfl

/-- **A lookup that is refused**: a name of 256 letters breaks each of the three commands, and their
outcomes are not in step. -/
theorem program_breaks_on_long_name :
    let file := String.ofList (List.replicate 256 'a')
    World.empty.read (.ofString file) = .error (.lookup .nameTooLong) ∧
      (∀ task ∈ [Task.tokens, .tree, .run],
        (program .empty (task.commandLine false false file)).ending =
          .broken (.refused (.ofString file) .nameTooLong)) ∧
      ¬ InStep (program .empty (Task.tokens.commandLine false false file))
        (program .empty (Task.tree.commandLine false false file))
        (program .empty (Task.run.commandLine false false file))
        (World.empty.read (.ofString file)) := by
  intro file
  have hslash : '/' ∉ file.toList := by
    rw [String.toList_ofList, List.mem_replicate]
    decide
  have hread := read_of_long_name hslash (by decide +kernel)
  have hbroken := ending_of_refused hread rfl false false
  refine ⟨hread, hbroken, fun hstep => ?_⟩
  rw [hread] at hstep
  obtain ⟨htokens, -, -⟩ := hstep
  cases htokens.ending.symm.trans (hbroken .tokens (by simp))

end Lox.CommandLine
