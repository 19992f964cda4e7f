import Lox.Proofs.CommandLine.Stages
import Lox.Proofs.Prompt.Commands
import Lox.Proofs.Run.Margins

/-!
# Programs at the prompt and on the command line

The prompt trims a line before it runs it, and the command that evaluates its argument does not. If
what is trimmed is layout, and the line is one line of text, both show the same value, or the same
report of the failure.

## Main definitions

* `HasMargins`: the blanks at the ends of a line are spaces, tabs and CRs
* `AnsweredAlike`: the prompt and the command line answer a program alike

## Main results

* `program_eval`: how the command line answers a program
* `answerLine_alike`: the prompt answers a line as the command line does
-/

namespace Lox

open CommandLine

/-! ## The command line -/

/-- Nothing in the log of a run is more urgent than an entry for debugging. -/
theorem run_log_level (source : String) (file : Option String) :
    ∀ entry ∈ (run source file).log, entry.level = .debug := by
  -- only the evaluation of a tree can warn, and that of a parsed tree does not
  have hcourse := run_course source file
  generalize run source file = result at hcourse ⊢
  cases hcourse with
  | unscanned => simp [LogEntry.scanFailed]
  | unparsed => simp [LogEntry.scanned, LogEntry.parseError]
  | parsed _ _ _ htree =>
    exact runTree_log_unwarned htree.builtFrom.isRuled.isClean.unwarned file _

/-- A run has a failure or a value. -/
theorem run_failure_or_display (source : String) (file : Option String) :
    (∃ failure, (run source file).outcome.failure? = some failure) ∨
      (run source file).outcome.failure? = none ∧
        ∃ text, (run source file).outcome.display? = some text := by
  obtain ⟨error, h⟩ | ⟨tokens, error, h⟩ | ⟨tokens, tree, cause, op, h⟩ | ⟨tokens, tree, v, h⟩ :=
    run_ends source file
  · exact .inl ⟨_, by rw [h]; rfl⟩
  · exact .inl ⟨_, by rw [h]; rfl⟩
  · exact .inl ⟨_, by rw [h]; rfl⟩
  · exact .inr ⟨by rw [h]; rfl, _, by rw [h]; rfl⟩

section Command

variable {color : Bool} {source : String}

/-- What the command that evaluates its argument leaves behind. -/
theorem program_eval (world : World) (source : String) :
    program world (Task.eval.commandLine false false source) =
      (evaluateSource ⟨false, false, .warning⟩ world.errorColor source none).quiet .warning := by
  rw [program_commandLine rfl]
  rfl

/-- **A program that fails**: its report is written to the error stream. -/
theorem fails_evaluateSource {failure : Failure}
    (h : (run source none).outcome.failure? = some failure) :
    ((evaluateSource ⟨false, false, .warning⟩ color source none).quiet .warning).Fails
      (.ofFailure failure) (paint color [.red] failure.report ++ "\n") := by
  simp only [evaluateSource, h]
  exact fails_failed (run_log_level source none) rfl (by simp)

/-- **A program that has a value**: the value is displayed. -/
theorem succeeds_evaluateSource {text : String}
    (h : (run source none).outcome.failure? = none)
    (hdisplay : (run source none).outcome.display? = some text) :
    ((evaluateSource ⟨false, false, .warning⟩ color source none).quiet .warning).Succeeds ∧
      ((evaluateSource ⟨false, false, .warning⟩ color source none).quiet .warning).output =
        text ++ "\n" := by
  simp only [evaluateSource, h, hdisplay]
  exact ⟨succeeds_quiet (run_log_level source none), rfl⟩

end Command

/-! ## The prompt -/

/-- The blanks at the ends of the line are spaces, tabs and CRs. -/
structure HasMargins (line : List Char) : Prop where
  start : IsMargin (line.takeWhile Text.isBlank)
  stop : IsMargin (line.rtakeWhile Text.isBlank)

/-- **The program is answered alike** at a prompt without colour and on a command line, which may use
colour for errors: both display the value that its run has, or both give the one-line report of its
failure. -/
inductive AnsweredAlike (source : String) (color : Bool) (typed : Answer)
    (evaluated : ProgramOutcome) : Prop
  | value {text} :
      (run source none).outcome.display? = some text → typed.output = some text →
      evaluated.Succeeds → evaluated.output = text ++ "\n" →
      AnsweredAlike source color typed evaluated
  | failure {failure} :
      (run source none).outcome.failure? = some failure →
      typed.output = some failure.report →
      evaluated.Fails (.ofFailure failure) (paint color [.red] failure.report ++ "\n") →
      AnsweredAlike source color typed evaluated

/-- **What is typed is answered as the run of the whole line would be**: with the report of its
failure, or with its value. -/
theorem output_answerLine {line : String} (hline : '\n' ∉ line.toList)
    (hmargins : HasMargins line.toList) (h : Entry.IsProgram (Text.trim line.toList)) :
    (answerLine ⟨false, false⟩ line).output =
      ((run line none).outcome.failure?.map Failure.report).or
        (run line none).outcome.display? := by
  obtain ⟨margin, htext, hmargin⟩ := Text.exists_margin line.toList
  have hstop : IsMargin margin := fun c hc => hmargins.stop c (hmargin hc)
  obtain ⟨trimmed, hchars⟩ : ∃ trimmed : String, trimmed.toList = Text.trim line.toList :=
    ⟨_, String.toList_ofList⟩
  -- the prompt runs the trimmed line, and the whole line is that one with margins
  rw [answerLine_program _ h, ← hchars, String.ofList_toList]
  rw [← hchars] at htext
  rw [report_run_margins htext hmargins.start hstop hline none,
    (run_margins htext hmargins.start hstop none).display]
  rfl

/-- **The prompt answers a line as the command line does**, although it trims the line: the line has
no LF, and the blanks at its ends are layout. -/
theorem answerLine_alike {line : String} (hline : '\n' ∉ line.toList)
    (hmargins : HasMargins line.toList) (h : Entry.IsProgram (Text.trim line.toList))
    (world : World) :
    AnsweredAlike line world.errorColor (answerLine ⟨false, false⟩ line)
      (program world (Task.eval.commandLine false false line)) := by
  have htyped := output_answerLine hline hmargins h
  rw [program_eval]
  obtain ⟨failure, hfailure⟩ | ⟨hnone, text, hdisplay⟩ := run_failure_or_display line none
  · rw [hfailure, Option.map_some, Option.some_or] at htyped
    exact .failure hfailure htyped (fails_evaluateSource hfailure)
  · rw [hnone, Option.map_none, Option.none_or, hdisplay] at htyped
    obtain ⟨hsucceeds, hshown⟩ := succeeds_evaluateSource hnone hdisplay
    exact .value hdisplay htyped hsucceeds hshown

/-- A string without a number in front of a comment, between a tab and a CR. -/
theorem answerLine_alike_comment :
    let line := "\t-\"a\" //\r"
    let report := "[line 1] Error at '-': Operand must be a number"
    '\n' ∉ line.toList ∧ HasMargins line.toList ∧ Entry.IsProgram (Text.trim line.toList) ∧
      (answerLine ⟨false, false⟩ line).output = some report ∧
      (program .empty (Task.eval.commandLine false false line)).errors =
        [.text (report ++ "\n")] := by
  intro line report
  have hchars : line.toList = ['\t', '-', '"', 'a', '"', ' ', '/', '/', '\r'] := by decide
  have htrim : Text.trim line.toList = ['-', '"', 'a', '"', ' ', '/', '/'] := by
    rw [hchars]
    decide
  have hline : '\n' ∉ line.toList := by simp [hchars]
  have hmargins : HasMargins line.toList := by
    have hstart : line.toList.takeWhile Text.isBlank = ['\t'] := by
      rw [hchars]
      decide
    have hstop : line.toList.rtakeWhile Text.isBlank = ['\r'] := by
      rw [hchars]
      decide
    exact ⟨by simp [hstart, IsMargin], by simp [hstop, IsMargin]⟩
  have hprogram : Entry.IsProgram (Text.trim line.toList) := by
    rw [htrim]
    exact ⟨by simp, by decide, by simp⟩
  have hscan : tokensOf "\t-\"a\" //\r" none =
      .ok [.ofLexeme .minus ['-'] ⟨1, 2, 1, none⟩,
        .ofLexeme .string ['"', 'a', '"'] ⟨1, 3, 2, none⟩, .endOfText ⟨1, 10, 9, none⟩] :=
    tokensOf_eq_scanWithin _ _
  have hfailure : (run line none).outcome.failure? =
      some (.runtime "Operand must be a number" (.ofLexeme .minus ['-'] ⟨1, 2, 1, none⟩)) := by
    rw [run, hscan]
    rfl
  have hreport : Failure.report
      (.runtime "Operand must be a number" (.ofLexeme .minus ['-'] ⟨1, 2, 1, none⟩)) = report := by
    decide +kernel
  refine ⟨hline, hmargins, hprogram, ?_⟩
  cases answerLine_alike hline hmargins hprogram .empty with
  | value hdisplay =>
    rw [run, hscan] at hdisplay
    cases hdisplay
  | failure hfailure' htyped hfails =>
    cases hfailure.symm.trans hfailure'
    rw [htyped, hfails.errors, hreport]
    exact ⟨rfl, rfl⟩

end Lox
