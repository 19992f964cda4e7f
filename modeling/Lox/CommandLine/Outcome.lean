import Lox.CommandLine.Arguments
import Lox.CommandLine.Help
import Lox.Files
import Lox.Log

/-!
# Outcomes of command lines

What a program started from a command line leaves behind: its output, its lines for the error
stream, and its exit status. Arguments that ask for help or are refused end it before it starts.

## Main definitions

* `ErrorLine`: a line of the error stream
* `ExitStatus`: the exit statuses
* `Breakdown`: what a program is not prepared for
* `ProgramOutcome`: output, error lines and status
* `Interface.halted`: the outcome of arguments that end the program
-/

namespace Lox

/-- A line with the time it was logged at, as the error stream shows it. -/
def LogEntry.timed (entry : LogEntry) (time : String) : String :=
  s!"{time} [{entry.level.name}] {entry.logger}: {entry.message}"

namespace CommandLine

/-- What is written to the error stream: a line with a log entry, or a text. -/
inductive ErrorLine where
  | log (entry : LogEntry)
  | text (text : String)
deriving DecidableEq, Repr

/-- The line as written at a given time. -/
def ErrorLine.render (time : String) : ErrorLine → String
  | log entry => entry.timed time ++ "\n"
  | text line => line

/-- Whether a log at the given level keeps the line. -/
def ErrorLine.kept (level : LogLevel) : ErrorLine → Bool
  | log entry => entry.reaches level
  | text _ => true

/-- How a program ends. -/
inductive ExitStatus where
  | ok
  | inputError
  | dataError
  | runtimeError
deriving DecidableEq, Repr

namespace ExitStatus

/-- The statuses in the order of their codes. -/
def all : List ExitStatus :=
  [ok, inputError, dataError, runtimeError]

/-- The exit code. -/
def code : ExitStatus → Nat
  | ok => 0
  | inputError => 1
  | dataError => 65
  | runtimeError => 70

/-- The exit status for a failure. -/
def ofFailure (failure : Failure) : ExitStatus :=
  if failure.stage = .runtime then .runtimeError else .dataError

end ExitStatus

/-- What a program is not prepared for: a needed switch without an argument, or a path whose lookup
the file system refuses. -/
inductive Breakdown where
  | unfilled (needed : NeededSwitch)
  | refused (path : Path) (error : SystemError)
deriving DecidableEq, Repr

/-- What is wrong when a program breaks down. -/
def Breakdown.message : Breakdown → String
  | unfilled needed => s!"argument {needed.name}: no argument"
  | refused path error => error.text path

/-- How a program ends: by itself, by its arguments with the given code, or by a breakdown. -/
inductive Ending where
  | finished (status : ExitStatus)
  | halted (code : Nat)
  | broken (breakdown : Breakdown)
deriving DecidableEq, Repr

/-- The exit code of a program that ends in this way. -/
def Ending.code : Ending → Nat
  | finished status => status.code
  | halted code => code
  | broken _ => 1

/-- What a program leaves behind. -/
structure ProgramOutcome where
  output : String := ""
  errors : List ErrorLine := []
  ending : Ending := .finished .ok
deriving DecidableEq, Repr

/-- The outcome of a breakdown. -/
def ProgramOutcome.brokenBy (breakdown : Breakdown) : ProgramOutcome where
  errors := [.text (breakdown.message ++ "\n")]
  ending := .broken breakdown

/-- The outcome without the log entries that are less urgent than a level. -/
def ProgramOutcome.quiet (outcome : ProgramOutcome) (level : LogLevel) : ProgramOutcome :=
  { outcome with errors := outcome.errors.filter (·.kept level) }

/-- The log levels a command line can ask for. -/
def logLevelWords : List (String × LogLevel) :=
  [("debug", .debug), ("info", .info), ("warning", .warning), ("error", .error)]

/-- The switch that sets the log level. -/
def logLevelSwitch (standard : String) : Switch where
  names := ["--log-level"]
  takes := .oneOf (logLevelWords.map (·.1))
  description := s!"Logging level (default: {standard})"

/-- The log level that is asked for. -/
def Matched.logLevel (matched : Matched) (standard : LogLevel) : Except Halt LogLevel :=
  match matched.last? "--log-level" with
  | none => .ok standard
  | some none => .error (.unfilled .logLevel)
  | some (some word) => .ok ((logLevelWords.lookup word).getD standard)

/-- The outcome of arguments that end the program. -/
def Interface.halted (face : Interface) (version : String) : Halt → ProgramOutcome
  | .help => { output := face.help, ending := .halted 0 }
  | .version => { output := s!"{face.program} {version}\n", ending := .halted 0 }
  | .refused message =>
    { errors := [.text face.usage, .text s!"{face.program}: error: {message}\n"]
      ending := .halted 2 }
  | .unfilled needed => .brokenBy (.unfilled needed)

/-- The refusal of arguments that are left over. -/
def Matched.refuseLeftOver (leftOver : List String) : Except Halt Unit :=
  if leftOver.isEmpty then .ok ()
  else .error (.refused ("unrecognized arguments: " ++ String.intercalate " " leftOver))

end CommandLine

end Lox
