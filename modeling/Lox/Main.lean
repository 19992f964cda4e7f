import Lox.CommandLine.Program
import Std.Time.Format

/-!
# The program

The program that is started from a command line. It reads the file its command line names, writes
the outcome to its streams, and at a prompt answers each line as soon as it is typed.

## Main definitions

* `readFile`: the text of a file
* `ProgramOutcome.write`: an outcome, written to the streams
* `talk`: a session at the prompt
* `main`: the program
-/

namespace Lox.CommandLine

/-- The time of day, as lines of the log show it. -/
def clock : IO String := do
  return (← Std.Time.PlainDateTime.now).format "uuuu-MM-dd HH:mm:ss,SSS"

/-- Write a line to the error stream. -/
def ErrorLine.write (line : ErrorLine) : IO Unit := do
  (← IO.getStderr).putStr (line.render (← clock))

/-- Write a text to the output stream at once. -/
def emit (text : String) : IO Unit := do
  let output ← IO.getStdout
  output.putStr text
  output.flush

/-- The number and the words of a failed access, where the system gives them. -/
def codeOfError? : IO.Error → Option (UInt32 × String)
  | .alreadyExists _ code words | .interrupted _ code words | .noFileOrDirectory _ code words
  | .invalidArgument _ code words | .permissionDenied _ code words
  | .resourceExhausted _ code words | .inappropriateType _ code words | .noSuchThing _ code words
  | .otherError code words | .resourceBusy code words | .resourceVanished code words
  | .unsupportedOperation code words | .hardwareFault code words
  | .unsatisfiedConstraints code words | .illegalOperation code words | .protocolError code words
  | .timeExpired code words => some (code, words)
  | .unexpectedEof | .userError _ => none

/-- The fault of a failed access to a file. A file is looked up before it is opened, and the error of
a lookup comes with its number negated and in other words. -/
def faultOfError (error : IO.Error) : ReadFault :=
  match codeOfError? error with
  | none => .lookup .notFound
  | some (code, words) =>
    if code < 0x80000000 then .access ⟨code.toNat, words⟩
    else .lookup (.ofNumber (0 - code).toNat words)

/-- The text of a file. -/
def readFile (path : Path) : IO (Except ReadFault String) := do
  try
    let bytes ← IO.FS.readBinFile path.text
    return sourceOfBytes bytes.data.toList
  catch error => return .error (faultOfError error)

/-- Write an outcome to the streams, and give the exit code. -/
def ProgramOutcome.write (outcome : ProgramOutcome) : IO UInt32 := do
  outcome.errors.forM ErrorLine.write
  emit outcome.output
  return UInt32.ofNat outcome.ending.code

/-- Answer the lines of the input stream until one of them leaves the prompt, or the input ends. -/
partial def talk (settings : Settings) (level : LogLevel) : IO Unit := do
  emit promptText
  let line ← (← IO.getStdin).getLine
  if line.isEmpty then emit ("\n" ++ settings.farewell ++ "\n")
  else
    let answer := answerLine settings line
    for entry in answer.log.filter (·.reaches level) do
      (ErrorLine.log entry).write
    emit answer.shown
    unless answer.leaves do talk settings level

/-- Whether a stream takes escape codes. -/
def takesColor (stream : IO.FS.Stream) : IO Bool := do
  return supportsColor (← IO.getEnv "NO_COLOR") (some (← stream.isTty))

/-- Fulfil a request and give the exit code. -/
def Invocation.execute (invocation : Invocation) : IO UInt32 := do
  let promptColor ← takesColor (← IO.getStdout)
  let found ← match invocation.request.path? with
    | some path => readFile path
    | none => pure (.error (.lookup .notFound))
  let world : World := {
    read := fun _ => found
    events := []
    errorColor := ← takesColor (← IO.getStderr)
    promptColor := promptColor }
  match invocation.request with
  | .prompt =>
    let level := invocation.preferences.logLevel
    let started : ProgramOutcome := { errors := [.log invocation.started] }
    let code ← (started.quiet level).write
    let settings := world.settings invocation.preferences
    emit settings.greeting
    talk settings level
    return code
  | _ => (world.invoke invocation).write

end Lox.CommandLine

/-- Run the program on the arguments of its command line. -/
def main (arguments : List String) : IO UInt32 := do
  match Lox.CommandLine.readArguments arguments with
  | .error (face, halt) => (face.halted Lox.programVersion halt).write
  | .ok invocation => invocation.execute
