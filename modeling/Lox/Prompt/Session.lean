import Lox.Outcome
import Lox.Prompt.Command
import Lox.Terminal

/-!
# Sessions at the prompt

A session answers typed lines one after the other. No line depends on another one; a session only
remembers the lines and whether it has been left.

## Main definitions

* `Settings`: how a session writes
* `Answer`, `answerLine`: the answer to a line
* `Session`, `Session.enter`: a session and its next line
* `Event`, `Session.follow`: a whole session, from its greeting to its end
-/

namespace Lox

/-- How a session writes: whether reports name the column, and whether it uses colour. -/
structure Settings where
  columns : Bool
  color : Bool
deriving DecidableEq, Repr

/-- The version of the program. -/
def programVersion : String :=
  "0.1.0"

namespace Settings

/-- The help text: each row with its styled part. -/
def help (settings : Settings) : String :=
  let row (style : Style) (lead text rest : String) : String :=
    lead ++ paint settings.color [style] text ++ rest
  String.intercalate "\n" [
    row .bold "" "Commands:" "",
    row .cyan "  " ":help" "            Show this help",
    row .cyan "  " ":quit, :q, q" "     Exit REPL",
    row .cyan "  " ":tokens <expr>" "   Show tokens of expression",
    row .cyan "  " ":ast <expr>" "      Show tree of expression",
    "",
    row .bold "" "Expressions:" "",
    row .green "  " "1 + 2 * 3" "             Arithmetic",
    row .green "  " "\"lo\" + \"x\"" "            String concatenation",
    row .green "  " "!(1 >= 2) == true" "     Comparison and equality"]

/-- The farewell. -/
def farewell (settings : Settings) : String :=
  paint settings.color [.dim] "Goodbye!"

/-- What is shown when the user interrupts. -/
def interruptHint (settings : Settings) : String :=
  paint settings.color [.dim] s!"Type {Entry.leaveWord} to exit"

/-- The greeting. -/
def greeting (settings : Settings) : String :=
  paint settings.color [.bold] s!"loxpy {programVersion}" ++ " - Interactive Mode\nType " ++
    paint settings.color [.cyan] ":help" ++ " for help, " ++
    paint settings.color [.cyan] Entry.leaveWord ++ " to exit\n\n"

/-- The report of a failure. -/
def report (settings : Settings) (failure : Failure) : String :=
  paint settings.color [.red] (failure.reportWith settings.columns)

/-- How a command with an argument is used. -/
def usage (settings : Settings) (command : Command) : String :=
  paint settings.color [.yellow] s!"Usage: :{command.name} <expression>"

end Settings

/-- The answer to a line: what is shown, if anything, whether the session ends, and the log. -/
structure Answer where
  output : Option String
  leaves : Bool := false
  log : List LogEntry := []
deriving DecidableEq, Repr

/-- The tokens of a program, one in a line. -/
def answerTokens (settings : Settings) (source : String) : Answer :=
  match tokensOf source none with
  | .error error => { output := settings.report error.failure }
  | .ok tokens =>
    { output := String.intercalate "\n" (tokens.map Token.text), log := [.scanned tokens none] }

/-- The tree of a program. -/
def answerTree (settings : Settings) (source : String) : Answer :=
  match tokensOf source none with
  | .error error => { output := settings.report error.failure }
  | .ok tokens =>
    match parseTokens tokens with
    | .ok (some tree, _) =>
      { output := tree.parenthesized.toOption, log := [.scanned tokens none] }
    | .ok (none, { errors := error :: _, .. }) =>
      { output := settings.report error.failure, log := [.scanned tokens none, .parseError error] }
    | _ => { output := none, log := [.scanned tokens none] }

/-- The value of a program, or its failure. -/
def answerProgram (settings : Settings) (source : String) : Answer :=
  let result := run source none
  { output := (result.outcome.failure?.map settings.report).or result.outcome.display?
    log := result.log }

/-- The answer to a command. -/
def answerCommand (settings : Settings) (argument : String) : Command → Answer
  | .help => { output := settings.help }
  | .quit => { output := settings.farewell, leaves := true }
  | .tokens =>
    if argument.isEmpty then { output := settings.usage .tokens }
    else answerTokens settings argument
  | .tree =>
    if argument.isEmpty then { output := settings.usage .tree } else answerTree settings argument

/-- The answer to a line. -/
def answerLine (settings : Settings) (line : String) : Answer :=
  match Entry.ofLine line with
  | .nothing => { output := none }
  | .leave => { output := settings.farewell, leaves := true }
  | .command name argument => answerCommand settings argument name
  | .unknown name =>
    { output := paint settings.color [.red] s!"Unknown command: :{name}" ++
        "\nType :help for available commands" }
  | .program source => answerProgram settings source

/-- The lines of a session, and whether it goes on. -/
structure Session where
  history : List String := []
  running : Bool := true
deriving DecidableEq, Repr

/-- The session after a line. -/
def Session.enter (session : Session) (line : String) (answer : Answer) : Session where
  history := session.history ++ [line]
  running := session.running && !answer.leaves

/-- What happens at the prompt: a line is typed, the user interrupts, or the input ends. -/
inductive Event where
  | line (text : String)
  | interrupt
  | endOfInput
deriving DecidableEq, Repr

/-- What a session writes, the session at its end, and the log. -/
structure Transcript where
  output : String
  session : Session
  log : List LogEntry
deriving DecidableEq, Repr

/-- The prompt. -/
def promptText : String :=
  "> "

/-- The output of an answer: a line, unless there is nothing to show. -/
def Answer.shown (answer : Answer) : String :=
  match answer.output.filter (· ≠ "") with
  | some text => text ++ "\n"
  | none => ""

/-- The transcript of a session that follows events. It ends when it is left or the input ends, and
the input ends with the events. -/
def Session.follow (settings : Settings) (session : Session) : List Event → Transcript
  | [] => ⟨promptText ++ "\n" ++ settings.farewell ++ "\n", session, []⟩
  | .endOfInput :: _ => ⟨promptText ++ "\n" ++ settings.farewell ++ "\n", session, []⟩
  | .interrupt :: rest =>
    let later := session.follow settings rest
    { later with output := promptText ++ "\n" ++ settings.interruptHint ++ "\n" ++ later.output }
  | .line text :: rest =>
    let answer := answerLine settings text
    let next := session.enter text answer
    if answer.leaves then ⟨promptText ++ answer.shown, next, answer.log⟩
    else
      let later := next.follow settings rest
      ⟨promptText ++ answer.shown ++ later.output, later.session, answer.log ++ later.log⟩

/-- The transcript of a whole session. -/
def converse (settings : Settings) (events : List Event) : Transcript :=
  let talk := ({} : Session).follow settings events
  { talk with output := settings.greeting ++ talk.output }

end Lox
