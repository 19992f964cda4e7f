import Lox.CommandLine.Outcome
import Lox.Diagnostic.Render
import Lox.Files
import Lox.Prompt.Session

/-!
# The command line of the program

The program evaluates an expression that is given to it, or that stands in a file; it can also list
the tokens of a file or show its tree, and it talks to the user at a prompt.

## Main definitions

* `Task`: the commands
* `Request`, `Preferences`: what a command line asks for
* `readArguments`: the request of a command line
* `World`: what the program finds
* `program`: the outcome of a command line
-/

namespace Lox.CommandLine

/-- The commands of the program. -/
inductive Task where
  | run
  | eval
  | tokens
  | tree
  | prompt
deriving DecidableEq, Repr

namespace Task

/-- All commands. -/
def all : List Task :=
  [run, eval, tokens, tree, prompt]

/-- The name of a command. -/
def name : Task → String
  | run => "run"
  | eval => "eval"
  | tokens => "tokens"
  | tree => "ast"
  | prompt => "repl"

/-- What a command does. -/
def description : Task → String
  | run => "Evaluate a Lox source file"
  | eval => "Evaluate an expression string"
  | tokens => "Show the token stream (debug)"
  | tree => "Show the expression tree (debug)"
  | prompt => "Start the interactive prompt"

/-- The argument of a command. -/
def slot : Task → Slot
  | run => .argument ⟨"input", "Input .lox file"⟩
  | eval => .argument ⟨"expression", "Lox expression"⟩
  | tokens => .argument ⟨"input", "Input .lox file"⟩
  | tree => .argument ⟨"input", "Input .lox file"⟩
  | prompt => .empty

/-- The command with a given name. -/
def ofName? (name : String) : Option Task :=
  all.find? (·.name = name)

end Task

/-- The name of the program. -/
def programName : String :=
  "loxpy"

/-- The switch that names a file to run. -/
def sourceSwitch : Switch where
  names := ["-s", "--source", "--src"]
  takes := .text "SOURCE"
  description := "Path to a Lox source file to run (starts the REPL when omitted)"

/-- The interface of the program. -/
def mainFace : Interface where
  program := programName
  description := s!"{programName} - scanner, parser and evaluator for Lox expressions"
  switches := [
    helpSwitch,
    ⟨["-V", "--version"], .version, "show program's version number and exit"⟩,
    sourceSwitch,
    ⟨["--columns"], .nothing, "Include column numbers in error reports"⟩,
    ⟨["--diagnostics"], .nothing, "Render errors as diagnostics with source context"⟩,
    logLevelSwitch "warning"]
  slot := .command ⟨"command", "Available commands"⟩
    (Task.all.map fun task => ⟨task.name, task.description⟩)

/-- The interface of a command. -/
def Task.face (task : Task) : Interface where
  program := s!"{programName} {task.name}"
  description := ""
  switches := [helpSwitch]
  slot := task.slot

/-- What a command line asks for; a path is the one to read the source from. -/
inductive Request where
  | run (path : Path)
  | eval (source : String)
  | tokens (path : Path)
  | tree (path : Path)
  | prompt
deriving DecidableEq, Repr

/-- The path of the file a request needs, if it needs one. -/
def Request.path? : Request → Option Path
  | run path => some path
  | tokens path => some path
  | tree path => some path
  | eval _ => none
  | prompt => none

/-- How failures are reported, and what is logged. -/
structure Preferences where
  columns : Bool
  diagnostics : Bool
  logLevel : LogLevel
deriving DecidableEq, Repr

/-- A command line that has been understood; `task` is its command, if it names one. -/
structure Invocation where
  preferences : Preferences
  task : Option Task
  request : Request
deriving DecidableEq, Repr

/-- The request of a command with its argument. -/
def Task.request (task : Task) (argument : String) : Request :=
  match task with
  | run => .run (.ofString argument)
  | eval => .eval argument
  | tokens => .tokens (.ofString argument)
  | tree => .tree (.ofString argument)
  | prompt => .prompt

/-- The preferences of a command line. -/
def Matched.preferences (matched : Matched) : Except Halt Preferences := do
  return {
    columns := matched.has "--columns"
    diagnostics := matched.has "--diagnostics"
    logLevel := ← matched.logLevel .warning }

/-- The request of a command line without a command: the file of the source switch is run, and
without that switch the prompt is started. -/
def Matched.sourceRequest (matched : Matched) : Except Halt Request :=
  match matched.last? "--source" with
  | none => .ok .prompt
  | some none => .error (.unfilled .source)
  | some (some path) => .ok (.run (.ofString path))

/-- The request of a command line, or the interface that ends it. -/
def readArguments (arguments : List String) : Except (Interface × Halt) Invocation := do
  let matched ← (mainFace.match? arguments).mapError (mainFace, ·)
  match matched.operand with
  | [] =>
    (Matched.refuseLeftOver matched.leftOver).mapError (mainFace, ·)
    let preferences ← matched.preferences.mapError (mainFace, ·)
    let request ← matched.sourceRequest.mapError (mainFace, ·)
    return ⟨preferences, none, request⟩
  | name :: others =>
    match Task.ofName? name with
    | none => (refuseChoice "command" name (Task.all.map Task.name)).mapError (mainFace, ·)
    | some task =>
      let inner ← (task.face.match? others).mapError (task.face, ·)
      (Matched.refuseLeftOver (matched.leftOver ++ inner.leftOver)).mapError (mainFace, ·)
      let preferences ← matched.preferences.mapError (mainFace, ·)
      return ⟨preferences, some task, task.request (inner.operand.headD "")⟩

/-- What the program finds: the texts of files, the events at the prompt, and whether its error
stream and its prompt take colour. -/
structure World where
  read : Path → Except ReadFault String
  events : List Event
  errorColor : Bool
  promptColor : Bool

/-- The report of a failure. -/
def Preferences.report (preferences : Preferences) (color : Bool) (source : String)
    (failure : Failure) : ErrorLine :=
  .text ((if preferences.diagnostics then (Diagnostic.ofFailure failure none).render source color
    else paint color [.red] (failure.reportWith preferences.columns)) ++ "\n")

/-- The outcome of a failure, after a log. -/
def Preferences.failed (preferences : Preferences) (color : Bool) (source : String)
    (log : List LogEntry) (failure : Failure) : ProgramOutcome where
  errors := log.map .log ++ [preferences.report color source failure]
  ending := .finished (.ofFailure failure)

/-- The outcome of a program's run: its value, or its failure. -/
def evaluateSource (preferences : Preferences) (color : Bool) (source : String)
    (file : Option String) : ProgramOutcome :=
  let result := Lox.run source file
  match result.outcome.failure? with
  | some failure => preferences.failed color source result.log failure
  | none =>
    { output := result.outcome.display?.getD "" ++ "\n", errors := result.log.map .log }

/-- A token with its line, as a listing of a file shows it. -/
def tokenLine (token : Token) : String :=
  let line := toString token.location.line
  spaces (4 - line.length) ++ line ++ "  " ++ token.text ++ "\n"

/-- The listing of a source's tokens. -/
def listTokens (preferences : Preferences) (color : Bool) (source : String)
    (file : Option String) : ProgramOutcome :=
  match tokensOf source file with
  | .error error => preferences.failed color source [] error.failure
  | .ok tokens =>
    { output := String.join (tokens.map tokenLine), errors := [.log (.scanned tokens file)] }

/-- The text of a source's tree. -/
def showTree (preferences : Preferences) (color : Bool) (source : String)
    (file : Option String) : ProgramOutcome :=
  match tokensOf source file with
  | .error error => preferences.failed color source [] error.failure
  | .ok tokens =>
    let scanned := LogEntry.scanned tokens file
    match parseTokens tokens with
    | .ok (some tree, _) =>
      { output := tree.parenthesized.toOption.getD "" ++ "\n", errors := [.log scanned] }
    | .ok (none, { errors := error :: _, .. }) =>
      preferences.failed color source [scanned, .parseError error] error.failure
    | _ => { errors := [.log scanned] }

/-- The outcome of a task on the source in a file. -/
def World.withSource (world : World) (path : Path)
    (task : (source : String) → (file : Option String) → ProgramOutcome) : ProgramOutcome :=
  match world.read path with
  | .error fault =>
    match fault.refusal? with
    | some error => .brokenBy (.refused path error)
    | none => { errors := [.text (fault.message path ++ "\n")], ending := .finished .inputError }
  | .ok source => task source (some path.text)

/-- How the prompt writes. -/
def World.settings (world : World) (preferences : Preferences) : Settings where
  columns := preferences.columns
  color := world.promptColor

/-- The outcome of a request. -/
def World.perform (world : World) (preferences : Preferences) : Request → ProgramOutcome
  | .run path => world.withSource path (evaluateSource preferences world.errorColor)
  | .eval source => evaluateSource preferences world.errorColor source none
  | .tokens path => world.withSource path (listTokens preferences world.errorColor)
  | .tree path => world.withSource path (showTree preferences world.errorColor)
  | .prompt =>
    let talk := converse (world.settings preferences) world.events
    { output := talk.output, errors := talk.log.map .log }

/-- The log entry about the start of the program. -/
def Invocation.started (invocation : Invocation) : LogEntry where
  level := .debug
  logger := programName
  message :=
    let command := (invocation.task.map Task.name).getD "default"
    s!"{programName} {programVersion}, command: {command}"

/-- The outcome of an invocation. -/
def World.invoke (world : World) (invocation : Invocation) : ProgramOutcome :=
  let outcome := world.perform invocation.preferences invocation.request
  ({ outcome with errors := .log invocation.started :: outcome.errors }).quiet
    invocation.preferences.logLevel

/-- The outcome of a command line. -/
def program (world : World) (arguments : List String) : ProgramOutcome :=
  match readArguments arguments with
  | .error (face, halt) => face.halted programVersion halt
  | .ok invocation => world.invoke invocation

end Lox.CommandLine
