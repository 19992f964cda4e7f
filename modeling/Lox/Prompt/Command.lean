import Lox.Text.Blank
import Lox.Text.LetterCase

/-!
# Commands of the prompt

A line that starts with a colon is a command: its first word, in any letter case, names it.

## Main definitions

* `Command`: the commands
* `Command.ofName?`: the command with a name or an alias
* `Entry`, `Entry.ofLine`: what a typed line asks for
-/

namespace Lox

/-- A command of the prompt. -/
inductive Command where
  | help
  | quit
  | tokens
  | tree
deriving DecidableEq, Repr

namespace Command

/-- All commands. -/
def all : List Command :=
  [help, quit, tokens, tree]

/-- The name of a command. -/
def name : Command → String
  | help => "help"
  | quit => "quit"
  | tokens => "tokens"
  | tree => "ast"

/-- Its other names. -/
def aliases : Command → List String
  | help => ["h", "?"]
  | quit => ["q", "exit"]
  | tokens => ["t"]
  | tree => []

/-- What it does. -/
def description : Command → String
  | help => "Show this help message"
  | quit => "Exit the REPL"
  | tokens => "Show the tokens of an expression"
  | tree => "Show the tree of an expression"

/-- All names of a command. -/
def names (command : Command) : List String :=
  command.name :: command.aliases

/-- The command with a name or an alias. -/
def ofName? (name : String) : Option Command :=
  all.find? fun command => name ∈ command.names

end Command

/-- What a typed line asks for: nothing, the end of the session, a command with its argument, a
command that does not exist, or the value of a program. -/
inductive Entry where
  | nothing
  | leave
  | command (name : Command) (argument : String)
  | unknown (name : String)
  | program (source : String)
deriving DecidableEq, Repr

/-- The word that leaves the prompt. -/
def Entry.leaveWord : String :=
  "q"

/-- The entry of a command line without its colon. -/
def Entry.ofCommandLine (text : List Char) : Entry :=
  let (word, argument) := Text.firstWord text
  let name := String.ofList (Text.lowercase word)
  match Command.ofName? name with
  | some found => .command found (String.ofList argument)
  | none => .unknown name

/-- What a typed line asks for. Blanks at its ends do not count. -/
def Entry.ofLine (line : String) : Entry :=
  let text := Text.trim line.toList
  if text = [] then .nothing
  else if text = leaveWord.toList then .leave
  else
    match text with
    | ':' :: rest => ofCommandLine rest
    | _ => .program (String.ofList text)

end Lox
