/-!
# Command-line interfaces

A command-line interface is described by its switches and by its operand, which is an argument or a
command with arguments of its own. Arguments are matched against the description, and usage and help
texts are laid out from it.

## Main definitions

* `Takes`, `Switch`: the switches and what they take
* `Slot`: the operand
* `Interface`: a program's interface
-/

namespace Lox.CommandLine

/-- What a switch does or takes: it shows the help or the version, it takes nothing, or it takes one
argument, which is a text, an integer or one of several words. The label stands for the argument in
usage texts. -/
inductive Takes where
  | help
  | version
  | nothing
  | text (label : String)
  | integer (label : String)
  | oneOf (words : List String)
deriving DecidableEq, Repr

/-- The words to choose from, in braces. -/
def choiceLabel (words : List String) : String :=
  "\x7b" ++ String.intercalate "," words ++ "\x7d"

/-- The label of the argument a switch takes, if it takes one. -/
def Takes.label? : Takes → Option String
  | help => none
  | version => none
  | nothing => none
  | text label => some label
  | integer label => some label
  | oneOf words => some (choiceLabel words)

/-- A switch with all its names. -/
structure Switch where
  names : List String
  takes : Takes
  description : String
deriving DecidableEq, Repr

/-- How error messages call a switch. -/
def Switch.title (switch : Switch) : String :=
  String.intercalate "/" switch.names

/-- An argument or a command, with what the help says about it. -/
structure Described where
  name : String
  description : String
deriving DecidableEq, Repr

/-- The operand of a program: none, one argument, or one of several commands, to which all further
arguments belong. -/
inductive Slot where
  | empty
  | argument (argument : Described)
  | command (title : Described) (commands : List Described)
deriving DecidableEq, Repr

/-- The interface of a program; the description may be empty. -/
structure Interface where
  program : String
  description : String
  switches : List Switch
  slot : Slot
deriving DecidableEq, Repr

/-- The switch that shows the help. -/
def helpSwitch : Switch where
  names := ["-h", "--help"]
  takes := .help
  description := "show this help message and exit"

end Lox.CommandLine
