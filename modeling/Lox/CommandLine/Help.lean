import Lox.CommandLine.Interface

/-!
# Usage and help texts

The texts that tell how a program is used. Lines are at most 78 characters wide, and descriptions
stand in a column of their own.

## Main definitions

* `Interface.usage`: the usage text
* `Interface.help`: the help text
-/

namespace Lox.CommandLine

/-- The width of a line. -/
def lineWidth : Nat :=
  78

/-- The last column in which descriptions may start. -/
def lastDescriptionColumn : Nat :=
  24

/-- A number of spaces. -/
def spaces (n : Nat) : String :=
  String.ofList (List.replicate n ' ')

/-- The parts in lines as long as fit, when `used` characters of the first line are taken and
`indent` of each other line. A space stands before each part. -/
def fillLines (width indent : Nat) :
    (used : Nat) → (line : List String) → List String → List (List String)
  | _, line, [] => if line.isEmpty then [] else [line]
  | used, line, part :: rest =>
    if width < used + 1 + part.length && !line.isEmpty then
      line :: fillLines width indent (indent + 1 + part.length) [part] rest
    else fillLines width indent (used + 1 + part.length) (line ++ [part]) rest

/-- The words of a text in lines of a given width. -/
def wrapText (width : Nat) (text : String) : List String :=
  (fillLines (width + 1) 0 0 [] (text.splitOn " ")).map (String.intercalate " ")

/-- How the usage text shows a switch. -/
def Switch.usage (switch : Switch) : String :=
  let name := switch.names.headD ""
  match switch.takes.label? with
  | some label => "[" ++ name ++ " " ++ label ++ "]"
  | none => "[" ++ name ++ "]"

/-- How the help text shows a switch. -/
def Switch.heading (switch : Switch) : String :=
  String.intercalate ", " (switch.names.map fun name =>
    match switch.takes.label? with
    | some label => name ++ " " ++ label
    | none => name)

/-- The names of the commands. -/
def commandNames (commands : List Described) : List String :=
  commands.map (·.name)

/-- How the usage text shows the operand. -/
def Slot.usage : Slot → List String
  | empty => []
  | argument described => [described.name]
  | command _ commands => [choiceLabel (commandNames commands), "..."]

namespace Interface

/-- The usage text. If it does not fit into a line, the switches and the operand start lines of
their own, below the first switch. -/
def usage (face : Interface) : String :=
  let lead := "usage: "
  let switches := face.switches.map Switch.usage
  let line := String.intercalate " " (face.program :: switches ++ face.slot.usage)
  if lead.length + line.length ≤ lineWidth then lead ++ line ++ "\n"
  else
    let indent := lead.length + face.program.length + 1
    let rows := fillLines lineWidth (indent - 1) (lead.length + face.program.length) [] switches ++
      fillLines lineWidth (indent - 1) (indent - 1) [] face.slot.usage
    lead ++ face.program ++ " " ++
      String.intercalate ("\n" ++ spaces indent) (rows.map (String.intercalate " ")) ++ "\n"

/-- A row of the help text: its indentation, heading and description. -/
structure Row where
  indent : Nat
  heading : String
  description : String

/-- The rows of the switches. -/
def switchRows (face : Interface) : List Row :=
  face.switches.map fun switch => ⟨2, switch.heading, switch.description⟩

/-- The rows of the operand. -/
def slotRows (face : Interface) : List Row :=
  match face.slot with
  | .empty => []
  | .argument described => [⟨2, described.name, described.description⟩]
  | .command title commands =>
    ⟨2, choiceLabel (commandNames commands), title.description⟩ ::
      commands.map fun command => ⟨4, command.name, command.description⟩

/-- The column in which descriptions start: behind the longest heading, but not past the last such
column. -/
def descriptionColumn (rows : List Row) : Nat :=
  min lastDescriptionColumn ((rows.map fun row => row.indent + row.heading.length + 2).foldl max 0)

/-- A row as text. A heading that reaches into the descriptions has a line of its own. -/
def Row.text (column : Nat) (row : Row) : String :=
  let lines := wrapText (lineWidth - column) row.description
  let lead := spaces row.indent ++ row.heading
  let body := String.intercalate ("\n" ++ spaces column) lines ++ "\n"
  if lead.length + 2 ≤ column then lead ++ spaces (column - lead.length) ++ body
  else lead ++ "\n" ++ spaces column ++ body

/-- A section of the help text; without rows there is none. -/
def sectionText (column : Nat) (title : String) (rows : List Row) : String :=
  if rows.isEmpty then ""
  else "\n" ++ title ++ ":\n" ++ String.join (rows.map (Row.text column))

/-- The help text. -/
def help (face : Interface) : String :=
  let column := descriptionColumn (face.slotRows ++ face.switchRows)
  let description := if face.description.isEmpty then "" else "\n" ++ face.description ++ "\n"
  face.usage ++ description ++ sectionText column "positional arguments" face.slotRows ++
    sectionText column "options" face.switchRows

end Interface

end Lox.CommandLine
