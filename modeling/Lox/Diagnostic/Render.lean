import Lox.Diagnostic.Basic
import Lox.Text.Lines

/-!
# Rendered diagnostics

A diagnostic is rendered with the source lines it concerns. Below each line a mark underlines the
span, behind a gutter that keeps the mark in the columns of the line.

## Main definitions

* `Diagnostic.rows`: the rows of a rendered diagnostic, as styled fragments
* `Diagnostic.render`: the rendered text
-/

namespace Lox

namespace Diagnostic

/-- The first row: level, code and message. -/
def titleRow (diagnostic : Diagnostic) : List Fragment :=
  let title := diagnostic.level.name ++
    if diagnostic.code.isEmpty then "" else "[" ++ diagnostic.code ++ "]"
  [⟨[diagnostic.level.style, .bold], title⟩, .plain ": ", ⟨[.bold], diagnostic.message⟩]

/-- The gutter of a row without a line number. -/
def blankGutter : List Fragment :=
  [.plain "   ", ⟨[.blue], "|"⟩]

/-- A line number, filled up to three places, with its gutter. -/
def numberGutter (line : Int) : Fragment :=
  let digits := toString line
  ⟨[.blue], String.ofList (List.replicate (3 - digits.length) ' ') ++ digits ++ " |"⟩

/-- The mark of a label and its text. -/
def mark (label : Label) : String :=
  String.ofList (List.replicate label.span.length (if label.primary then '^' else '-')) ++
    if label.message.isEmpty then "" else " " ++ label.message

/-- The style of a label's mark. -/
def markStyle (level : Level) (label : Label) : Style :=
  if label.primary then level.style else .blue

/-- The row below a source line: the mark under the columns of the span. -/
def markRow (level : Level) (label : Label) : List Fragment :=
  blankGutter ++
    [.plain (" " ++ String.ofList (List.replicate (label.span.start - 1).toNat ' ')),
      ⟨[markStyle level label], mark label⟩]

/-- The source line with a given number, counted from one. -/
def sourceLine? (lines : List (List Char)) (line : Int) : Option (List Char) :=
  if line < 1 then none else lines[(line - 1).toNat]?

/-- The source line of a label with its mark below; nothing if the source has no such line. -/
def labelRows (level : Level) (lines : List (List Char)) (label : Label) : List (List Fragment) :=
  match sourceLine? lines label.span.line with
  | none => []
  | some text =>
    [[numberGutter label.span.line, .plain (" " ++ String.ofList text)], markRow level label]

/-- The label that tells where the diagnostic is: the first primary one, or the first. -/
def anchor? (labels : List Label) : Option Label :=
  (labels.find? (·.primary)).or labels.head?

/-- The rows that show the source; without labels there are none. -/
def sourceRows (diagnostic : Diagnostic) (lines : List (List Char)) : List (List Fragment) :=
  match anchor? diagnostic.labels with
  | none => []
  | some anchor =>
    [[.plain "  ", ⟨[.blue], "-->"⟩, .plain (" " ++ anchor.span.text)], blankGutter] ++
      diagnostic.labels.flatMap (labelRows diagnostic.level lines) ++ [blankGutter]

/-- The row of a note. -/
def noteRow (note : String) : List Fragment :=
  [.plain "   ", ⟨[.blue], "="⟩, .plain " ", ⟨[.bold], "note:"⟩, .plain (" " ++ note)]

/-- The rows of a diagnostic for a source text. -/
def rows (diagnostic : Diagnostic) (source : String) : List (List Fragment) :=
  diagnostic.titleRow :: diagnostic.sourceRows (Text.breakLines source.toList) ++
    diagnostic.notes.map noteRow

/-- The rendered diagnostic, with or without colour. -/
def render (diagnostic : Diagnostic) (source : String) (color : Bool) : String :=
  String.intercalate "\n" ((diagnostic.rows source).map (draw color))

end Diagnostic

/-- The diagnostics collected for a source text. -/
structure DiagnosticList where
  source : String
  file : String
  entries : List Diagnostic := []

namespace DiagnosticList

/-- Add a diagnostic. -/
def add (list : DiagnosticList) (diagnostic : Diagnostic) : DiagnosticList :=
  { list with entries := list.entries ++ [diagnostic] }

/-- Add the diagnostic of a failure. -/
def addFailure (list : DiagnosticList) (failure : Failure) : DiagnosticList :=
  list.add (.ofFailure failure list.file)

/-- Whether an error is among the diagnostics. -/
def hasErrors (list : DiagnosticList) : Bool :=
  list.entries.any (·.level = .error)

/-- All diagnostics, with an empty line between two. -/
def render (list : DiagnosticList) (color : Bool) : String :=
  String.intercalate "\n\n" (list.entries.map (·.render list.source color))

/-- Remove all diagnostics. -/
def clear (list : DiagnosticList) : DiagnosticList :=
  { list with entries := [] }

end DiagnosticList

end Lox
