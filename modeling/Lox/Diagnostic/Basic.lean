import Lox.Failure
import Lox.Terminal

/-!
# Diagnostics

A diagnostic reports a failure together with the places in the source it concerns. Each place is a
span of columns in one line, with a label.

## Main definitions

* `Span`: a run of columns in a line of a file
* `Label`, `Level`, `Diagnostic`: the diagnostic
* `Diagnostic.ofFailure`: the diagnostic of a failure
* `Diagnostic.summary`: the diagnostic in one line
-/

namespace Lox

/-- The columns of a line from `start` to before `stop`, counted from one. -/
structure Span where
  line : Int
  start : Int
  stop : Int
  file : String
deriving DecidableEq, Repr

namespace Span

/-- The span of a number of columns from a given one on. -/
def ofColumn (line column length : Int) (file : String) : Span where
  line := line
  start := column
  stop := column + length
  file := file

/-- The number of columns that are marked: at least one. -/
def length (span : Span) : Nat :=
  max 1 (span.stop - span.start).toNat

/-- How a diagnostic names the place of a span. -/
def text (span : Span) : String :=
  s!"{span.file}:{span.line}:{span.start}"

end Span

/-- A span with the text that stands behind its mark. The primary label tells where the failure is,
the others add to it. -/
structure Label where
  span : Span
  message : String
  primary : Bool
deriving DecidableEq, Repr

/-- How severe a diagnostic is. -/
inductive Level where
  | error
  | warning
  | note
deriving DecidableEq, Repr

namespace Level

/-- All levels. -/
def all : List Level :=
  [error, warning, note]

/-- The name of a level. -/
def name : Level → String
  | error => "error"
  | warning => "warning"
  | note => "note"

/-- The colour of a level. -/
def style : Level → Style
  | error => .red
  | warning => .yellow
  | note => .cyan

end Level

/-- A message about a source text; `code` is empty if the catalogue has none for it. -/
structure Diagnostic where
  code : String
  level : Level
  message : String
  labels : List Label
  notes : List String
deriving DecidableEq, Repr

/-- The note that names the stage of a failure. -/
def Stage.note (stage : Stage) : String :=
  s!"{stage.name} error"

/-- The number of columns a failure marks: its lexeme, or one character. -/
def Failure.markLength (failure : Failure) : Nat :=
  max 1 ((failure.token?.map (·.lexemeText.length)).getD 0)

/-- The span a failure marks, in the file it is said to be in, or in the file of its location. -/
def Failure.span? (failure : Failure) (file : Option String) : Option Span :=
  failure.location?.map fun place =>
    .ofColumn place.line place.column failure.markLength
      (((Location.fileName? file).or (Location.fileName? place.file)).getD "<input>")

namespace Diagnostic

/-- The diagnostic of a failure, with a label if its location is known. -/
def ofFailure (failure : Failure) (file : Option String) : Diagnostic where
  code := failure.codeText
  level := .error
  message := failure.message
  labels := (failure.span? file).toList.map fun span => ⟨span, failure.place?.getD "", true⟩
  notes := [failure.stage.note]

/-- The diagnostic in one line. -/
def summary (diagnostic : Diagnostic) : String :=
  if diagnostic.code.isEmpty then diagnostic.message
  else "[" ++ diagnostic.code ++ "] " ++ diagnostic.message

end Diagnostic

end Lox
