import Lox.Failure

/-!
# Ranges in an editor

An editor counts lines and characters from zero. The ranges that are shown in it cover a run of
characters in one line.

## Main definitions

* `LineRange`: a run of characters in a line
* `Token.range`: the range of a token in its first line
* `Failure.range`: the range of a failure
* `Marker`: a failure as an editor shows it
-/

namespace Lox

/-- The characters of a line from `start` to before `stop`, counted from zero. -/
structure LineRange where
  line : Int
  start : Int
  stop : Int
deriving DecidableEq, Repr

/-- Whether the range holds the character at a position. -/
def LineRange.covers (range : LineRange) (line character : Int) : Bool :=
  range.line = line && range.start ≤ character && character < range.stop

/-- The range of `length` characters that starts at a line and a column counted from one. Places
before the first line or column count as the first. -/
def LineRange.at (line column : Int) (length : Nat) : LineRange where
  line := max 0 (line - 1)
  start := max 0 (column - 1)
  stop := max 0 (column - 1) + length

/-- The lexeme of a token up to its first line end. -/
def Token.firstLine (token : Token) : List Char :=
  token.lexemeText.toList.takeWhile (· ≠ '\n')

/-- The range of a token in its first line, at least one character. -/
def Token.range (token : Token) : LineRange :=
  .at token.location.line token.location.column (max 1 token.firstLine.length)

/-- The range of a failure: its token in the first line, or one character if it has no lexeme. -/
def Failure.range (failure : Failure) : LineRange :=
  match failure.token?.filter (·.lexemeText ≠ "") with
  | some token => token.range
  | none => .at failure.line ((failure.location?.map (·.column)).getD 1) 1

/-- A failure as an editor shows it. -/
structure Marker where
  range : LineRange
  message : String
  code : Option ErrorCode
deriving DecidableEq, Repr

/-- The name under which markers are shown. -/
def Marker.source : String :=
  "loxpy"

/-- The severity of all markers, an error. -/
def Marker.severity : Nat :=
  1

/-- The marker of a failure. -/
def Failure.marker (failure : Failure) : Marker where
  range := failure.range
  message := failure.message ++
    match failure.shownPlace? with
    | some place => " (" ++ place ++ ")"
    | none => ""
  code := failure.code?

end Lox
