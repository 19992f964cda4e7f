import Lox.Token.Basic

/-!
# Failures

A program fails in one of three stages: when it is scanned, parsed or evaluated. A failure carries
its message and the place it is reported at, and is reported in one line. Failures with a known
opening of the message have a code in the catalogue.

## Main definitions

* `Stage`: the three stages
* `Failure`: the failures of each stage
* `Failure.report`: the one-line report
* `ErrorCode`, `Failure.code?`: the catalogue
-/

namespace Lox

/-- The stage a program fails in. -/
inductive Stage where
  | scan
  | parse
  | runtime
deriving DecidableEq, Repr

/-- The name of a stage. -/
def Stage.name : Stage → String
  | scan => "scan"
  | parse => "parse"
  | runtime => "runtime"

/-- A failure with its message. A scan has no token to report at, only a location, and a scan
failure that a caller builds may lack even that. -/
inductive Failure where
  | scan (message : String) (location : Option Location) (place : Option String)
  | parse (message : String) (token : Token)
  | runtime (message : String) (token : Token)
deriving Repr

/-- How a report names the place of a token. -/
def Token.placeText (token : Token) : String :=
  if token.kind = .eof then "at end"
  else "at '" ++ token.lexeme.getD "None" ++ "'"

namespace Failure

/-- The stage that failed. -/
def stage : Failure → Stage
  | scan .. => .scan
  | parse .. => .parse
  | runtime .. => .runtime

/-- What went wrong. -/
def message : Failure → String
  | scan message .. => message
  | parse message _ => message
  | runtime message _ => message

/-- The offending token. -/
def token? : Failure → Option Token
  | scan .. => none
  | parse _ token => some token
  | runtime _ token => some token

/-- The location of the failure. -/
def location? : Failure → Option Location
  | scan _ location _ => location
  | parse _ token => some token.location
  | runtime _ token => some token.location

/-- The words that tell where the failure is. -/
def place? : Failure → Option String
  | scan _ _ place => place
  | parse _ token => some token.placeText
  | runtime _ token => some token.placeText

/-- The words that tell where the failure is, unless they are empty. -/
def shownPlace? (failure : Failure) : Option String :=
  failure.place?.filter (· ≠ "")

/-- The line of the failure, zero without a location. -/
def line (failure : Failure) : Int :=
  (failure.location?.map (·.line)).getD 0

/-- The line, and the column if it is asked for and known. -/
def header (failure : Failure) (withColumn : Bool) : String :=
  match withColumn, failure.location? with
  | true, some place => s!"[line {place.line}; column {place.column}]"
  | _, _ => s!"[line {failure.line}]"

/-- The report of a failure in one line. -/
def reportWith (failure : Failure) (withColumn : Bool) : String :=
  match failure.shownPlace? with
  | some place => s!"{failure.header withColumn} Error {place}: {failure.message}"
  | none => s!"{failure.header withColumn} Error: {failure.message}"

/-- The report of a failure without the column. -/
def report (failure : Failure) : String :=
  failure.reportWith false

end Failure

/-- The catalogued errors: E01xx at run time, E02xx in the text of the program. -/
inductive ErrorCode where
  | incompatibleOperands
  | operandNotNumber
  | expectedExpression
  | unclosedDelimiter
  | unterminatedString
  | unexpectedCharacter
deriving DecidableEq, Repr

namespace ErrorCode

/-- The catalogue in order. -/
def all : List ErrorCode :=
  [incompatibleOperands, operandNotNumber, expectedExpression, unclosedDelimiter,
    unterminatedString, unexpectedCharacter]

/-- The number of an error in the catalogue. -/
def name : ErrorCode → String
  | incompatibleOperands => "E0101"
  | operandNotNumber => "E0102"
  | expectedExpression => "E0201"
  | unclosedDelimiter => "E0202"
  | unterminatedString => "E0206"
  | unexpectedCharacter => "E0208"

/-- What the catalogue says about an error. -/
def description : ErrorCode → String
  | incompatibleOperands => "incompatible operand types"
  | operandNotNumber => "operand must be a number"
  | expectedExpression => "expected expression"
  | unclosedDelimiter => "unclosed delimiter"
  | unterminatedString => "unterminated string"
  | unexpectedCharacter => "unexpected character"

/-- How the messages of an error begin. -/
def opening : ErrorCode → String
  | incompatibleOperands => "Operands must be"
  | operandNotNumber => "Operand must be"
  | expectedExpression => "Expected expression"
  | unclosedDelimiter => "Expected ')'"
  | unterminatedString => "Unterminated string"
  | unexpectedCharacter => "Unexpected character"

/-- The error whose messages begin as this one does. -/
def ofMessage? (message : String) : Option ErrorCode :=
  all.find? fun code => code.opening.toList.isPrefixOf message.toList

end ErrorCode

/-- The code of a failure. -/
def Failure.code? (failure : Failure) : Option ErrorCode :=
  ErrorCode.ofMessage? failure.message

/-- The code of a failure as text, empty without one. -/
def Failure.codeText (failure : Failure) : String :=
  (failure.code?.map ErrorCode.name).getD ""

end Lox
