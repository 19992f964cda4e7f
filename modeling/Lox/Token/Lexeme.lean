import Lox.Decimal.Read
import Lox.Token.Basic

/-!
# Lexemes

The lexical classes of Lox, and the lexeme that stands at the head of a text. The head lexeme is
always the longest one.

A number is a run of ASCII digits with an optional fraction, a word a run of ASCII letters, digits
and underscores that does not start with a digit, and a string any text without quotes between two
quotes. A comment runs up to the next LF. Space, tab, CR and LF separate lexemes.

## Main definitions

* `ScanFault`: why no lexeme stands at the head of a text
* `Cut`: the extent and the kind of a lexeme
* `headLexeme`: the lexeme at the head of a text
* `TokenKind.valueOf`: the value of a lexeme
-/

namespace Lox

/-- Whether the character may stand in a number. -/
def isDigit (c : Char) : Bool :=
  '0' ≤ c && c ≤ '9'

/-- Whether the character may start a word. -/
def isLetter (c : Char) : Bool :=
  'a' ≤ c && c ≤ 'z' || 'A' ≤ c && c ≤ 'Z' || c = '_'

/-- Whether the character may continue a word. -/
def isWordChar (c : Char) : Bool :=
  isLetter c || isDigit c

/-- Whether the character separates lexemes. -/
def isLayout (c : Char) : Bool :=
  c = ' ' || c = '\r' || c = '\t' || c = '\n'

/-- Why no lexeme stands at the head of a text. -/
inductive ScanFault where
  | unexpectedCharacter
  | unterminatedString
deriving DecidableEq, Repr

/-- The report of a fault. -/
def ScanFault.message : ScanFault → String
  | unexpectedCharacter => "Unexpected character."
  | unterminatedString => "Unterminated string"

/-- A lexeme at the head of a text: the number of characters after the first one that belong to it,
and its kind, where layout and comments have none. -/
structure Cut where
  kind : Option TokenKind
  more : Nat
deriving DecidableEq, Repr

/-- How many characters continue a comment: all up to the next LF. -/
def commentLength (rest : List Char) : Nat :=
  (rest.takeWhile (· ≠ '\n')).length

/-- How many characters continue a number. A point belongs to it when a digit follows. -/
def numberLength (rest : List Char) : Nat :=
  let whole := (rest.takeWhile isDigit).length
  match rest.drop whole with
  | '.' :: d :: tail =>
    if isDigit d then whole + 2 + (tail.takeWhile isDigit).length else whole
  | _ => whole

/-- The lexeme at the head of the text `c :: rest`. -/
def headLexeme (c : Char) (rest : List Char) : Except ScanFault Cut :=
  match TokenKind.punctuation.lookup c with
  | some kind => .ok ⟨kind, 0⟩
  | none =>
    match TokenKind.comparisons.lookup c with
    | some (alone, paired) => .ok (if rest.head? = some '=' then ⟨paired, 1⟩ else ⟨alone, 0⟩)
    | none =>
      if c = '/' then
        .ok (if rest.head? = some '/' then ⟨none, commentLength rest⟩ else ⟨some .slash, 0⟩)
      else if isLayout c then .ok ⟨none, 0⟩
      else if c = '"' then
        let body := (rest.takeWhile (· ≠ '"')).length
        if body < rest.length then .ok ⟨some .string, body + 1⟩ else .error .unterminatedString
      else if isDigit c then .ok ⟨some .number, numberLength rest⟩
      else if isLetter c then
        let tail := rest.takeWhile isWordChar
        .ok ⟨some (.ofWord (String.ofList (c :: tail))), tail.length⟩
      else .error .unexpectedCharacter

/-- The value of a lexeme: the text between the quotes of a string, the double nearest to a number,
nil for all other kinds. -/
def TokenKind.valueOf (kind : TokenKind) (lexeme : List Char) : Value :=
  match kind with
  | .string => .text (String.ofList lexeme.tail.dropLast)
  | .number => .number (Decimal.readPlain lexeme)
  | _ => .nil

end Lox
