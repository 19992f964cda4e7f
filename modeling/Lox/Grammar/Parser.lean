import Lox.Failure
import Lox.Grammar.Reader

/-!
# Parsers

A parser stands at a position in a list of tokens. It can read an expression there, and after an
error skip to the next statement boundary; its errors accumulate.

The list should end in the end of the text. After the last token of any other list, copies of that
token are read, as if the list went on. They can be tested and passed over, but a copy whose token
the tree would keep cannot be had, and the parser is then past its input.

## Main definitions

* `ParseError`: a fault and its token
* `Parser`: tokens, position and errors
* `Parser.parse`: read an expression
* `Parser.parseReporting`: read an expression, and report an error to the caller
* `Parser.synchronize`: skip to a statement boundary
* `parseTokens`: read an expression from the start of a list
-/

namespace Lox

/-- A fault and the token it is reported at. -/
structure ParseError where
  fault : ParseFault
  token : Token
deriving Repr

/-- The failure that reports the error. -/
def ParseError.failure (error : ParseError) : Failure :=
  .parse error.fault.message error.token

/-- A token beyond the end of the list was asked for. -/
inductive PastInput where
  | pastInput
deriving DecidableEq, Repr

/-- The report of a token beyond the end. -/
def PastInput.message (_ : PastInput) : String :=
  "list index out of range"

/-- Whether the tree keeps the token, or its value, when the reader consumes it: an operator or a
literal. -/
def Token.isKept (token : Token) : Bool :=
  token.kind.isPrefixOp || token.kind.rank?.isSome || token.kind.isLiteral

/-- The reading goes on with at most `bound` copies of the last token. -/
def ReaderState.readCopies (last : Token) :
    (bound : Nat) → ReaderState → Except PastInput (Nat × Reading)
  | 0, _ => .error .pastInput
  | bound + 1, state =>
    match state.step last with
    | .consume next =>
      if last.isKept then .error .pastInput
      else do
        let (count, reading) ← next.readCopies last bound
        return (count + 1, reading)
    | .accept tree => .ok (0, .accepted tree)
    | .reject fault => .ok (0, .rejected fault last)

/-- How many copies of a token a reader can need: one for each open parenthesis, and one each for an
operand and the token after it. -/
def ReaderState.copies : ReaderState → Nat
  | needsOperand pending => pending.length + 2
  | hasOperand _ pending => pending.length + 2

/-- Tokens, the position of the parser among them, and its errors so far. -/
structure Parser where
  tokens : List Token
  position : Nat := 0
  errors : List ParseError := []
deriving Repr

namespace Parser

/-- The reading of an expression at the position of the parser. -/
def read (parser : Parser) : Except PastInput (Nat × Reading) :=
  match ReaderState.start.read (parser.tokens.drop parser.position), parser.tokens.getLast? with
  | (count, .unfinished state), some last => do
    let (more, reading) ← state.readCopies last state.copies
    return (count + more, reading)
  | (_, .unfinished _), none => .error .pastInput
  | result, _ => .ok result

/-- Read an expression. The parser stands behind it, or at the token of the error it has added. -/
def parse (parser : Parser) : Except PastInput (Option Expr × Parser) := do
  match ← parser.read with
  | (count, .accepted tree) =>
    return (some tree, { parser with position := parser.position + count })
  | (count, .rejected fault token) =>
    return (none, { parser with
      position := parser.position + count
      errors := parser.errors ++ [⟨fault, token⟩] })
  | (_, .unfinished _) => .error .pastInput

/-- Read an expression for a caller with a state of its own: when no tree is returned, the error that
has been added last is also reported to the caller. -/
def parseReporting {σ : Type} (report : ParseError → σ → σ) (parser : Parser) (state : σ) :
    Except PastInput (Option Expr × Parser × σ) := do
  match ← parser.parse with
  | (some tree, next) => return (some tree, next, state)
  | (none, next) => return (none, next, next.errors.getLast?.elim state (report · state))

/-- How many tokens are discarded before the next statement boundary, when `previous` has been: a
boundary is the end of the text, the place after a semicolon, or the place before a keyword that
opens a statement. -/
def discard (previous : Token) : List Token → Except PastInput Nat
  | [] =>
    if previous.kind = .semicolon || previous.kind.startsStatement then .ok 0
    else .error .pastInput
  | token :: rest =>
    if token.kind = .eof || previous.kind = .semicolon || token.kind.startsStatement then .ok 0
    else do
      let count ← discard token rest
      return count + 1

/-- Skip at least one token, and on to the next statement boundary. At the end of the text nothing
is skipped. -/
def synchronize (parser : Parser) : Except PastInput Parser :=
  match parser.tokens.drop parser.position with
  | [] => .error .pastInput
  | token :: rest =>
    if token.kind = .eof then .ok parser
    else do
      let count ← discard token rest
      return { parser with position := parser.position + 1 + count }

end Parser

/-- Read an expression from the start of a list of tokens. -/
def parseTokens (tokens : List Token) : Except PastInput (Option Expr × Parser) :=
  ({ tokens := tokens } : Parser).parse

end Lox
