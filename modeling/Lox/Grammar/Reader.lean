import Lox.Expr.Basic
import Lox.Grammar.Operators

/-!
# Reading expressions

An expression is read from its tokens one token at a time. What has been read and is not yet a part
of a finished operand is a stack of pending constructs: prefix operators, infix operators with
their left operand, and open parentheses. The reader either needs an operand or has one.

When it has an operand and an infix operator follows, every pending construct that binds at least
as tight takes the operand first, so that chains of operators of one rank lean to the left. A
closing parenthesis takes everything up to the open one.

## Main definitions

* `Pending`: a construct that awaits its operand
* `ReaderState`: whether an operand is needed
* `collapse`: what the pending constructs make of an operand
* `ReaderState.step`: the reading of one token
* `ReaderState.read`: the reading of a list of tokens
-/

namespace Lox

/-- Why a token cannot continue an expression. -/
inductive ParseFault where
  | expectedExpression
  | unclosedGroup
deriving DecidableEq, Repr

/-- The report of a fault. -/
def ParseFault.message : ParseFault → String
  | expectedExpression => "Expected expression."
  | unclosedGroup => "Expected ')' after expression."

/-- A construct that awaits its last operand. -/
inductive Pending where
  | unary (op : Token)
  | binary (left : Expr) (op : Token) (rank : Nat)
  | group
deriving Repr

/-- The state of a reader, with the innermost pending construct first. -/
inductive ReaderState where
  | needsOperand (pending : List Pending)
  | hasOperand (operand : Expr) (pending : List Pending)
deriving Repr

/-- The operand together with the pending constructs that bind at rank `rank` or tighter, up to the
innermost open parenthesis, and the constructs that remain. -/
def collapse (rank : Nat) (operand : Expr) : List Pending → Expr × List Pending
  | [] => (operand, [])
  | .unary op :: rest => collapse rank (.unary op operand) rest
  | .binary left op own :: rest =>
    if rank ≤ own then collapse rank (.binary left op operand) rest
    else (operand, .binary left op own :: rest)
  | .group :: rest => (operand, .group :: rest)

/-- The value of a token that is an operand by itself. -/
def Token.operand? (token : Token) : Option Value :=
  match token.kind with
  | .kwFalse => some (.bool false)
  | .kwTrue => some (.bool true)
  | .kwNil => some .nil
  | .number | .string => some token.literal
  | _ => none

/-- What the reader does with a token: consume it, or stop before it with an expression or with a
fault. -/
inductive ReaderStep where
  | consume (next : ReaderState)
  | accept (tree : Expr)
  | reject (fault : ParseFault)
deriving Repr

namespace ReaderState

/-- The reading of one token. -/
def step (token : Token) : ReaderState → ReaderStep
  | needsOperand pending =>
    if token.kind.isPrefixOp then .consume (needsOperand (.unary token :: pending))
    else if token.kind = .leftParen then .consume (needsOperand (.group :: pending))
    else
      match token.operand? with
      | some value => .consume (hasOperand (.literal value) pending)
      | none => .reject .expectedExpression
  | hasOperand operand pending =>
    match token.kind.rank? with
    | some rank =>
      let (left, rest) := collapse rank operand pending
      .consume (needsOperand (.binary left token rank :: rest))
    | none =>
      match collapse 0 operand pending with
      | (tree, .group :: rest) =>
        if token.kind = .rightParen then .consume (hasOperand (.grouping tree) rest)
        else .reject .unclosedGroup
      | (tree, _) => .accept tree

end ReaderState

/-- How the reading of a list of tokens ends: with an expression, with a fault at a token, or with
the list. -/
inductive Reading where
  | accepted (tree : Expr)
  | rejected (fault : ParseFault) (token : Token)
  | unfinished (state : ReaderState)
deriving Repr

/-- The reading of a list of tokens, and the number of tokens it consumes. -/
def ReaderState.read (state : ReaderState) : List Token → Nat × Reading
  | [] => (0, .unfinished state)
  | token :: rest =>
    match state.step token with
    | .consume next =>
      let (count, reading) := next.read rest
      (count + 1, reading)
    | .accept tree => (0, .accepted tree)
    | .reject fault => (0, .rejected fault token)

/-- The state before an expression. -/
def ReaderState.start : ReaderState :=
  .needsOperand []

end Lox
