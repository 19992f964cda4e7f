import Lox.Expr.Basic
import Lox.Failure

/-!
# Evaluation

The value of an expression. The operands of an operation are evaluated from right to left, and the
first failure ends the evaluation. An evaluation also leaves a trace, the nodes in the order they
are completed, each with its value, and a warning for each operation that has no rule.

## Main definitions

* `applyUnary`, `applyBinary`: the rules of the operators
* `EvalError`: a fault at an operator, or a foreign node
* `Evaluation`: trace, warnings and result
* `Expr.evaluate`: the evaluation of a tree

## Main results

* `Evaluation.andThen_of_ok`, `Evaluation.andThen_of_error`: how an evaluation goes on
-/

namespace Lox

/-- Why an operator rejects its operands. -/
inductive EvalFault where
  | operandNotNumber
  | operandsMixed
deriving DecidableEq, Repr

/-- The report of a fault. -/
def EvalFault.message : EvalFault → String
  | operandNotNumber => "Operand must be a number"
  | operandsMixed => "Operands must be two numbers or two strings."

/-- The rule of a prefix operator; `none` where the operator has none. -/
def applyUnary (op : TokenKind) (v : Value) : Except EvalFault (Option Value) :=
  match op with
  | .bang => .ok (some (.bool !v.isTruthy))
  | .minus =>
    match v with
    | .number x => .ok (some (.number (-x)))
    | _ => .error .operandNotNumber
  | _ => .ok none

/-- The operators on two numbers. Division by zero gives an infinity, or no number for zero by
zero. -/
def applyNumbers (op : TokenKind) (x y : Float) : Option Value :=
  match op with
  | .minus => some (.number (x - y))
  | .slash => some (.number (x / y))
  | .star => some (.number (x * y))
  | .greater => some (.bool (x > y))
  | .greaterEqual => some (.bool (x ≥ y))
  | .less => some (.bool (x < y))
  | .lessEqual => some (.bool (x ≤ y))
  | .plus => some (.number (x + y))
  | _ => none

/-- The rule of an infix operator on numbers and texts. Both kinds can be compared for equality and
added to their like; the other operators need two numbers. -/
def applyOperands (op : TokenKind) (left right : Value) : Except EvalFault (Option Value) :=
  match op with
  | .equalEqual => .ok (some (.bool (left.equals right)))
  | .bangEqual => .ok (some (.bool !left.equals right))
  | _ =>
    match left, right with
    | .number x, .number y => .ok (applyNumbers op x y)
    | .text s, .text t =>
      if op = .plus then .ok (some (.text (s ++ t))) else .error .operandNotNumber
    | _, _ => .error .operandNotNumber

/-- Whether the value can be an operand of an infix operator. -/
def Value.isOperand (v : Value) : Bool :=
  v.isNumber || v.isText

/-- The rule of an infix operator. No infix operator takes nil or a boolean. -/
def applyBinary (op : TokenKind) (left right : Value) : Except EvalFault (Option Value) :=
  if left.isOperand && right.isOperand then applyOperands op left right else .error .operandsMixed

/-- An operation whose operator has no rule. It has the value nil. -/
inductive Warning where
  | unary (op : TokenKind)
  | binary (op : TokenKind)
deriving DecidableEq, Repr

/-- The text of a warning. -/
def Warning.message : Warning → String
  | unary op => s!"Unary operator {op.name} has no evaluation rule; yielding nil"
  | binary op => s!"Binary operator {op.name} has no evaluation rule; yielding nil"

/-- Why an evaluation fails: a fault at an operator, or a node it has no rule for. -/
inductive EvalError where
  | fault (cause : EvalFault) (op : Token)
  | foreign (node : ForeignNode)
deriving Repr

/-- A completed node and its value. -/
structure Completion where
  node : Expr
  value : Value
deriving Repr

/-- The course and the result of an evaluation. -/
structure Evaluation where
  trace : List Completion
  warnings : List Warning
  result : Except EvalError Value

namespace Evaluation

/-- The completion of a node. -/
def complete (node : Expr) (value : Value) : Evaluation where
  trace := [⟨node, value⟩]
  warnings := []
  result := .ok value

/-- The end of an evaluation at an error. -/
def fail (error : EvalError) : Evaluation where
  trace := []
  warnings := []
  result := .error error

/-- Continue with the value of an evaluation, unless it failed. -/
def andThen (first : Evaluation) (next : Value → Evaluation) : Evaluation :=
  match first.result with
  | .error _ => first
  | .ok value =>
    let second := next value
    ⟨first.trace ++ second.trace, first.warnings ++ second.warnings, second.result⟩

theorem andThen_of_ok {first : Evaluation} {value : Value} (h : first.result = .ok value)
    (next : Value → Evaluation) :
    first.andThen next =
      ⟨first.trace ++ (next value).trace, first.warnings ++ (next value).warnings,
        (next value).result⟩ := by
  rw [andThen, h]

theorem andThen_of_error {first : Evaluation} {error : EvalError} (h : first.result = .error error)
    (next : Value → Evaluation) : first.andThen next = first := by
  rw [andThen, h]

/-- The completion of an operation by the rule of its operator. -/
def ofRule (node : Expr) (op : Token) (warning : Warning) :
    Except EvalFault (Option Value) → Evaluation
  | .ok (some value) => complete node value
  | .ok none => { complete node .nil with warnings := [warning] }
  | .error fault => fail (.fault fault op)

end Evaluation

namespace Expr

/-- The evaluation of a tree. -/
def evaluate : Expr → Evaluation
  | literal value => .complete (literal value) value
  | grouping inner => inner.evaluate.andThen (.complete (grouping inner))
  | unary op operand =>
    operand.evaluate.andThen fun v =>
      .ofRule (unary op operand) op (.unary op.kind) (applyUnary op.kind v)
  | binary left op right =>
    right.evaluate.andThen fun w =>
      left.evaluate.andThen fun v =>
        .ofRule (binary left op right) op (.binary op.kind) (applyBinary op.kind v w)
  | foreign form => .fail (.foreign ⟨form⟩)

/-- The displayed value of a tree. -/
def interpret (tree : Expr) : Except EvalError String :=
  tree.evaluate.result.map Value.display

end Expr

/-- The failure that reports an error, which a foreign node is not. -/
def EvalError.failure? : EvalError → Option Failure
  | fault cause op => some (.runtime cause.message op)
  | foreign _ => none

end Lox
