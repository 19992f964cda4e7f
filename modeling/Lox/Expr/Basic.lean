import Lox.Token.Basic

/-!
# Expressions

The trees of Lox expressions. An operation keeps its operator token, so that a failure can be
reported where the operator stands.

## Main definitions

* `Expr`: the trees
* `ForeignNode`: the report of a node that is none of the four forms of the language
* `Expr.parenthesized`: the text of a tree, operator first, each node in parentheses
* `Expr.agrees`: the equality of trees
-/

namespace Lox

/-- An expression tree: a literal, an expression in parentheses, an operation with one or two
operands, or a node of some other form that a caller put into the tree. -/
inductive Expr where
  | literal (value : Value)
  | grouping (inner : Expr)
  | unary (op : Token) (operand : Expr)
  | binary (left : Expr) (op : Token) (right : Expr)
  | foreign (form : String)
deriving Repr, Inhabited

/-- A node of a form that the language does not have. -/
structure ForeignNode where
  form : String
deriving DecidableEq, Repr

/-- The report of a foreign node. -/
def ForeignNode.message (node : ForeignNode) : String :=
  s!"Unhandled expression node: {node.form}"

namespace Expr

/-- The text of a tree. Operands follow their operator, left before right, and the first foreign
node in this order is reported. -/
def parenthesized : Expr → Except ForeignNode String
  | literal value => .ok value.display
  | grouping inner => do
    let text ← inner.parenthesized
    return "(group " ++ text ++ ")"
  | unary op operand => do
    let text ← operand.parenthesized
    return "(" ++ op.lexemeText ++ " " ++ text ++ ")"
  | binary left op right => do
    let first ← left.parenthesized
    let second ← right.parenthesized
    return "(" ++ op.lexemeText ++ " " ++ first ++ " " ++ second ++ ")"
  | foreign form => .error ⟨form⟩

/-! The text of a node whose operands have a text. -/

theorem parenthesized_grouping {inner : Expr} {text : String}
    (h : inner.parenthesized = .ok text) :
    (grouping inner).parenthesized = .ok ("(group " ++ text ++ ")") := by
  rw [parenthesized, h]
  rfl

theorem parenthesized_unary {operand : Expr} {text : String} (op : Token)
    (h : operand.parenthesized = .ok text) :
    (unary op operand).parenthesized = .ok ("(" ++ op.lexemeText ++ " " ++ text ++ ")") := by
  rw [parenthesized, h]
  rfl

theorem parenthesized_binary {left right : Expr} {first second : String} (op : Token)
    (hleft : left.parenthesized = .ok first) (hright : right.parenthesized = .ok second) :
    (binary left op right).parenthesized =
      .ok ("(" ++ op.lexemeText ++ " " ++ first ++ " " ++ second ++ ")") := by
  rw [parenthesized, hleft, hright]
  rfl

/-- The equality of trees: the same shape, with operators and leaves that agree. Nothing agrees with
a foreign node. -/
def agrees : Expr → Expr → Bool
  | literal v, literal w => v.agrees w
  | grouping a, grouping b => a.agrees b
  | unary p a, unary q b => p.agrees q && a.agrees b
  | binary a p b, binary c q d => a.agrees c && p.agrees q && b.agrees d
  | _, _ => false

end Expr

end Lox
