import Lox.Expr.Evaluation

/-!
# Where an evaluation fails

The report of a failed evaluation holds a fault and an operator token. The node it speaks of is the
one whose operands have values that the rule of its operator rejects, while everything evaluated
before it has a value. It is given here by the way to it from the root, since one token may stand at
several nodes of a tree.

## Main definitions

* `Branch`: a step from a node to one of its operands
* `Expr.FailsAt`: the node at which the evaluation of a tree fails

## Main results

* `Expr.result_eq_fault_iff`: an evaluation reports a fault exactly if it fails at some node
* `Expr.FailsAt.unique`: an evaluation fails at no more than one node
-/

namespace Lox

/-- A step from a node to one of its operands. -/
inductive Branch where
  | inner
  | operand
  | left
  | right
deriving DecidableEq, Repr

namespace Expr

/-- **The failure of an evaluation**: `tree.FailsAt path cause op` says that the evaluation fails at
the node which the path leads to, that `op` is the operator there, and that its rule rejects the
values of the operands for the cause given. Right operands come before left ones. -/
inductive FailsAt : Expr → List Branch → EvalFault → Token → Prop
  | unary {op operand v cause} :
      operand.evaluate.result = .ok v → applyUnary op.kind v = .error cause →
      FailsAt (.unary op operand) [] cause op
  | binary {left op right v w cause} :
      right.evaluate.result = .ok w → left.evaluate.result = .ok v →
      applyBinary op.kind v w = .error cause →
      FailsAt (.binary left op right) [] cause op
  | inner {inner path cause op} :
      FailsAt inner path cause op → FailsAt (.grouping inner) (.inner :: path) cause op
  | operand {outer operand path cause op} :
      FailsAt operand path cause op → FailsAt (.unary outer operand) (.operand :: path) cause op
  | right {left outer right path cause op} :
      FailsAt right path cause op → FailsAt (.binary left outer right) (.right :: path) cause op
  | left {left outer right w path cause op} :
      right.evaluate.result = .ok w → FailsAt left path cause op →
      FailsAt (.binary left outer right) (.left :: path) cause op

/-! ## The results of operations -/

/-- The result of an operation, from what the rule of its operator says. -/
theorem result_ofRule (node : Expr) (op : Token) (warning : Warning)
    (rule : Except EvalFault (Option Value)) :
    (Evaluation.ofRule node op warning rule).result =
      match rule with
      | .ok value => .ok (value.getD .nil)
      | .error cause => .error (.fault cause op) := by
  rcases rule with cause | _ | value <;> rfl

theorem result_grouping (inner : Expr) :
    (grouping inner).evaluate.result = inner.evaluate.result := by
  rw [evaluate]
  cases h : inner.evaluate.result with
  | error error => rw [Evaluation.andThen_of_error h, h]
  | ok v => rw [Evaluation.andThen_of_ok h]; rfl

theorem result_unary_of_ok {op : Token} {operand : Expr} {v : Value}
    (h : operand.evaluate.result = .ok v) :
    (unary op operand).evaluate.result =
      match applyUnary op.kind v with
      | .ok value => .ok (value.getD .nil)
      | .error cause => .error (.fault cause op) := by
  rw [evaluate, Evaluation.andThen_of_ok h]
  exact result_ofRule _ _ _ _

theorem result_unary_of_error {op : Token} {operand : Expr} {error : EvalError}
    (h : operand.evaluate.result = .error error) :
    (unary op operand).evaluate.result = .error error := by
  rw [evaluate, Evaluation.andThen_of_error h, h]

theorem result_binary_of_ok {left right : Expr} {op : Token} {v w : Value}
    (hw : right.evaluate.result = .ok w) (hv : left.evaluate.result = .ok v) :
    (binary left op right).evaluate.result =
      match applyBinary op.kind v w with
      | .ok value => .ok (value.getD .nil)
      | .error cause => .error (.fault cause op) := by
  rw [evaluate, Evaluation.andThen_of_ok hw, Evaluation.andThen_of_ok hv]
  exact result_ofRule _ _ _ _

theorem result_binary_of_right {left right : Expr} {op : Token} {error : EvalError}
    (h : right.evaluate.result = .error error) :
    (binary left op right).evaluate.result = .error error := by
  rw [evaluate, Evaluation.andThen_of_error h, h]

theorem result_binary_of_left {left right : Expr} {op : Token} {w : Value} {error : EvalError}
    (hw : right.evaluate.result = .ok w) (h : left.evaluate.result = .error error) :
    (binary left op right).evaluate.result = .error error := by
  rw [evaluate, Evaluation.andThen_of_ok hw, Evaluation.andThen_of_error h]
  exact h

/-- An operation with one operand has a value if the operand has one that the rule takes. -/
theorem result_unary_eq_ok_iff {op : Token} {operand : Expr} {u : Value} :
    (unary op operand).evaluate.result = .ok u ↔
      ∃ v value, operand.evaluate.result = .ok v ∧ applyUnary op.kind v = .ok value ∧
        u = value.getD .nil := by
  constructor
  · intro h
    cases hv : operand.evaluate.result with
    | error error =>
      rw [result_unary_of_error hv] at h
      cases h
    | ok v =>
      rw [result_unary_of_ok hv] at h
      cases hrule : applyUnary op.kind v <;> rw [hrule] at h <;> cases h
      exact ⟨v, _, rfl, hrule, rfl⟩
  · rintro ⟨v, value, hv, hrule, rfl⟩
    rw [result_unary_of_ok hv, hrule]

/-- An operation with two operands has a value if both have one and the rule takes them. -/
theorem result_binary_eq_ok_iff {left right : Expr} {op : Token} {u : Value} :
    (binary left op right).evaluate.result = .ok u ↔
      ∃ v w value, left.evaluate.result = .ok v ∧ right.evaluate.result = .ok w ∧
        applyBinary op.kind v w = .ok value ∧ u = value.getD .nil := by
  constructor
  · intro h
    cases hw : right.evaluate.result with
    | error error =>
      rw [result_binary_of_right hw] at h
      cases h
    | ok w =>
      cases hv : left.evaluate.result with
      | error error =>
        rw [result_binary_of_left hw hv] at h
        cases h
      | ok v =>
        rw [result_binary_of_ok hw hv] at h
        cases hrule : applyBinary op.kind v w <;> rw [hrule] at h <;> cases h
        exact ⟨v, w, _, rfl, rfl, hrule, rfl⟩
  · rintro ⟨v, w, value, hv, hw, hrule, rfl⟩
    rw [result_binary_of_ok hw hv, hrule]

/-! ## The place of a failure -/

/-- What fails at a node is reported with its cause and its operator. -/
theorem FailsAt.result {tree : Expr} {path : List Branch} {cause : EvalFault} {op : Token}
    (h : tree.FailsAt path cause op) : tree.evaluate.result = .error (.fault cause op) := by
  induction h with
  | unary hv hrule => rw [result_unary_of_ok hv, hrule]
  | binary hw hv hrule => rw [result_binary_of_ok hw hv, hrule]
  | inner _ ih => rw [result_grouping, ih]
  | operand _ ih => exact result_unary_of_error ih
  | right _ ih => exact result_binary_of_right ih
  | left hw _ ih => exact result_binary_of_left hw ih

/-- **A fault is reported exactly if the evaluation fails at some node.** -/
theorem result_eq_fault_iff {tree : Expr} {cause : EvalFault} {op : Token} :
    tree.evaluate.result = .error (.fault cause op) ↔ ∃ path, tree.FailsAt path cause op := by
  refine ⟨fun h => ?_, fun ⟨_, h⟩ => h.result⟩
  induction tree with
  | literal value => cases h
  | foreign form => cases h
  | grouping inner ih =>
    rw [result_grouping] at h
    obtain ⟨path, hpath⟩ := ih h
    exact ⟨_, .inner hpath⟩
  | unary own operand ih =>
    -- the operand fails, or the rule of the operator rejects its value
    cases hv : operand.evaluate.result with
    | error error =>
      rw [result_unary_of_error hv] at h
      obtain ⟨path, hpath⟩ := ih (hv.trans h)
      exact ⟨_, .operand hpath⟩
    | ok v =>
      rw [result_unary_of_ok hv] at h
      cases hrule : applyUnary own.kind v with
      | ok value => rw [hrule] at h; cases h
      | error cause => rw [hrule] at h; cases h; exact ⟨[], .unary hv hrule⟩
  | binary left own right ihl ihr =>
    -- the right operand is evaluated first, and then the left one
    cases hw : right.evaluate.result with
    | error error =>
      rw [result_binary_of_right hw] at h
      obtain ⟨path, hpath⟩ := ihr (hw.trans h)
      exact ⟨_, .right hpath⟩
    | ok w =>
      cases hv : left.evaluate.result with
      | error error =>
        rw [result_binary_of_left hw hv] at h
        obtain ⟨path, hpath⟩ := ihl (hv.trans h)
        exact ⟨_, .left hw hpath⟩
      | ok v =>
        rw [result_binary_of_ok hw hv] at h
        cases hrule : applyBinary own.kind v w with
        | ok value => rw [hrule] at h; cases h
        | error cause => rw [hrule] at h; cases h; exact ⟨[], .binary hw hv hrule⟩

/-- An evaluation that has a value fails nowhere. -/
theorem FailsAt.not_ok {tree : Expr} {path : List Branch} {cause : EvalFault} {op : Token}
    (h : tree.FailsAt path cause op) {v : Value} : tree.evaluate.result ≠ .ok v := by
  rw [h.result]
  intro hv
  cases hv

/-- **An evaluation fails at no more than one node.** -/
theorem FailsAt.unique {tree : Expr} {path path' : List Branch} {cause cause' : EvalFault}
    {op op' : Token} (h : tree.FailsAt path cause op) (h' : tree.FailsAt path' cause' op') :
    path = path' := by
  -- where the two ways part, an operand on one of them has a value, and on the other it fails
  induction h generalizing path' with
  | unary hv _ =>
    cases h' with
    | unary => rfl
    | operand h' => exact absurd hv h'.not_ok
  | binary hw hv _ =>
    cases h' with
    | binary => rfl
    | right h' => exact absurd hw h'.not_ok
    | left _ h' => exact absurd hv h'.not_ok
  | inner _ ih =>
    cases h' with
    | inner h' => rw [ih h']
  | operand h ih =>
    cases h' with
    | unary hv => exact absurd hv h.not_ok
    | operand h' => rw [ih h']
  | right h ih =>
    cases h' with
    | binary hw => exact absurd hw h.not_ok
    | right h' => rw [ih h']
    | left hw => exact absurd hw h.not_ok
  | left hw h ih =>
    cases h' with
    | binary _ hv => exact absurd hv h.not_ok
    | right h' => exact absurd hw h'.not_ok
    | left _ h' => rw [ih h']

end Expr

end Lox
