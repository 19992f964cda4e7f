import Lox.Proofs.Expr.Failing
import Lox.Proofs.Run.Relocation

/-!
# Parentheses around operations

Parentheses around every operation of a tree leave its value as it is, and they leave a failure at
the same operator: the node that fails is the one that failed before, by a longer way. Neither does
it matter to a failure where the tokens of a tree stand.

## Main definitions

* `Expr.regroup`: the tree with a grouping around every operation
* `Expr.regroupPath`: the way to an operation in that tree

## Main results

* `Expr.result_regroup`: regrouping changes no result
* `Expr.FailsAt.regroup`: regrouping changes no place of a failure
* `Expr.FailsAt.of_relocate_eq`: trees that are equal apart from locations fail at the same node
-/

namespace Lox

namespace Expr

/-! ## Regrouping -/

/-- The tree with a grouping around every operation. -/
def regroup : Expr → Expr
  | literal value => literal value
  | grouping inner => grouping inner.regroup
  | unary op operand => grouping (unary op operand.regroup)
  | binary left op right => grouping (binary left.regroup op right.regroup)
  | foreign form => foreign form

/-- The way to an operation in the regrouped tree: each operation on it, the last one included, is
reached through its grouping. -/
def regroupPath : List Branch → List Branch
  | [] => [.inner]
  | .inner :: path => .inner :: regroupPath path
  | branch :: path => .inner :: branch :: regroupPath path

theorem result_unary_congr (op : Token) {operand operand' : Expr}
    (h : operand.evaluate.result = operand'.evaluate.result) :
    (unary op operand).evaluate.result = (unary op operand').evaluate.result := by
  cases hv : operand.evaluate.result with
  | error error => rw [result_unary_of_error hv, result_unary_of_error (h.symm.trans hv)]
  | ok v => rw [result_unary_of_ok hv, result_unary_of_ok (h.symm.trans hv)]

theorem result_binary_congr (op : Token) {left left' right right' : Expr}
    (hl : left.evaluate.result = left'.evaluate.result)
    (hr : right.evaluate.result = right'.evaluate.result) :
    (binary left op right).evaluate.result = (binary left' op right').evaluate.result := by
  cases hw : right.evaluate.result with
  | error error => rw [result_binary_of_right hw, result_binary_of_right (hr.symm.trans hw)]
  | ok w =>
    have hw' := hr.symm.trans hw
    cases hv : left.evaluate.result with
    | error error =>
      rw [result_binary_of_left hw hv, result_binary_of_left hw' (hl.symm.trans hv)]
    | ok v => rw [result_binary_of_ok hw hv, result_binary_of_ok hw' (hl.symm.trans hv)]

/-- **Regrouping changes no result.** -/
theorem result_regroup (tree : Expr) : tree.regroup.evaluate.result = tree.evaluate.result := by
  induction tree with
  | literal | foreign => rfl
  | grouping inner ih => rw [regroup, result_grouping, result_grouping, ih]
  | unary op operand ih => rw [regroup, result_grouping, result_unary_congr op ih]
  | binary left op right ihl ihr =>
    rw [regroup, result_grouping, result_binary_congr op ihl ihr]

/-- **Regrouping changes no place of a failure.** -/
theorem FailsAt.regroup {tree : Expr} {path : List Branch} {cause : EvalFault} {op : Token}
    (h : tree.FailsAt path cause op) : tree.regroup.FailsAt (regroupPath path) cause op := by
  induction h with
  | unary hv hrule => exact .inner (.unary ((result_regroup _).trans hv) hrule)
  | binary hw hv hrule =>
    exact .inner (.binary ((result_regroup _).trans hw) ((result_regroup _).trans hv) hrule)
  | inner _ ih => exact .inner ih
  | operand _ ih => exact .inner (.operand ih)
  | right _ ih => exact .inner (.right ih)
  | left hw _ ih => exact .inner (.left ((result_regroup _).trans hw) ih)

/-! ## Failures and locations -/

variable (f : Location → Location)

theorem result_relocate_of_ok {tree : Expr} {v : Value} (h : tree.evaluate.result = .ok v) :
    (tree.relocate f).evaluate.result = .ok v := by
  rw [evaluate_relocate, Evaluation.relocate, h]
  rfl

/-- A moved tree fails at the node where the tree fails, and reports the moved operator. -/
theorem FailsAt.relocate {tree : Expr} {path : List Branch} {cause : EvalFault} {op : Token}
    (h : tree.FailsAt path cause op) :
    (tree.relocate f).FailsAt path cause (op.relocate f) := by
  induction h with
  | unary hv hrule => exact .unary (result_relocate_of_ok f hv) hrule
  | binary hw hv hrule =>
    exact .binary (result_relocate_of_ok f hw) (result_relocate_of_ok f hv) hrule
  | inner _ ih => exact .inner ih
  | operand _ ih => exact .operand ih
  | right _ ih => exact .right ih
  | left hw _ ih => exact .left (result_relocate_of_ok f hw) ih

/-- Trees that are equal apart from locations have the same value. -/
theorem result_of_relocate_eq {tree tree' : Expr} {v : Value}
    (heq : tree'.relocate f = tree.relocate f) (h : tree.evaluate.result = .ok v) :
    tree'.evaluate.result = .ok v := by
  have hmoved := result_relocate_of_ok f h
  rw [← heq, evaluate_relocate, Evaluation.relocate] at hmoved
  cases hresult : tree'.evaluate.result with
  | error error =>
    rw [hresult] at hmoved
    cases hmoved
  | ok w =>
    rw [hresult] at hmoved
    exact hmoved

/-- **Trees that are equal apart from locations fail at the same node.** -/
theorem FailsAt.of_relocate_eq {tree tree' : Expr} {path : List Branch} {cause : EvalFault}
    {op : Token} (heq : tree'.relocate f = tree.relocate f) (h : tree.FailsAt path cause op) :
    ∃ op', tree'.FailsAt path cause op' ∧ op'.relocate f = op.relocate f := by
  have hmoved := h.relocate f
  rw [← heq] at hmoved
  -- the other tree reports the same fault, and fails at one node only
  have hresult : tree'.evaluate.result.mapError (EvalError.relocate f) =
      .error (.fault cause (op.relocate f)) := by
    rw [← hmoved.result, evaluate_relocate]
    rfl
  rcases hother : tree'.evaluate.result with (⟨cause', op'⟩ | node) | v <;>
    rw [hother] at hresult
  · obtain ⟨rfl, hop⟩ := EvalError.fault.inj (Except.error.inj hresult)
    obtain ⟨path', hpath⟩ := result_eq_fault_iff.mp hother
    obtain rfl := hmoved.unique (hpath.relocate f)
    exact ⟨op', hpath, hop⟩
  · cases hresult
  · cases hresult

end Expr

end Lox
