import Lox.Proofs.Expr.Failing

/-!
# The order of evaluation

The nodes of a tree are completed operands first, and right operands before left ones. The trace of an
evaluation lists them in this order, each with the value that it has on its own: all of them if the
evaluation has a value, and otherwise those in front of the node that fails. That node is an operation
whose rule rejects the values of its operands, or a foreign node.

## Main definitions

* `Expr.order`: the nodes of a tree in the order of their completion
* `Expr.Raises`: a node that fails although its operands do not
* `Evaluation.Visits`: the trace of an evaluation runs through some nodes up to its error

## Main results

* `Evaluation.Visits.andThen`: evaluations one after the other
* `Expr.evaluate_visits`: an evaluation runs through the nodes in order, up to the first that fails
-/

namespace Lox

/-! ## Nodes in order -/

namespace Expr

/-- **The nodes of a tree from right to left, each behind its operands.** A node that occurs twice is
listed twice. -/
def order : Expr → List Expr
  | literal value => [literal value]
  | grouping inner => inner.order ++ [grouping inner]
  | unary op operand => operand.order ++ [unary op operand]
  | binary left op right => right.order ++ left.order ++ [binary left op right]
  | foreign form => [foreign form]

/-- **The node itself raises the error**: the rule of its operator rejects the values that its
operands have, and the error holds this operator; or the node is foreign. -/
inductive Raises : Expr → EvalError → Prop
  | unary {op operand v cause} :
      operand.evaluate.result = .ok v → applyUnary op.kind v = .error cause →
      Raises (.unary op operand) (.fault cause op)
  | binary {left op right v w cause} :
      right.evaluate.result = .ok w → left.evaluate.result = .ok v →
      applyBinary op.kind v w = .error cause →
      Raises (.binary left op right) (.fault cause op)
  | foreign (form) : Raises (.foreign form) (.foreign ⟨form⟩)

end Expr

/-! ## Traces through nodes -/

namespace Evaluation

/-- The trace runs through all the nodes, or the error is raised by the first node that the trace does
not run through. -/
def Reaches (evaluation : Evaluation) (nodes : List Expr) : Prop :=
  match evaluation.result with
  | .ok _ => evaluation.trace.map Completion.node = nodes
  | .error error => ∃ node rest,
      nodes = evaluation.trace.map Completion.node ++ node :: rest ∧ node.Raises error

/-- **The evaluation visits the nodes**, each with the value that it has on its own, up to the first
one that fails. -/
structure Visits (evaluation : Evaluation) (nodes : List Expr) : Prop where
  valued : ∀ completion ∈ evaluation.trace,
    completion.node.evaluate.result = .ok completion.value
  reaches : evaluation.Reaches nodes

/-- A node is completed with its value. -/
theorem visits_complete {node : Expr} {value : Value} (h : node.evaluate.result = .ok value) :
    (complete node value).Visits [node] where
  valued := by
    intro completion hcompletion
    obtain rfl := List.mem_singleton.mp hcompletion
    exact h
  reaches := rfl

/-- A node that raises an error is not completed. -/
theorem visits_fail {node : Expr} {error : EvalError} (h : node.Raises error) :
    (fail error).Visits [node] where
  valued := nofun
  reaches := ⟨node, [], rfl, h⟩

/-- The rule of an operator completes the operation with its value, or raises the error. -/
theorem visits_ofRule {node : Expr} {op : Token} {warning : Warning}
    {rule : Except EvalFault (Option Value)}
    (hvalue : ∀ value, rule = .ok value → node.evaluate.result = .ok (value.getD .nil))
    (hfault : ∀ cause, rule = .error cause → node.Raises (.fault cause op)) :
    (ofRule node op warning rule).Visits [node] := by
  rcases rule with cause | _ | value
  · exact visits_fail (hfault cause rfl)
  · -- a warning is no part of the trace
    obtain ⟨hvalued, hreaches⟩ := visits_complete (hvalue none rfl)
    exact ⟨hvalued, hreaches⟩
  · exact visits_complete (hvalue _ rfl)

/-- **Evaluations one after the other**: the second visits its nodes behind those of the first, or
does not begin. -/
theorem Visits.andThen {first : Evaluation} {next : Value → Evaluation} {nodes more : List Expr}
    (h : first.Visits nodes) (hnext : ∀ v, first.result = .ok v → (next v).Visits more) :
    (first.andThen next).Visits (nodes ++ more) := by
  obtain ⟨hvalued, hreaches⟩ := h
  unfold Reaches at hreaches
  cases hresult : first.result with
  | error error =>
    rw [hresult] at hreaches
    obtain ⟨node, rest, hnodes, hraises⟩ := hreaches
    rw [andThen_of_error hresult]
    refine ⟨hvalued, ?_⟩
    rw [Reaches, hresult]
    exact ⟨node, rest ++ more, by rw [hnodes, List.append_assoc, List.cons_append], hraises⟩
  | ok v =>
    rw [hresult] at hreaches
    obtain ⟨hvalued', hreaches'⟩ := hnext v hresult
    rw [andThen_of_ok hresult]
    refine ⟨fun completion hcompletion => ?_, ?_⟩
    · rcases List.mem_append.mp hcompletion with hfirst | hsecond
      · exact hvalued completion hfirst
      · exact hvalued' completion hsecond
    · unfold Reaches at hreaches' ⊢
      rw [List.map_append, hreaches]
      cases hsecond : (next v).result with
      | ok w =>
        rw [hsecond] at hreaches'
        exact congrArg (nodes ++ ·) hreaches'
      | error error =>
        rw [hsecond] at hreaches'
        obtain ⟨node, rest, hmore, hraises⟩ := hreaches'
        exact ⟨node, rest, by rw [hmore, List.append_assoc], hraises⟩

end Evaluation

/-! ## The evaluation of a tree -/

/-- **The evaluation of a tree visits its nodes in order.** If it has a value, the trace lists every
node, and each with the value that the node has on its own. If it fails, the trace lists the nodes in
front of the one that raises the error, and these all have a value. -/
theorem Expr.evaluate_visits (tree : Expr) : tree.evaluate.Visits tree.order := by
  induction tree with
  | literal value => exact Evaluation.visits_complete rfl
  | foreign form => exact Evaluation.visits_fail (.foreign form)
  | grouping inner ih =>
    refine ih.andThen fun v hv => Evaluation.visits_complete ?_
    rw [result_grouping, hv]
  | unary op operand ih =>
    refine ih.andThen fun v hv => Evaluation.visits_ofRule ?_ ?_
    · intro value hrule
      rw [result_unary_of_ok hv, hrule]
    · intro cause hrule
      exact .unary hv hrule
  | binary left op right ihl ihr =>
    -- the right operand comes first, and the left one only if the right one has a value
    rw [order, List.append_assoc]
    refine ihr.andThen fun w hw => ihl.andThen fun v hv => Evaluation.visits_ofRule ?_ ?_
    · intro value hrule
      rw [result_binary_of_ok hw hv, hrule]
    · intro cause hrule
      exact .binary hw hv hrule

end Lox
