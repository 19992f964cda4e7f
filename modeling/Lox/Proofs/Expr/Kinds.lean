import Lox.Proofs.Expr.Failing

/-!
# Kinds decide how an evaluation ends

Whether an evaluation succeeds, where it fails, and which warnings it gives depends on the kinds of
the literals and not on their values: no rule fails on account of a value, not even for a division
by zero. A checker that sees only the kinds predicts the end of every evaluation.

The rules on kinds, in the order in which they apply:

* `!` takes any operand and gives a boolean, unary `-` takes a number and gives a number
* an infix operator rejects nil and booleans
* `==` and `!=` give a boolean
* `+` gives a text for two texts
* every other infix operator rejects texts
* on two numbers, `+`, `-`, `*` and `/` give a number, and the comparisons a boolean
* an operator without a rule gives nil, with a warning

## Main definitions

* `KindTree`, `Expr.kinds?`: a tree with kinds in place of literals
* `unaryKind`, `binaryKind`: the rules of the operators, on kinds
* `KindTree.check`: the checker
* `Prediction.HoldsOf`: a prediction is true of the evaluation of a tree

## Main results

* `applyUnary_kind`, `applyBinary_kind`: the operators keep to the rules on kinds
* `KindTree.check_holdsOf`: what the checker predicts is true
* `evaluate_by_kinds`: trees of the same kinds are evaluated to the same end
-/

namespace Lox

/-! ## Trees of kinds -/

/-- A tree with the kinds of its literals in place of their values. -/
inductive KindTree where
  | literal (kind : ValueKind)
  | grouping (inner : KindTree)
  | unary (op : Token) (operand : KindTree)
  | binary (left : KindTree) (op : Token) (right : KindTree)
deriving Repr

/-- The kinds of a tree. A tree with a foreign node has none. -/
def Expr.kinds? : Expr → Option KindTree
  | literal value => some (.literal value.kind)
  | grouping inner => inner.kinds?.map .grouping
  | unary op operand => operand.kinds?.map (.unary op)
  | binary left op right => do
    let first ← left.kinds?
    let second ← right.kinds?
    return .binary first op second
  | foreign _ => none

/-- Two trees have the same kinds: the same shape, the same operator tokens, and literals of the
same kinds. -/
inductive Expr.SameKinds : Expr → Expr → Prop
  | literal {v w : Value} : v.kind = w.kind → SameKinds (.literal v) (.literal w)
  | grouping {inner inner'} :
      SameKinds inner inner' → SameKinds (.grouping inner) (.grouping inner')
  | unary {op operand operand'} :
      SameKinds operand operand' → SameKinds (.unary op operand) (.unary op operand')
  | binary {left left' op right right'} :
      SameKinds left left' → SameKinds right right' →
      SameKinds (.binary left op right) (.binary left' op right')

/-- Trees that have the same kinds have one tree of kinds. -/
theorem Expr.SameKinds.exists_kinds {tree tree' : Expr} (h : tree.SameKinds tree') :
    ∃ kinds, tree.kinds? = some kinds ∧ tree'.kinds? = some kinds := by
  induction h with
  | @literal v w hkind => exact ⟨.literal v.kind, rfl, by rw [kinds?, hkind]⟩
  | grouping _ ih =>
    obtain ⟨kinds, h, h'⟩ := ih
    exact ⟨.grouping kinds, by rw [kinds?, h]; rfl, by rw [kinds?, h']; rfl⟩
  | @unary op _ _ _ ih =>
    obtain ⟨kinds, h, h'⟩ := ih
    exact ⟨.unary op kinds, by rw [kinds?, h]; rfl, by rw [kinds?, h']; rfl⟩
  | @binary _ _ op _ _ _ _ ihl ihr =>
    obtain ⟨first, hl, hl'⟩ := ihl
    obtain ⟨second, hr, hr'⟩ := ihr
    exact ⟨.binary first op second, by rw [kinds?, hl, hr]; rfl, by rw [kinds?, hl', hr']; rfl⟩

/-! ## The rules on kinds -/

/-- The rule of a prefix operator: the kind of its value, `none` where the operator has no rule. -/
def unaryKind (op : TokenKind) (kind : ValueKind) : Except EvalFault (Option ValueKind) :=
  if op = .bang then .ok (some .bool)
  else if op = .minus then
    if kind = .number then .ok (some .number) else .error .operandNotNumber
  else .ok none

/-- The rule of an infix operator on two numbers. -/
def numbersKind (op : TokenKind) : Option ValueKind :=
  if op ∈ [.plus, .minus, .star, .slash] then some .number
  else if op ∈ [.greater, .greaterEqual, .less, .lessEqual] then some .bool
  else none

/-- The rule of an infix operator. -/
def binaryKind (op : TokenKind) (left right : ValueKind) :
    Except EvalFault (Option ValueKind) :=
  if left ∈ [.nil, .bool] ∨ right ∈ [.nil, .bool] then .error .operandsMixed
  else if op ∈ [.equalEqual, .bangEqual] then .ok (some .bool)
  else if op = .plus ∧ left = .text ∧ right = .text then .ok (some .text)
  else if left = .text ∨ right = .text then .error .operandNotNumber
  else .ok (numbersKind op)

/-- **The prefix operators keep to the rules on kinds.** -/
theorem applyUnary_kind (op : TokenKind) (v : Value) :
    (applyUnary op v).map (Option.map Value.kind) = unaryKind op v.kind := by
  cases v <;> cases op <;> rfl

/-- **The infix operators keep to the rules on kinds.** -/
theorem applyBinary_kind (op : TokenKind) (v w : Value) :
    (applyBinary op v w).map (Option.map Value.kind) = binaryKind op v.kind w.kind := by
  -- by the kinds of the operands: a nil or a boolean is rejected before the operator is asked
  cases v with
  | nil | bool => rfl
  | number x =>
    cases w with
    | nil | bool => rfl
    | number y => cases op <;> rfl
    | text t => cases op <;> rfl
  | text s =>
    cases w with
    | nil | bool => rfl
    | number y => cases op <;> rfl
    | text t => cases op <;> rfl

/-! ## The checker -/

/-- The end of an evaluation: a value of some kind, or a failure at a node. -/
inductive PredictedEnd where
  | value (kind : ValueKind)
  | fails (path : List Branch) (cause : EvalFault) (op : Token)
deriving Repr

/-- What the checker says of an evaluation: its warnings and its end. -/
structure Prediction where
  warnings : List Warning
  ending : PredictedEnd
deriving Repr

namespace Prediction

/-- The prediction for a tree whose operand in a branch is evaluated next: the operand fails, or the
evaluation goes on with its kind. -/
def below (branch : Branch) (operand : Prediction) (next : ValueKind → Prediction) : Prediction :=
  match operand.ending with
  | .fails path cause op => ⟨operand.warnings, .fails (branch :: path) cause op⟩
  | .value kind => ⟨operand.warnings ++ (next kind).warnings, (next kind).ending⟩

/-- The prediction for an operation, from what the rule of its operator says. -/
def ofRule (op : Token) (warning : Warning) : Except EvalFault (Option ValueKind) → Prediction
  | .ok (some kind) => ⟨[], .value kind⟩
  | .ok none => ⟨[warning], .value .nil⟩
  | .error cause => ⟨[], .fails [] cause op⟩

/-- The prediction is true of an evaluation: the warnings and the kind of the value are the
predicted ones, or the predicted fault is reported and `Fails` says that it is at the node. -/
def HoldsFor (prediction : Prediction) (evaluation : Evaluation)
    (Fails : List Branch → EvalFault → Token → Prop) : Prop :=
  evaluation.warnings = prediction.warnings ∧
    match prediction.ending with
    | .value kind => ∃ v, evaluation.result = .ok v ∧ v.kind = kind
    | .fails path cause op => evaluation.result = .error (.fault cause op) ∧ Fails path cause op

/-- **The prediction is true of the evaluation of the tree.** -/
def HoldsOf (prediction : Prediction) (tree : Expr) : Prop :=
  prediction.HoldsFor tree.evaluate tree.FailsAt

/-- What is true of an operand and of what follows it is true of both. -/
theorem HoldsFor.below {operand : Prediction} {next : ValueKind → Prediction}
    {first : Evaluation} {rest : Value → Evaluation}
    {Fails FailsBelow : List Branch → EvalFault → Token → Prop} {branch : Branch}
    (h : operand.HoldsFor first FailsBelow)
    (hfails : ∀ path cause op, FailsBelow path cause op → Fails (branch :: path) cause op)
    (hnext : ∀ v, first.result = .ok v → (next v.kind).HoldsFor (rest v) Fails) :
    (below branch operand next).HoldsFor (first.andThen rest) Fails := by
  obtain ⟨hwarnings, hend⟩ := h
  unfold Prediction.below
  cases hending : operand.ending with
  | fails path cause op =>
    rw [hending] at hend
    obtain ⟨hresult, hbelow⟩ := hend
    rw [Evaluation.andThen_of_error hresult]
    exact ⟨hwarnings, hresult, hfails path cause op hbelow⟩
  | value kind =>
    rw [hending] at hend
    obtain ⟨v, hv, rfl⟩ := hend
    obtain ⟨hwarnings', hend'⟩ := hnext v hv
    rw [Evaluation.andThen_of_ok hv]
    refine ⟨?_, hend'⟩
    show first.warnings ++ (rest v).warnings = operand.warnings ++ (next v.kind).warnings
    rw [hwarnings, hwarnings']

/-- What is said of an operation on account of the kinds is true of it. -/
theorem holdsFor_ofRule {node : Expr} {op : Token} {warning : Warning}
    {rule : Except EvalFault (Option Value)} {kinds : Except EvalFault (Option ValueKind)}
    {Fails : List Branch → EvalFault → Token → Prop}
    (hkinds : rule.map (Option.map Value.kind) = kinds)
    (hfails : ∀ cause, rule = .error cause → Fails [] cause op) :
    (ofRule op warning kinds).HoldsFor (Evaluation.ofRule node op warning rule) Fails := by
  subst hkinds
  rcases rule with cause | _ | value
  · exact ⟨rfl, rfl, hfails cause rfl⟩
  · exact ⟨rfl, .nil, rfl, rfl⟩
  · exact ⟨rfl, value, rfl, rfl⟩

end Prediction

/-- **The checker.** It sees kinds only, and goes from right to left as the evaluation does. -/
def KindTree.check : KindTree → Prediction
  | literal kind => ⟨[], .value kind⟩
  | grouping inner => .below .inner inner.check fun kind => ⟨[], .value kind⟩
  | unary op operand =>
    .below .operand operand.check fun kind =>
      .ofRule op (.unary op.kind) (unaryKind op.kind kind)
  | binary left op right =>
    .below .right right.check fun second =>
      .below .left left.check fun first =>
        .ofRule op (.binary op.kind) (binaryKind op.kind first second)

/-- **What the checker predicts is true**, of every tree with these kinds. -/
theorem KindTree.check_holdsOf {tree : Expr} {kinds : KindTree} (h : tree.kinds? = some kinds) :
    kinds.check.HoldsOf tree := by
  -- a prediction for a node is put together from those for its operands
  induction tree generalizing kinds with
  | literal value =>
    obtain rfl := Option.some.inj h
    exact ⟨rfl, value, rfl, rfl⟩
  | grouping inner ih =>
    obtain ⟨kinds, hinner, rfl⟩ := Option.map_eq_some_iff.mp h
    apply (ih hinner).below
    · intro path cause op hfails
      exact .inner hfails
    · intro v _
      exact ⟨rfl, v, rfl, rfl⟩
  | unary op operand ih =>
    obtain ⟨kinds, hoperand, rfl⟩ := Option.map_eq_some_iff.mp h
    apply (ih hoperand).below
    · intro path cause op hfails
      exact .operand hfails
    · intro v hv
      apply Prediction.holdsFor_ofRule (applyUnary_kind op.kind v)
      intro cause hrule
      exact .unary hv hrule
  | binary left op right ihl ihr =>
    obtain ⟨first, hleft, h⟩ := Option.bind_eq_some_iff.mp h
    obtain ⟨second, hright, h⟩ := Option.bind_eq_some_iff.mp h
    obtain rfl := Option.some.inj h
    apply (ihr hright).below
    · intro path cause op hfails
      exact .right hfails
    · intro w hw
      apply (ihl hleft).below
      · intro path cause op hfails
        exact .left hw hfails
      · intro v hv
        apply Prediction.holdsFor_ofRule (applyBinary_kind op.kind v w)
        intro cause hrule
        exact .binary hw hv hrule
  | foreign form => cases h

/-- **Kinds decide how an evaluation ends.** The checker predicts the end and the warnings of the
evaluation of every tree of the language. Hence two trees that have the same kinds give the same
warnings, and they both have values, of one kind, or they both fail with the same fault at the same
node. -/
theorem evaluate_by_kinds :
    (∀ (tree : Expr) (kinds : KindTree), tree.kinds? = some kinds → kinds.check.HoldsOf tree) ∧
      ∀ tree tree' : Expr, tree.SameKinds tree' →
        tree.evaluate.warnings = tree'.evaluate.warnings ∧
          ((∃ v v', tree.evaluate.result = .ok v ∧ tree'.evaluate.result = .ok v' ∧
              v.kind = v'.kind) ∨
            ∃ path cause op, tree.evaluate.result = .error (.fault cause op) ∧
              tree'.evaluate.result = .error (.fault cause op) ∧
              tree.FailsAt path cause op ∧ tree'.FailsAt path cause op) := by
  refine ⟨fun tree kinds => KindTree.check_holdsOf, fun tree tree' hsame => ?_⟩
  -- both trees have one tree of kinds, hence one prediction
  obtain ⟨kinds, hkinds, hkinds'⟩ := hsame.exists_kinds
  obtain ⟨hwarnings, hend⟩ := KindTree.check_holdsOf hkinds
  obtain ⟨hwarnings', hend'⟩ := KindTree.check_holdsOf hkinds'
  refine ⟨hwarnings.trans hwarnings'.symm, ?_⟩
  cases hending : kinds.check.ending with
  | value kind =>
    rw [hending] at hend hend'
    obtain ⟨v, hv, hkind⟩ := hend
    obtain ⟨v', hv', hkind'⟩ := hend'
    exact .inl ⟨v, v', hv, hv', hkind.trans hkind'.symm⟩
  | fails path cause op =>
    rw [hending] at hend hend'
    obtain ⟨hresult, hfails⟩ := hend
    obtain ⟨hresult', hfails'⟩ := hend'
    exact .inr ⟨path, cause, op, hresult, hresult', hfails, hfails'⟩

/-- `-"a" == (1 , 2)` without its parentheses: the comma has no rule and gives a warning, and then the
negation of a text fails. With any other text and numbers it ends alike. -/
theorem evaluate_by_kinds_negated_text :
    let op (kind : TokenKind) : Token := { kind := kind, location := Location.start none }
    let tree (s : String) (x y : Float) := Expr.binary
      (.unary (op .minus) (.literal (.text s))) (op .equalEqual)
      (.binary (.literal (.number x)) (op .comma) (.literal (.number y)))
    (tree "a" 1 2).SameKinds (tree "" 0 0) ∧
      (tree "a" 1 2).evaluate.warnings = [.binary .comma] ∧
      (tree "" 0 0).evaluate.warnings = [.binary .comma] ∧
      (tree "a" 1 2).FailsAt [.left] .operandNotNumber (op .minus) ∧
      (tree "" 0 0).FailsAt [.left] .operandNotNumber (op .minus) := by
  intro op tree
  have hsame : (tree "a" 1 2).SameKinds (tree "" 0 0) :=
    .binary (.unary (.literal rfl)) (.binary (.literal rfl) (.literal rfl))
  obtain ⟨hwarnings, hresult, hfails⟩ := evaluate_by_kinds.1 (tree "a" 1 2)
    (.binary (.unary (op .minus) (.literal .text)) (op .equalEqual)
      (.binary (.literal .number) (op .comma) (.literal .number))) rfl
  obtain ⟨hwarnings', ⟨v, -, hv, -⟩ | ⟨path, cause, token, hresult', -, hleft, hleft'⟩⟩ :=
    evaluate_by_kinds.2 _ _ hsame
  · exact absurd hv hfails.not_ok
  · -- the two agree on a node, and the first tree fails at no other
    obtain rfl := hfails.unique hleft
    cases hresult.symm.trans hresult'
    exact ⟨hsame, hwarnings, hwarnings'.symm.trans hwarnings, hleft, hleft'⟩

end Lox
