import Lox.Proofs.Expr.Kinds
import Lox.Proofs.Grammar.Derivation

/-!
# Operators and their rules

In a tree of the grammar the operations with one operand hold prefix operators and those with two
hold infix operators, all of them tokens that the tree was read from. Each of these operators has an
evaluation rule. So the evaluation of such a tree gives no warning, it carries out an operation only
on values that the operation is defined for, and it gives nil only where nil was written.

## Main definitions

* `Expr.UsesOnly`: the operators of a tree have a property
* `Expr.BuiltFrom`: the operators of a tree are among some tokens
* `Expr.IsRuled`: the operators of a tree have evaluation rules
* `Expr.WellApplied`: an operation is defined for the values of its operands
* `Evaluation.IsClean`: no warning, and only operations that are defined for their operands
* `Expr.IsNil`: nil, in any number of parentheses

## Main results

* `Derives.builtFrom`: the operators of a tree are tokens it was read from
* `applyBinary_eq_ok`: the operands that an infix operator takes
* `Expr.IsRuled.isClean`: the evaluation of a ruled tree is clean
* `Expr.IsRuled.result_eq_nil_iff`: only nil has the value nil
-/

namespace Lox

/-! ## The operators of a tree -/

/-- **The operators of the tree** satisfy `P` where they have one operand, and `Q` where they have
two. The tree has no foreign node. -/
inductive Expr.UsesOnly (P Q : Token → Prop) : Expr → Prop
  | literal {value} : UsesOnly P Q (.literal value)
  | grouping {inner} : UsesOnly P Q inner → UsesOnly P Q (.grouping inner)
  | unary {op operand} : P op → UsesOnly P Q operand → UsesOnly P Q (.unary op operand)
  | binary {left op right} :
      UsesOnly P Q left → Q op → UsesOnly P Q right → UsesOnly P Q (.binary left op right)

theorem Expr.UsesOnly.mono {P Q P' Q' : Token → Prop} {tree : Expr} (h : tree.UsesOnly P Q)
    (hP : ∀ op, P op → P' op) (hQ : ∀ op, Q op → Q' op) : tree.UsesOnly P' Q' := by
  induction h with
  | literal => exact .literal
  | grouping _ ih => exact .grouping ih
  | unary hop _ ih => exact .unary (hP _ hop) ih
  | binary _ hop _ ihl ihr => exact .binary ihl (hQ _ hop) ihr

/-- A tree fails at one of its operators. -/
theorem Expr.UsesOnly.of_failsAt {P Q : Token → Prop} {tree : Expr} {path : List Branch}
    {cause : EvalFault} {op : Token} (h : tree.UsesOnly P Q) (hfails : tree.FailsAt path cause op) :
    P op ∨ Q op := by
  induction hfails with
  | unary =>
    cases h with
    | unary hop _ => exact .inl hop
  | binary =>
    cases h with
    | binary _ hop _ => exact .inr hop
  | inner _ ih =>
    cases h with
    | grouping h => exact ih h
  | operand _ ih =>
    cases h with
    | unary _ h => exact ih h
  | right _ ih =>
    cases h with
    | binary _ _ h => exact ih h
  | left _ _ ih =>
    cases h with
    | binary h _ _ => exact ih h

/-- A tree without a foreign node has a text. -/
theorem Expr.UsesOnly.exists_parenthesized {P Q : Token → Prop} {tree : Expr}
    (h : tree.UsesOnly P Q) : ∃ text, tree.parenthesized = .ok text := by
  induction h with
  | literal => exact ⟨_, rfl⟩
  | grouping _ ih =>
    obtain ⟨text, htext⟩ := ih
    exact ⟨_, parenthesized_grouping htext⟩
  | @unary op _ _ _ ih =>
    obtain ⟨text, htext⟩ := ih
    exact ⟨_, parenthesized_unary op htext⟩
  | @binary _ op _ _ _ _ ihl ihr =>
    obtain ⟨first, hfirst⟩ := ihl
    obtain ⟨second, hsecond⟩ := ihr
    exact ⟨_, parenthesized_binary op hfirst hsecond⟩

/-- A chain adds the operators of its links. -/
theorem Link.usesOnly_fold {P Q : Token → Prop} {links : List Link} {first : Expr}
    (hfirst : first.UsesOnly P Q) (hops : ∀ link ∈ links, Q link.op)
    (hlinks : ∀ link ∈ links, link.operand.UsesOnly P Q) :
    (Link.fold first links).UsesOnly P Q := by
  induction links generalizing first with
  | nil => exact hfirst
  | cons link links ih =>
    obtain ⟨hop, hops⟩ := List.forall_mem_cons.mp hops
    obtain ⟨hlink, hlinks⟩ := List.forall_mem_cons.mp hlinks
    rw [Link.fold_cons]
    exact ih (.binary hfirst hop hlink) hops hlinks

/-- The operators of the tree are among the tokens: prefix operators where they have one operand, and
infix operators where they have two. -/
def Expr.BuiltFrom (tokens : List Token) (tree : Expr) : Prop :=
  tree.UsesOnly (fun op => op ∈ tokens ∧ op.kind ∈ prefixOperators)
    (fun op => op ∈ tokens ∧ op.kind ∈ infixOperators)

theorem Expr.BuiltFrom.mono {tokens tokens' : List Token} {tree : Expr}
    (h : tree.BuiltFrom tokens) (hsub : tokens ⊆ tokens') : tree.BuiltFrom tokens' :=
  UsesOnly.mono h (fun _ hop => ⟨hsub hop.1, hop.2⟩) (fun _ hop => ⟨hsub hop.1, hop.2⟩)

/-- A tree fails at one of the tokens that it is built from, and not at an end of the text. -/
theorem Expr.BuiltFrom.of_failsAt {tokens : List Token} {tree : Expr} {path : List Branch}
    {cause : EvalFault} {op : Token} (h : tree.BuiltFrom tokens)
    (hfails : tree.FailsAt path cause op) : op ∈ tokens ∧ op.kind ≠ .eof := by
  obtain ⟨hmem, hop⟩ | ⟨hmem, hop⟩ := UsesOnly.of_failsAt h hfails
  · exact ⟨hmem, fun heof => absurd (heof ▸ hop) (by decide)⟩
  · exact ⟨hmem, fun heof => absurd (heof ▸ hop) (by decide)⟩

theorem InfixLevel.mem_infixOperators {level : InfixLevel} {kind : TokenKind}
    (h : kind ∈ level.operators) : kind ∈ infixOperators := by
  refine Decidable.not_not.mp fun hkind => ?_
  have hrank := mem_operators_iff.mp h
  rw [rank?_eq_none_iff.mpr hkind] at hrank
  cases hrank

/-- **A tree of the grammar is built from the tokens** it is derived from. -/
theorem Derives.builtFrom {n : Nonterminal} {tokens : List Token} {tree : Expr}
    (h : Derives n tokens tree) : tree.BuiltFrom tokens := by
  induction h with
  | expression _ ih => exact ih
  | @chain level tokens first links _ hops _ ih ihlinks =>
    -- the operators of the links, and those in the operands of the links
    have hspelled (link : Link) (hlink : link ∈ links) :
        link.op :: link.tokens ⊆ tokens ++ Link.spelling links := by
      intro token htoken
      exact List.mem_append_right _ (List.mem_flatMap.mpr ⟨link, hlink, htoken⟩)
    apply Link.usesOnly_fold
    · exact ih.mono (List.subset_append_left _ _)
    · intro link hlink
      exact ⟨hspelled link hlink List.mem_cons_self,
        InfixLevel.mem_infixOperators (hops link hlink)⟩
    · intro link hlink
      exact (ihlinks link hlink).mono
        (List.Subset.trans (List.subset_cons_self _ _) (hspelled link hlink))
  | unary hop _ ih =>
    exact .unary ⟨List.mem_cons_self, hop⟩ (ih.mono (List.subset_cons_self _ _))
  | primary _ ih => exact ih
  | number | string | true | false | nil => exact .literal
  | group _ _ _ ih =>
    exact .grouping (ih.mono (List.subset_cons_of_subset _ (List.subset_append_left _ _)))

/-! ## The rules of the operators -/

/-- The operators of the tree have evaluation rules. -/
def Expr.IsRuled (tree : Expr) : Prop :=
  tree.UsesOnly (·.kind ∈ prefixOperators) (·.kind ∈ infixOperators)

/-- **The trees of the grammar are ruled.** -/
theorem Expr.BuiltFrom.isRuled {tokens : List Token} {tree : Expr} (h : tree.BuiltFrom tokens) :
    tree.IsRuled :=
  UsesOnly.mono h (fun _ hop => hop.2) (fun _ hop => hop.2)

/-- A prefix operator gives a value other than nil if it takes its operand, and negation takes only
numbers. -/
theorem applyUnary_eq_ok {op : TokenKind} {v : Value} {value : Option Value}
    (hop : op ∈ prefixOperators) (h : applyUnary op v = .ok value) :
    (op = .bang ∨ op = .minus ∧ ∃ x, v = .number x) ∧ ∃ w, value = some w ∧ w ≠ .nil := by
  cases op with
  | bang =>
    cases h
    exact ⟨.inl rfl, _, rfl, nofun⟩
  | minus =>
    cases v <;> cases h
    exact ⟨.inr ⟨rfl, _, rfl⟩, _, rfl, nofun⟩
  | _ => exact absurd hop (by decide)

/-- **The operands that an infix operator takes**: any two numbers or texts for equality, else two
numbers, and two texts for `+`. -/
theorem applyBinary_eq_ok {op : TokenKind} {v w : Value} {value : Option Value}
    (h : applyBinary op v w = .ok value) :
    (op ∈ InfixLevel.equality.operators ∧ (v.isOperand ∧ w.isOperand) ∧
        ∃ truth, value = some (.bool truth)) ∨
      (op ∉ InfixLevel.equality.operators ∧
        ∃ x y, v = .number x ∧ w = .number y ∧ value = applyNumbers op x y) ∨
      op = .plus ∧ ∃ s t, v = .text s ∧ w = .text t ∧ value = some (.text (s ++ t)) := by
  unfold applyBinary at h
  split at h
  · next hoperands =>
    have htaken : v.isOperand ∧ w.isOperand := Bool.and_eq_true_iff.mp hoperands
    unfold applyOperands at h
    split at h
    · cases h
      exact .inl ⟨by decide, htaken, _, rfl⟩
    · cases h
      exact .inl ⟨by decide, htaken, _, rfl⟩
    · next hequal hdiffer =>
      have hop : op ∉ InfixLevel.equality.operators := by
        intro hop
        rcases List.mem_cons.mp hop with rfl | hop
        · exact hdiffer rfl
        · exact hequal (List.mem_singleton.mp hop)
      split at h
      · cases h
        exact .inr (.inl ⟨hop, _, _, rfl, rfl, rfl⟩)
      · split at h
        · next hplus =>
          cases h
          exact .inr (.inr ⟨hplus, _, _, rfl, rfl, rfl⟩)
        · cases h
      · cases h
  · cases h

/-- An infix operator other than equality gives a value other than nil for two numbers. -/
theorem applyNumbers_eq_some {op : TokenKind} (hop : op ∈ infixOperators)
    (hequal : op ∉ InfixLevel.equality.operators) (x y : Float) :
    ∃ w, applyNumbers op x y = some w ∧ w ≠ .nil := by
  cases op with
  | minus | plus | slash | star | greater | greaterEqual | less | lessEqual =>
    exact ⟨_, rfl, nofun⟩
  | bangEqual | equalEqual => exact absurd (by decide) hequal
  | _ => exact absurd hop (by decide)

/-- An infix operator gives a value other than nil if it takes its operands. -/
theorem applyBinary_eq_some {op : TokenKind} {v w : Value} {value : Option Value}
    (hop : op ∈ infixOperators) (h : applyBinary op v w = .ok value) :
    ∃ u, value = some u ∧ u ≠ .nil := by
  obtain ⟨-, -, truth, rfl⟩ | ⟨hequal, x, y, -, -, rfl⟩ | ⟨-, s, t, -, -, rfl⟩ :=
    applyBinary_eq_ok h
  · exact ⟨_, rfl, nofun⟩
  · exact applyNumbers_eq_some hop hequal x y
  · exact ⟨_, rfl, nofun⟩

/-! ## Evaluation without warnings -/

/-- **The operation at the node is defined for the values of its operands.** Negation takes a
number, `+` two numbers or two texts, and any other infix operator two numbers, except that equality
also compares texts, and texts with numbers. -/
inductive Expr.WellApplied : Expr → Prop
  | literal {value} : WellApplied (.literal value)
  | grouping {inner} : WellApplied (.grouping inner)
  | not {op operand v} :
      op.kind = .bang → operand.evaluate.result = .ok v → WellApplied (.unary op operand)
  | negation {op operand x} :
      op.kind = .minus → operand.evaluate.result = .ok (.number x) →
      WellApplied (.unary op operand)
  | equality {left op right v w} :
      op.kind ∈ InfixLevel.equality.operators → left.evaluate.result = .ok v → v.isOperand →
      right.evaluate.result = .ok w → w.isOperand → WellApplied (.binary left op right)
  | numbers {left op right x y} :
      op.kind ∈ infixOperators → left.evaluate.result = .ok (.number x) →
      right.evaluate.result = .ok (.number y) → WellApplied (.binary left op right)
  | texts {left op right s t} :
      op.kind = .plus → left.evaluate.result = .ok (.text s) →
      right.evaluate.result = .ok (.text t) → WellApplied (.binary left op right)

/-- The evaluation gives no warning, and the operations it completes are defined for the values of
their operands. -/
structure Evaluation.IsClean (evaluation : Evaluation) : Prop where
  unwarned : evaluation.warnings = []
  applied : ∀ completion ∈ evaluation.trace, completion.node.WellApplied

namespace Evaluation

theorem isClean_complete {node : Expr} (h : node.WellApplied) (value : Value) :
    (complete node value).IsClean where
  unwarned := rfl
  applied := by
    intro completion hcompletion
    obtain rfl := List.mem_singleton.mp hcompletion
    exact h

/-- An operation is clean if its operator has a rule, and takes only what it is defined for. -/
theorem isClean_ofRule {node : Expr} {op : Token} {warning : Warning}
    {rule : Except EvalFault (Option Value)}
    (h : ∀ value, rule = .ok value → value ≠ none ∧ node.WellApplied) :
    (ofRule node op warning rule).IsClean := by
  rcases rule with cause | _ | value
  · exact ⟨rfl, nofun⟩
  · exact absurd rfl (h none rfl).1
  · exact isClean_complete (h _ rfl).2 value

theorem IsClean.andThen {first : Evaluation} {next : Value → Evaluation} (h : first.IsClean)
    (hnext : ∀ v, first.result = .ok v → (next v).IsClean) : (first.andThen next).IsClean := by
  cases hresult : first.result with
  | error error =>
    rw [andThen_of_error hresult]
    exact h
  | ok v =>
    obtain ⟨hwarnings, happlied⟩ := hnext v hresult
    rw [andThen_of_ok hresult]
    refine ⟨by simp [h.unwarned, hwarnings], fun completion hcompletion => ?_⟩
    rcases List.mem_append.mp hcompletion with hfirst | hsecond
    · exact h.applied completion hfirst
    · exact happlied completion hsecond

end Evaluation

/-- **The evaluation of a ruled tree is clean.** -/
theorem Expr.IsRuled.isClean {tree : Expr} (h : tree.IsRuled) : tree.evaluate.IsClean := by
  induction h with
  | literal => exact Evaluation.isClean_complete .literal _
  | grouping _ ih => exact ih.andThen fun v _ => Evaluation.isClean_complete .grouping v
  | unary hop _ ih =>
    refine ih.andThen fun v hv => Evaluation.isClean_ofRule fun value hrule => ?_
    obtain ⟨hoperand, w, rfl, -⟩ := applyUnary_eq_ok hop hrule
    refine ⟨nofun, ?_⟩
    rcases hoperand with hbang | ⟨hminus, x, rfl⟩
    · exact .not hbang hv
    · exact .negation hminus hv
  | binary _ hop _ ihl ihr =>
    -- the right operand first, and then the left one
    refine ihr.andThen fun w hw => ihl.andThen fun v hv => ?_
    refine Evaluation.isClean_ofRule fun value hrule => ?_
    obtain ⟨u, rfl, -⟩ := applyBinary_eq_some hop hrule
    refine ⟨nofun, ?_⟩
    obtain ⟨hequal, hoperands, -⟩ | ⟨-, x, y, rfl, rfl, -⟩ | ⟨hplus, s, t, rfl, rfl, -⟩ :=
      applyBinary_eq_ok hrule
    · exact .equality hequal hv hoperands.1 hw hoperands.2
    · exact .numbers hop hv hw
    · exact .texts hplus hv hw

/-! ## The value nil -/

/-- Nil, in any number of parentheses. -/
inductive Expr.IsNil : Expr → Prop
  | literal : IsNil (.literal .nil)
  | grouping {inner} : IsNil inner → IsNil (.grouping inner)

/-- **Only nil has the value nil**: no operation gives it. -/
theorem Expr.IsRuled.result_eq_nil_iff {tree : Expr} (h : tree.IsRuled) :
    tree.evaluate.result = .ok .nil ↔ tree.IsNil := by
  constructor
  · intro hnil
    induction h with
    | literal =>
      cases hnil
      exact .literal
    | grouping _ ih =>
      rw [result_grouping] at hnil
      exact .grouping (ih hnil)
    | unary hop _ _ =>
      obtain ⟨v, value, -, hrule, hvalue⟩ := result_unary_eq_ok_iff.mp hnil
      obtain ⟨-, w, rfl, hw⟩ := applyUnary_eq_ok hop hrule
      exact absurd hvalue.symm hw
    | binary _ hop _ _ _ =>
      obtain ⟨v, w, value, -, -, hrule, hvalue⟩ := result_binary_eq_ok_iff.mp hnil
      obtain ⟨u, rfl, hu⟩ := applyBinary_eq_some hop hrule
      exact absurd hvalue.symm hu
  · intro hnil
    clear h
    induction hnil with
    | literal => rfl
    | grouping _ ih => rw [result_grouping, ih]

end Lox
