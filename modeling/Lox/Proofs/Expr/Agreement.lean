import Lox.Proofs.Decimal.Zeros
import Lox.Proofs.Expr.Failing

/-!
# Trees that agree

Two trees agree if they have the same shape, the same operators at the same places, and leaves that
agree. Leaves agree if their values are the same, but not only then: a boolean agrees with the
number one or zero, and the two zeros agree with each other. Where no leaf of a tree is mistaken for
another value in this way, trees that agree have the same text, and their evaluations have the same
value or fail with the same cause at the same operator. A mistaken leaf can make a difference to all
of this.

## Main definitions

* `Value.Mistaken`: different values that agree
* `Expr.leafAt?`: the leaf at the end of a path
* `Expr.Alike`: the same tree, but for the values that the operator tokens hold
* `Expr.SameBehaviour`: the same text, and the same outcome of the evaluation

## Main results

* `Value.eq_or_mistaken_of_agrees`: the values that agree
* `Expr.sameBehaviour_of_agrees`: trees that agree behave alike, if no leaf is mistaken
* `Expr.agrees_not_sameBehaviour`: the two ways to mistake a leaf make a difference
-/

namespace Lox

/-! ## Leaves -/

/-- **Mistaken values**: different values that may agree, a boolean and a number, or the two
zeros. -/
inductive Value.Mistaken : Value → Value → Prop
  | bool (truth : Bool) (y : Float) : Mistaken (.bool truth) (.number y)
  | number (x : Float) (truth : Bool) : Mistaken (.number x) (.bool truth)
  | zero : Mistaken (.number 0) (.number (-0))
  | negativeZero : Mistaken (.number (-0)) (.number 0)

/-- **Values that agree** are the same, unless one is mistaken for the other. -/
theorem Value.eq_or_mistaken_of_agrees {v w : Value} (h : v.agrees w = true) :
    v = w ∨ v.Mistaken w := by
  cases v with
  | nil => cases w <;> first | exact .inl rfl | cases h
  | bool truth =>
    cases w with
    | bool truth' => exact .inl (congrArg Value.bool (beq_iff_eq.mp h))
    | number y => exact .inr (.bool truth y)
    | nil | text => cases h
  | number x =>
    cases w with
    | bool truth => exact .inr (.number x truth)
    | number y =>
      obtain rfl | ⟨rfl, rfl⟩ | ⟨rfl, rfl⟩ := Decimal.eq_or_zeros_of_beq h
      · exact .inl rfl
      · exact .inr .zero
      · exact .inr .negativeZero
    | nil | text => cases h
  | text s =>
    cases w with
    | text t => exact .inl (congrArg Value.text (beq_iff_eq.mp h))
    | nil | bool | number => cases h

namespace Expr

/-- The leaf at the end of a path from the root, if the path leads to a leaf. -/
def leafAt? : Expr → List Branch → Option Value
  | literal v, [] => some v
  | grouping inner, .inner :: path => inner.leafAt? path
  | unary _ operand, .operand :: path => operand.leafAt? path
  | binary left _ _, .left :: path => left.leafAt? path
  | binary _ _ right, .right :: path => right.leafAt? path
  | _, _ => none

/-! ## Trees that are alike -/

/-- **The same tree**, but for the values that the operator tokens hold. -/
inductive Alike : Expr → Expr → Prop
  | literal (v : Value) : Alike (.literal v) (.literal v)
  | grouping {inner inner'} : Alike inner inner' → Alike (.grouping inner) (.grouping inner')
  | unary {op op' operand operand'} :
      op.agrees op' = true → Alike operand operand' →
      Alike (.unary op operand) (.unary op' operand')
  | binary {left left' op op' right right'} :
      Alike left left' → op.agrees op' = true → Alike right right' →
      Alike (.binary left op right) (.binary left' op' right')

/-- Trees that agree are alike, if no leaf is mistaken for another value. -/
theorem alike_of_agrees {tree tree' : Expr} (h : tree.agrees tree' = true)
    (hleaves : ∀ path v w, tree.leafAt? path = some v → tree'.leafAt? path = some w →
      ¬ v.Mistaken w) : tree.Alike tree' := by
  induction tree generalizing tree' with
  | foreign form => cases tree' <;> cases h
  | literal v =>
    cases tree' with
    | literal w =>
      -- the only place where agreement is weaker than equality
      obtain rfl | hmistaken := Value.eq_or_mistaken_of_agrees h
      · exact .literal v
      · exact absurd hmistaken (hleaves [] v w rfl rfl)
    | grouping | unary | binary | foreign => cases h
  | grouping inner ih =>
    cases tree' with
    | grouping inner' => exact .grouping (ih h fun path => hleaves (.inner :: path))
    | literal | unary | binary | foreign => cases h
  | unary op operand ih =>
    cases tree' with
    | unary op' operand' =>
      obtain ⟨hop, hoperand⟩ := (Bool.and_eq_true _ _).mp h
      exact .unary hop (ih hoperand fun path => hleaves (.operand :: path))
    | literal | grouping | binary | foreign => cases h
  | binary left op right ihl ihr =>
    cases tree' with
    | binary left' op' right' =>
      obtain ⟨hfirst, hright⟩ := (Bool.and_eq_true _ _).mp h
      obtain ⟨hleft, hop⟩ := (Bool.and_eq_true _ _).mp hfirst
      exact .binary (ihl hleft fun path => hleaves (.left :: path)) hop
        (ihr hright fun path => hleaves (.right :: path))
    | literal | grouping | unary | foreign => cases h

end Expr

/-- Operators that agree have the same kind and the same lexeme. -/
theorem Token.agrees_kind_lexeme {op op' : Token} (h : op.agrees op' = true) :
    op.kind = op'.kind ∧ op.lexeme = op'.lexeme := by
  simp only [Token.agrees, Bool.and_eq_true, decide_eq_true_eq] at h
  exact ⟨h.1.1.1, h.1.1.2⟩

theorem Token.lexemeText_eq_of_agrees {op op' : Token} (h : op.agrees op' = true) :
    op.lexemeText = op'.lexemeText := by
  rw [lexemeText, lexemeText, (agrees_kind_lexeme h).2]

/-! ## Behaviour -/

/-- **The same outcome**: the same value, or failures with the same cause at operators that
agree. -/
inductive SameOutcome : Except EvalError Value → Except EvalError Value → Prop
  | value (v : Value) : SameOutcome (.ok v) (.ok v)
  | fault {op op' : Token} (cause : EvalFault) :
      op.agrees op' = true → SameOutcome (.error (.fault cause op)) (.error (.fault cause op'))

namespace Expr

/-- **The same behaviour**: the trees have one text, and their evaluations the same outcome. -/
structure SameBehaviour (tree tree' : Expr) : Prop where
  text : ∃ text, tree.parenthesized = .ok text ∧ tree'.parenthesized = .ok text
  outcome : SameOutcome tree.evaluate.result tree'.evaluate.result

/-- Trees with the same behaviour display the same value, if they have one. -/
theorem SameBehaviour.toOption_interpret {tree tree' : Expr} (h : tree.SameBehaviour tree') :
    tree.interpret.toOption = tree'.interpret.toOption := by
  have houtcome := h.outcome
  unfold interpret
  generalize tree.evaluate.result = result at houtcome ⊢
  generalize tree'.evaluate.result = result' at houtcome ⊢
  cases houtcome <;> rfl

namespace Alike

variable {tree tree' : Expr}

/-- **Trees that are alike have one text.** -/
theorem text (h : tree.Alike tree') :
    ∃ text, tree.parenthesized = .ok text ∧ tree'.parenthesized = .ok text := by
  induction h with
  | literal v => exact ⟨v.display, rfl, rfl⟩
  | grouping _ ih =>
    obtain ⟨text, htext, htext'⟩ := ih
    exact ⟨_, parenthesized_grouping htext, parenthesized_grouping htext'⟩
  | @unary op op' _ _ hop _ ih =>
    obtain ⟨text, htext, htext'⟩ := ih
    refine ⟨_, parenthesized_unary op htext, ?_⟩
    rw [Token.lexemeText_eq_of_agrees hop]
    exact parenthesized_unary op' htext'
  | @binary _ _ op op' _ _ _ hop _ ihl ihr =>
    obtain ⟨first, hfirst, hfirst'⟩ := ihl
    obtain ⟨second, hsecond, hsecond'⟩ := ihr
    refine ⟨_, parenthesized_binary op hfirst hsecond, ?_⟩
    rw [Token.lexemeText_eq_of_agrees hop]
    exact parenthesized_binary op' hfirst' hsecond'

/-- What the rule of an operator says is reported alike by operators that agree. -/
theorem sameOutcome_of_rule {op op' : Token} (hop : op.agrees op' = true)
    (rule : Except EvalFault (Option Value)) :
    SameOutcome
      (match rule with
        | .ok value => .ok (value.getD .nil)
        | .error cause => .error (.fault cause op))
      (match rule with
        | .ok value => .ok (value.getD .nil)
        | .error cause => .error (.fault cause op')) := by
  cases rule with
  | ok value => exact .value _
  | error cause => exact .fault cause hop

/-- **Trees that are alike have the same outcome.** -/
theorem outcome (h : tree.Alike tree') :
    SameOutcome tree.evaluate.result tree'.evaluate.result := by
  -- the first operand that fails does so in both trees, and the rules see equal values
  induction h with
  | literal v => exact .value v
  | grouping _ ih => rwa [result_grouping, result_grouping]
  | @unary op op' operand operand' hop _ ih =>
    generalize hresult : operand.evaluate.result = result at ih
    generalize hresult' : operand'.evaluate.result = result' at ih
    cases ih with
    | value v =>
      rw [result_unary_of_ok hresult, result_unary_of_ok hresult', (Token.agrees_kind_lexeme hop).1]
      exact sameOutcome_of_rule hop _
    | fault cause hagrees =>
      rw [result_unary_of_error hresult, result_unary_of_error hresult']
      exact .fault cause hagrees
  | @binary left left' op op' right right' _ hop _ ihl ihr =>
    -- the right operand is evaluated first
    generalize hw : right.evaluate.result = result at ihr
    generalize hw' : right'.evaluate.result = result' at ihr
    cases ihr with
    | fault cause hagrees =>
      rw [result_binary_of_right hw, result_binary_of_right hw']
      exact .fault cause hagrees
    | value w =>
      generalize hv : left.evaluate.result = result at ihl
      generalize hv' : left'.evaluate.result = result' at ihl
      cases ihl with
      | fault cause hagrees =>
        rw [result_binary_of_left hw hv, result_binary_of_left hw' hv']
        exact .fault cause hagrees
      | value v =>
        rw [result_binary_of_ok hw hv, result_binary_of_ok hw' hv',
          (Token.agrees_kind_lexeme hop).1]
        exact sameOutcome_of_rule hop _

end Alike

/-- **Trees that agree behave alike**, if no leaf is mistaken for another value: they have the same
text, and the same value or the same failure. -/
theorem sameBehaviour_of_agrees {tree tree' : Expr} (h : tree.agrees tree' = true)
    (hleaves : ∀ path v w, tree.leafAt? path = some v → tree'.leafAt? path = some w →
      ¬ v.Mistaken w) : tree.SameBehaviour tree' :=
  have halike := alike_of_agrees h hleaves
  ⟨halike.text, halike.outcome⟩

/-- A comparison that is rejected. The operators agree, although one holds a boolean and the other a
number. -/
theorem sameBehaviour_of_agrees_rejected :
    let comparison (held : Value) :=
      Expr.binary (.literal (.text "a")) ⟨.less, some "<", held, ⟨1, 5, 4, none⟩⟩ (.literal .nil)
    (comparison (.bool true)).agrees (comparison (.number 1)) = true ∧
      (∀ path v w, (comparison (.bool true)).leafAt? path = some v →
        (comparison (.number 1)).leafAt? path = some w → ¬ v.Mistaken w) ∧
      (comparison (.bool true)).SameBehaviour (comparison (.number 1)) := by
  intro comparison
  have hagrees : (comparison (.bool true)).agrees (comparison (.number 1)) = true := rfl
  have hleaf {held : Value} {path : List Branch} {v : Value}
      (h : (comparison held).leafAt? path = some v) :
      v = .text "a" ∨ v = .nil := by
    cases path with
    | nil => cases h
    | cons branch path =>
      cases branch with
      | left =>
        cases path with
        | nil => exact .inl (Option.some.inj h).symm
        | cons => cases h
      | right =>
        cases path with
        | nil => exact .inr (Option.some.inj h).symm
        | cons => cases h
      | inner | operand => cases h
  have hleaves : ∀ path v w, (comparison (.bool true)).leafAt? path = some v →
      (comparison (.number 1)).leafAt? path = some w → ¬ v.Mistaken w := by
    intro path v w hv _ hmistaken
    obtain rfl | rfl := hleaf hv <;> cases hmistaken
  exact ⟨hagrees, hleaves, sameBehaviour_of_agrees hagrees hleaves⟩

/-- **Mistaken leaves make a difference**: negated, `true` is rejected, while one has a value; and
one divided by the two zeros gives the two infinities. -/
theorem agrees_not_sameBehaviour :
    let minus : Token := ⟨.minus, some "-", .nil, ⟨1, 1, 0, none⟩⟩
    let slash : Token := ⟨.slash, some "/", .nil, ⟨1, 3, 2, none⟩⟩
    let negation (v : Value) := Expr.unary minus (.literal v)
    let quotient (x : Float) := Expr.binary (.literal (.number 1)) slash (.literal (.number x))
    ((negation (.bool true)).agrees (negation (.number 1)) = true ∧
        (negation (.bool true)).evaluate.result = .error (.fault .operandNotNumber minus) ∧
        (negation (.number 1)).evaluate.result = .ok (.number (-1)) ∧
        ¬ (negation (.bool true)).SameBehaviour (negation (.number 1))) ∧
      (quotient 0).agrees (quotient (-0)) = true ∧
        (quotient 0).interpret.toOption = some "Infinity" ∧
        (quotient (-0)).interpret.toOption = some "-Infinity" ∧
        ¬ (quotient 0).SameBehaviour (quotient (-0)) := by
  intro minus slash negation quotient
  have hzero : (quotient 0).interpret.toOption = some "Infinity" := rfl
  have hnegative : (quotient (-0)).interpret.toOption = some "-Infinity" := rfl
  refine ⟨⟨rfl, rfl, rfl, ?_⟩, rfl, hzero, hnegative, ?_⟩
  · intro h
    have houtcome : SameOutcome (.error (.fault .operandNotNumber minus)) (.ok (.number (-1))) :=
      h.outcome
    cases houtcome
  · intro h
    have hdisplay := h.toOption_interpret
    rw [hzero, hnegative] at hdisplay
    exact absurd hdisplay (by decide)

end Expr

end Lox
