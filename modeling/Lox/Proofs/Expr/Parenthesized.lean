import Lox.Expr.Basic
import Lox.Proofs.Token.Lexical

/-!
# The text of a tree

The text of a tree determines the tree, up to what a text cannot show. A node stands in parentheses,
its name first and a blank before each operand. So if leaves and operators are written as words, the
text of a tree ends at one place in a longer text: a leaf where a blank or a parenthesis follows, and
a node where its parenthesis closes. There the operands end as well, and the name tells a grouping
from an operation.

## Main definitions

* `IsWord`: a text that a blank or a parenthesis ends
* `Expr.InWords`: the leaves and the operators of the tree are written as words
* `Expr.SameText`: the same shape, with operators and leaves that are written alike
* `Expr.Printed`: the text of a tree by its nodes

## Main results

* `Expr.Printed.sameText`: the text of a tree ends at one place in a longer text
* `Expr.parenthesized_eq_iff`: trees have one text if and only if they are written alike
-/

namespace Lox

/-! ## Words -/

/-- The characters that end a word in the text of a tree. -/
def endsWord (c : Char) : Bool :=
  c = ' ' || c = '(' || c = ')'

/-- **A word** in the text of a tree: a text without blanks and parentheses, and not empty. -/
structure IsWord (text : String) : Prop where
  ne_empty : text ≠ ""
  inside : ∀ c ∈ text.toList, endsWord c = false

theorem isWord_iff {text : String} :
    IsWord text ↔ text ≠ "" ∧ text.toList.all (!endsWord ·) = true := by
  rw [List.all_eq_true]
  constructor
  · rintro ⟨hne, hinside⟩
    refine ⟨hne, ?_⟩
    intro c hc
    rw [hinside c hc]
    rfl
  · rintro ⟨hne, hall⟩
    refine ⟨hne, ?_⟩
    intro c hc
    simpa using hall c hc

instance (text : String) : Decidable (IsWord text) :=
  decidable_of_iff' _ isWord_iff

/-- What follows a word in the text of a tree: nothing, or a character that ends it. -/
def BehindWord (rest : List Char) : Prop :=
  ∀ c ∈ rest.head?, endsWord c = true

theorem behindWord_cons {c : Char} (h : endsWord c = true) (rest : List Char) :
    BehindWord (c :: rest) := by
  intro d hd
  obtain rfl : c = d := Option.some.inj hd
  exact h

/-- A word is the longest run of characters that do not end one. -/
theorem IsWord.takeWhile_append {text : String} {rest : List Char} (h : IsWord text)
    (hrest : BehindWord rest) : (text.toList ++ rest).takeWhile (!endsWord ·) = text.toList := by
  apply takeWhile_stop
  · exact List.all_eq_true.mp (isWord_iff.mp h).2
  · intro c hc
    rw [hrest c hc]
    rfl

/-- **A word ends at one place** in a longer text. -/
theorem IsWord.append_inj {first second : String} {rest rest' : List Char} (h : IsWord first)
    (h' : IsWord second) (hrest : BehindWord rest) (hrest' : BehindWord rest')
    (heq : first.toList ++ rest = second.toList ++ rest') : first = second ∧ rest = rest' := by
  have hword : first.toList = second.toList := by
    rw [← h.takeWhile_append hrest, heq, h'.takeWhile_append hrest']
  refine ⟨String.toList_inj.mp hword, ?_⟩
  rw [hword] at heq
  exact List.append_cancel_left heq

/-! ## The text of a node -/

namespace Expr

/-- The text of a node with a name, around the text of its operands. -/
def nodeText (name : String) (operands : List Char) : List Char :=
  '(' :: (name.toList ++ ' ' :: (operands ++ [')']))

/-- No word starts the text of a node. -/
theorem append_ne_nodeText {word name : String} {operands rest rest' : List Char}
    (h : IsWord word) : word.toList ++ rest ≠ nodeText name operands ++ rest' := by
  intro heq
  obtain ⟨c, tail, hword⟩ := List.exists_cons_of_ne_nil (mt String.toList_eq_nil_iff.mp h.ne_empty)
  have hinside := h.inside c (by rw [hword]; exact List.mem_cons_self)
  rw [hword] at heq
  obtain ⟨rfl, -⟩ := List.cons.inj heq
  cases hinside

/-- The name of a node ends at one place in its text, and the operands follow. -/
theorem nodeText_append_inj {name name' : String} {operands operands' rest rest' : List Char}
    (h : IsWord name) (h' : IsWord name')
    (heq : nodeText name operands ++ rest = nodeText name' operands' ++ rest') :
    name = name' ∧ operands ++ ')' :: rest = operands' ++ ')' :: rest' := by
  simp only [nodeText, List.cons_append, List.append_assoc, List.nil_append] at heq
  obtain ⟨hname, hbehind⟩ := h.append_inj h' (behindWord_cons rfl _) (behindWord_cons rfl _)
    (List.cons.inj heq).2
  exact ⟨hname, (List.cons.inj hbehind).2⟩

theorem isWord_group : IsWord "group" := by
  decide

/-! ## Trees that are written alike -/

/-- The operator is written as a word, other than a grouping. -/
def IsOperatorWord (op : Token) : Prop :=
  IsWord op.lexemeText ∧ op.lexemeText ≠ "group"

/-- **The tree is written in words**: its leaves and its operators are. -/
def InWords : Expr → Prop
  | literal v => IsWord v.display
  | grouping inner => inner.InWords
  | unary op operand => IsOperatorWord op ∧ operand.InWords
  | binary left op right => IsOperatorWord op ∧ left.InWords ∧ right.InWords
  | foreign _ => True

/-- **The same shape**, with the same lexeme at each operator and leaves that are displayed alike. -/
inductive SameText : Expr → Expr → Prop
  | literal {v w} : v.display = w.display → SameText (.literal v) (.literal w)
  | grouping {inner inner'} : SameText inner inner' → SameText (.grouping inner) (.grouping inner')
  | unary {op op' operand operand'} :
      op.lexeme = op'.lexeme → SameText operand operand' →
      SameText (.unary op operand) (.unary op' operand')
  | binary {left left' op op' right right'} :
      SameText left left' → op.lexeme = op'.lexeme → SameText right right' →
      SameText (.binary left op right) (.binary left' op' right')

/-- The text of an operation is not that of a grouping. -/
theorem IsOperatorWord.nodeText_ne_group {op : Token} {operands operands' rest rest' : List Char}
    (h : IsOperatorWord op) :
    nodeText op.lexemeText operands ++ rest ≠ nodeText "group" operands' ++ rest' := by
  intro heq
  apply h.2
  exact (nodeText_append_inj h.1 isWord_group heq).1

/-- Operators with the same text have the same lexeme, if the text is not empty. -/
theorem IsOperatorWord.lexeme_eq {op op' : Token} (h : IsOperatorWord op)
    (heq : op.lexemeText = op'.lexemeText) : op.lexeme = op'.lexeme := by
  have hne := h.1.ne_empty
  unfold Token.lexemeText at hne heq
  cases hop : op.lexeme with
  | none =>
    rw [hop] at hne
    exact absurd rfl hne
  | some lexeme =>
    cases hop' : op'.lexeme with
    | none =>
      rw [hop'] at heq
      exact absurd heq hne
    | some lexeme' =>
      rw [hop, hop'] at heq
      exact congrArg some heq

/-- Trees that are written alike have one text. -/
theorem SameText.exists_parenthesized {tree tree' : Expr} (h : tree.SameText tree') :
    ∃ text, tree.parenthesized = .ok text ∧ tree'.parenthesized = .ok text := by
  induction h with
  | @literal v w hdisplay =>
    refine ⟨v.display, rfl, ?_⟩
    rw [hdisplay]
    rfl
  | grouping _ ih =>
    obtain ⟨text, htext, htext'⟩ := ih
    exact ⟨_, parenthesized_grouping htext, parenthesized_grouping htext'⟩
  | @unary op op' _ _ hop _ ih =>
    obtain ⟨text, htext, htext'⟩ := ih
    refine ⟨_, parenthesized_unary op htext, ?_⟩
    rw [Token.lexemeText, hop]
    exact parenthesized_unary op' htext'
  | @binary _ _ op op' _ _ _ hop _ ihl ihr =>
    obtain ⟨first, hfirst, hfirst'⟩ := ihl
    obtain ⟨second, hsecond, hsecond'⟩ := ihr
    refine ⟨_, parenthesized_binary op hfirst hsecond, ?_⟩
    rw [Token.lexemeText, hop]
    exact parenthesized_binary op' hfirst' hsecond'

/-! ## The tree of a text -/

/-- **The text of a tree by its nodes**, character by character. -/
inductive Printed : Expr → List Char → Prop
  | literal (v : Value) : Printed (.literal v) v.display.toList
  | grouping {inner text} :
      Printed inner text → Printed (.grouping inner) (nodeText "group" text)
  | unary {op operand text} :
      Printed operand text → Printed (.unary op operand) (nodeText op.lexemeText text)
  | binary {left op right first second} :
      Printed left first → Printed right second →
      Printed (.binary left op right) (nodeText op.lexemeText (first ++ ' ' :: second))

theorem printed_of_parenthesized {tree : Expr} {text : String}
    (h : tree.parenthesized = .ok text) : tree.Printed text.toList := by
  induction tree generalizing text with
  | literal v =>
    obtain rfl := Except.ok.inj h
    exact .literal v
  | foreign form => cases h
  | grouping inner ih =>
    cases hinner : inner.parenthesized with
    | error node => rw [parenthesized, hinner] at h; cases h
    | ok operand =>
      obtain rfl := Except.ok.inj ((parenthesized_grouping hinner).symm.trans h)
      have hprinted : (grouping inner).Printed (nodeText "group" operand.toList) :=
        .grouping (ih hinner)
      simpa [nodeText] using hprinted
  | unary op operand ih =>
    cases hoperand : operand.parenthesized with
    | error node => rw [parenthesized, hoperand] at h; cases h
    | ok operandText =>
      obtain rfl := Except.ok.inj ((parenthesized_unary op hoperand).symm.trans h)
      have hprinted : (unary op operand).Printed (nodeText op.lexemeText operandText.toList) :=
        .unary (ih hoperand)
      simpa [nodeText] using hprinted
  | binary left op right ihl ihr =>
    cases hleft : left.parenthesized with
    | error node => rw [parenthesized, hleft] at h; cases h
    | ok first =>
      cases hright : right.parenthesized with
      | error node => rw [parenthesized, hleft, hright] at h; cases h
      | ok second =>
        obtain rfl := Except.ok.inj ((parenthesized_binary op hleft hright).symm.trans h)
        have hprinted : (binary left op right).Printed
            (nodeText op.lexemeText (first.toList ++ ' ' :: second.toList)) :=
          .binary (ihl hleft) (ihr hright)
        simpa [nodeText] using hprinted

/-- **The text of a tree ends at one place** in a longer text, and the tree before that place is
always written alike. -/
theorem Printed.sameText {tree tree' : Expr} {text text' rest rest' : List Char}
    (h : tree.Printed text) (h' : tree'.Printed text') (hw : tree.InWords) (hw' : tree'.InWords)
    (hrest : BehindWord rest) (hrest' : BehindWord rest') (heq : text ++ rest = text' ++ rest') :
    tree.SameText tree' ∧ rest = rest' := by
  have hclose (rest : List Char) : BehindWord (')' :: rest) := behindWord_cons rfl rest
  have hblank (rest : List Char) : BehindWord (' ' :: rest) := behindWord_cons rfl rest
  -- an operand is read with all that follows it, and so the texts behind the trees vary
  induction h generalizing tree' text' rest rest' with
  | literal v =>
    cases h' with
    | literal w =>
      obtain ⟨hdisplay, hbehind⟩ := hw.append_inj hw' hrest hrest' heq
      exact ⟨.literal hdisplay, hbehind⟩
    | grouping | unary | binary => exact absurd heq (append_ne_nodeText hw)
  | grouping _ ih =>
    cases h' with
    | literal w => exact absurd heq.symm (append_ne_nodeText hw')
    | grouping hinner' =>
      obtain ⟨-, hoperands⟩ := nodeText_append_inj isWord_group isWord_group heq
      obtain ⟨hsame, hbehind⟩ := ih hinner' hw hw' (hclose _) (hclose _) hoperands
      exact ⟨.grouping hsame, (List.cons.inj hbehind).2⟩
    | unary | binary => exact absurd heq.symm hw'.1.nodeText_ne_group
  | unary _ ih =>
    cases h' with
    | literal w => exact absurd heq.symm (append_ne_nodeText hw')
    | grouping => exact absurd heq hw.1.nodeText_ne_group
    | unary hoperand' =>
      obtain ⟨hname, hoperands⟩ := nodeText_append_inj hw.1.1 hw'.1.1 heq
      obtain ⟨hsame, hbehind⟩ := ih hoperand' hw.2 hw'.2 (hclose _) (hclose _) hoperands
      exact ⟨.unary (hw.1.lexeme_eq hname) hsame, (List.cons.inj hbehind).2⟩
    | binary hleft' =>
      -- behind the first operand one node closes, and the other one goes on
      obtain ⟨-, hoperands⟩ := nodeText_append_inj hw.1.1 hw'.1.1 heq
      rw [List.append_assoc] at hoperands
      obtain ⟨-, hbehind⟩ := ih hleft' hw.2 hw'.2.1 (hclose _) (hblank _) hoperands
      cases hbehind
  | binary _ _ ihl ihr =>
    cases h' with
    | literal w => exact absurd heq.symm (append_ne_nodeText hw')
    | grouping => exact absurd heq hw.1.nodeText_ne_group
    | unary hoperand' =>
      obtain ⟨-, hoperands⟩ := nodeText_append_inj hw.1.1 hw'.1.1 heq
      rw [List.append_assoc] at hoperands
      obtain ⟨-, hbehind⟩ := ihl hoperand' hw.2.1 hw'.2 (hblank _) (hclose _) hoperands
      cases hbehind
    | binary hleft' hright' =>
      obtain ⟨hname, hoperands⟩ := nodeText_append_inj hw.1.1 hw'.1.1 heq
      rw [List.append_assoc, List.append_assoc] at hoperands
      obtain ⟨hleft, hbehind⟩ := ihl hleft' hw.2.1 hw'.2.1 (hblank _) (hblank _) hoperands
      obtain ⟨hright, hbehind⟩ :=
        ihr hright' hw.2.2 hw'.2.2 (hclose _) (hclose _) (List.cons.inj hbehind).2
      exact ⟨.binary hleft (hw.1.lexeme_eq hname) hright, (List.cons.inj hbehind).2⟩

/-- **The text determines the tree.** Trees that are written in words have one text if and only if
they have the same shape, with the same lexeme at each operator and leaves that are displayed
alike. -/
theorem parenthesized_eq_iff {tree tree' : Expr} (hw : tree.InWords) (hw' : tree'.InWords) :
    (∃ text, tree.parenthesized = .ok text ∧ tree'.parenthesized = .ok text) ↔
      tree.SameText tree' := by
  constructor
  · rintro ⟨text, h, h'⟩
    have hnil : BehindWord [] := by
      intro c hc
      cases hc
    exact ((printed_of_parenthesized h).sameText (printed_of_parenthesized h') hw hw' hnil hnil
      rfl).1
  · exact SameText.exists_parenthesized

/-- `(* nil (group true))` is the text of a tree with nil and true at its leaves, and of a tree with
the texts `nil` and `true` at its leaves and an operator of another place and kind. -/
theorem parenthesized_eq_iff_displayed_alike :
    let tree (op : Token) (v w : Value) := binary (.literal v) op (.grouping (.literal w))
    let times : Token := ⟨.star, some "*", .nil, ⟨1, 5, 4, none⟩⟩
    let plus : Token := ⟨.plus, some "*", .text "*", ⟨3, 1, 9, some "a.lox"⟩⟩
    let first := tree times .nil (.bool true)
    let second := tree plus (.text "nil") (.text "true")
    first.InWords ∧ second.InWords ∧ first.parenthesized = .ok "(* nil (group true))" ∧
      second.parenthesized = .ok "(* nil (group true))" ∧ first.SameText second := by
  intro tree times plus first second
  have hstar : IsWord "*" ∧ "*" ≠ "group" := by decide
  have hnil : IsWord "nil" := by decide
  have htrue : IsWord "true" := by decide
  have hw : first.InWords := ⟨hstar, hnil, htrue⟩
  have hw' : second.InWords := ⟨hstar, hnil, htrue⟩
  have hfirst : first.parenthesized = .ok "(* nil (group true))" := rfl
  have hsecond : second.parenthesized = .ok "(* nil (group true))" := rfl
  exact ⟨hw, hw', hfirst, hsecond, (parenthesized_eq_iff hw hw').mp ⟨_, hfirst, hsecond⟩⟩

end Expr

end Lox
