import Lox.Proofs.Run.RoundTrip
import Mathlib.Data.List.Induction

/-!
# Sums of strings

A source can quote any texts and add them up. No text needs an escape, but for the double quote that
would end its literal: line breaks, comment marks, operators and words stand in the quotes as they
are. The sum leans to the left, and each operation evaluates its right operand first; yet the texts
come out in the order they were written in.

## Main definitions

* `stringLiteral`: a text in double quotes
* `sumOfStrings`: the literals of texts with plus signs between them

## Main results

* `Expr.result_plus`: a sum of two trees that have texts
* `exists_readsAs_sumOfStrings`: the sum reads as a tree that has the joined text
* `run_sumOfStrings`: the run of a sum of strings
-/

namespace Lox

/-! ## The source -/

/-- The literal of a text: the text in double quotes, as it is. -/
def stringLiteral (text : String) : String :=
  "\"" ++ text ++ "\""

/-- The sum of the literals of texts. -/
def sumOfStrings (texts : List String) : String :=
  String.intercalate " + " (texts.map stringLiteral)

theorem sumOfStrings_singleton (text : String) : sumOfStrings [text] = stringLiteral text := by
  rw [sumOfStrings, List.map_singleton, String.intercalate_singleton]

/-- One more literal stands behind one more plus sign. -/
theorem sumOfStrings_concat {texts : List String} (hne : texts ≠ []) (last : String) :
    sumOfStrings (texts ++ [last]) = sumOfStrings texts ++ " + " ++ stringLiteral last := by
  have hmap : texts.map stringLiteral ≠ [] := List.map_eq_nil_iff.not.mpr hne
  rw [sumOfStrings, List.map_append, List.map_singleton,
    String.intercalate_append_of_ne_nil hmap (List.cons_ne_nil _ _),
    String.intercalate_singleton]
  rfl

theorem join_singleton (text : String) : String.join [text] = text := by
  rw [String.join_cons, String.join_nil, String.append_empty]

/-! ## The tree -/

/-- The literal of a text reads as the text. -/
theorem ReadsAs.stringLiteral {text : String} (h : '"' ∉ text.toList) :
    ∃ pieces, ReadsAs .primary (stringLiteral text).toList pieces (.literal (.text text)) := by
  have hbody : ∀ c ∈ text.toList, c ≠ '"' := fun c hc heq => h (heq ▸ hc)
  have hreads : ReadsAs .primary _ _ (.literal (.text text)) :=
    .leaf (.string hbody) (by simp) fun token hkind hvalue => by
      rw [Token.operand?, hkind, hvalue, String.ofList_toList]
  exact ⟨_, by simpa [Lox.stringLiteral] using hreads⟩

/-- **A sum of two trees that have texts** has the texts joined in their order, although the right
tree is evaluated before the left one. -/
theorem Expr.result_plus {left right : Expr} {op : Token} {s t : String} (hop : op.kind = .plus)
    (hl : left.evaluate.result = .ok (.text s)) (hr : right.evaluate.result = .ok (.text t)) :
    (binary left op right).evaluate.result = .ok (.text (s ++ t)) := by
  have hrule : applyBinary op.kind (.text s) (.text t) = .ok (some (.text (s ++ t))) := by
    rw [hop]
    rfl
  exact result_binary_eq_ok_iff.mpr ⟨_, _, _, hl, hr, hrule, rfl⟩

/-- **A sum of strings reads as a tree that has the joined text.** The induction takes the literals
from the end, as the last plus sign is the root of the tree. -/
theorem exists_readsAs_sumOfStrings {first : String} {others : List String}
    (h : ∀ text ∈ first :: others, '"' ∉ text.toList) :
    ∃ pieces tree,
      ReadsAs (.chain .addition) (sumOfStrings (first :: others)).toList pieces tree ∧
      tree.evaluate.result = .ok (.text (String.join (first :: others))) := by
  have hrank : InfixLevel.addition.rank < Nonterminal.primary.rank := by decide
  induction others using List.reverseRecOn with
  | nil =>
    obtain ⟨pieces, hreads⟩ := ReadsAs.stringLiteral (h first List.mem_cons_self)
    have hvalue : (Expr.literal (.text first)).evaluate.result =
        .ok (.text (String.join [first])) := by
      rw [join_singleton]
      rfl
    refine ⟨pieces, _, ?_, hvalue⟩
    rw [sumOfStrings_singleton]
    exact hreads.mono (·.loosen (Nat.le_of_lt hrank))
  | append_singleton others last ih =>
    rw [← List.cons_append] at h ⊢
    obtain ⟨hfront, hlast⟩ := List.forall_mem_append.mp h
    obtain ⟨before, left, hleft, hvalue⟩ := ih hfront
    obtain ⟨after, hright⟩ := ReadsAs.stringLiteral (hlast last (List.mem_singleton_self last))
    have hplus : (['+'], TokenKind.plus) ∈ symbols := by decide
    -- the sum so far is the left operand of one more plus sign
    have hlink := hleft.link (by decide) hplus (.start none) (hright.mono (·.toOperand hrank))
    have hlastValue : (Expr.literal (.text last)).evaluate.result = .ok (.text last) := rfl
    have hjoin : String.join (first :: others ++ [last]) =
        String.join (first :: others) ++ last := by
      rw [String.join_append, join_singleton]
    have htext : (sumOfStrings (first :: others ++ [last])).toList =
        (sumOfStrings (first :: others)).toList ++ ' ' :: ['+'] ++
          ' ' :: (stringLiteral last).toList := by
      rw [sumOfStrings_concat (List.cons_ne_nil _ _)]
      simp
    rw [htext, hjoin]
    exact ⟨_, _, hlink, Expr.result_plus rfl hvalue hlastValue⟩

/-! ## The run -/

/-- A text that reads as a tree with a value ends with that value. -/
theorem ReadsAs.finished {n : Nonterminal} {source : String} {pieces : List Piece} {tree : Expr}
    {v : Value} (h : ReadsAs n source.toList pieces tree) (hv : tree.evaluate.result = .ok v)
    (file : Option String) :
    ∃ tokens tree', (run source file).outcome = .finished tokens tree' v := by
  obtain ⟨tree', htree, heq⟩ := h.derives file []
  have hmunch : Munch source.toList pieces [] := by
    simpa using h.munch isDelimited_nil
  have hparse := parseTokens_of_derives htree.toExpression (.endOf file source.toList)
  rw [run_of_parse (tokensOf_of_munch hmunch file) hparse]
  exact ⟨_, tree', runTree_finished (Expr.result_of_relocate_eq .forget heq hv) file _⟩

/-- **The run of a sum of strings** succeeds, and has the texts joined in their order, whatever the
texts hold apart from double quotes. The display is the joined text itself. -/
theorem run_sumOfStrings {texts : List String} (hne : texts ≠ [])
    (h : ∀ text ∈ texts, '"' ∉ text.toList) (file : Option String) :
    (run (sumOfStrings texts) file).outcome.failure? = none ∧
      (run (sumOfStrings texts) file).outcome.value? = some (.text (String.join texts)) ∧
      (run (sumOfStrings texts) file).outcome.display? = some (String.join texts) := by
  obtain ⟨first, others, rfl⟩ := List.exists_cons_of_ne_nil hne
  obtain ⟨pieces, tree, hreads, hvalue⟩ := exists_readsAs_sumOfStrings h
  obtain ⟨tokens, tree', houtcome⟩ := hreads.finished hvalue file
  rw [houtcome]
  exact ⟨rfl, rfl, rfl⟩

/-- Comment marks, line breaks, plus signs and words in the literals are text like any other. -/
theorem run_sumOfStrings_marks :
    let texts := ["// one", "\n+ ", "", "nil"]
    sumOfStrings texts = "\"// one\" + \"\n+ \" + \"\" + \"nil\"" ∧
      (run (sumOfStrings texts) none).outcome.display? = some "// one\n+ nil" := by
  have hquotes : ∀ text ∈ ["// one", "\n+ ", "", "nil"], '"' ∉ text.toList := by simp
  exact ⟨by simp [sumOfStrings, stringLiteral],
    (run_sumOfStrings (by simp) hquotes none).2.2⟩

end Lox
