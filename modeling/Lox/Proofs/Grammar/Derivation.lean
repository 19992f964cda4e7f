import Lox.Grammar.Reader

/-!
# The grammar of expressions

The grammar that the reader is checked against, from the loosest to the tightest binding:

* expression := equality
* equality := comparison ( ( "!=" | "==" ) comparison )*
* comparison := addition ( ( ">" | ">=" | "<" | "<=" ) addition )*
* addition := multiplication ( ( "-" | "+" ) multiplication )*
* multiplication := unary ( ( "/" | "*" ) unary )*
* unary := ( "!" | "-" ) unary | primary
* primary := NUMBER | STRING | "true" | "false" | "nil" | "(" expression ")"

A derivation also says which tree the tokens have: a chain leans to the left, a prefix operator
applies to what follows it, and each pair of parentheses is a node.

## Main definitions

* `InfixLevel`, `Nonterminal`: the nonterminals, of which four are chains of infix operators
* `Link`: an operator of a chain with the operand behind it
* `Derives`: the derivations, as a relation between tokens and trees

## Main results

* `InfixLevel.mem_operators_iff`: the operators of a level are those of its rank
* `Derives.snoc`: a chain goes on by one link
* `Derives.loosen`: what a tighter nonterminal derives, a looser one derives too
* `Derives.toExpression`: what any nonterminal derives is an expression
-/

namespace Lox

/-! ## Levels and nonterminals -/

/-- The nonterminals that are chains of infix operators. -/
inductive InfixLevel where
  | equality
  | comparison
  | addition
  | multiplication
deriving DecidableEq, Repr

/-- The operators of a chain. -/
def InfixLevel.operators : InfixLevel → List TokenKind
  | equality => [.bangEqual, .equalEqual]
  | comparison => [.greater, .greaterEqual, .less, .lessEqual]
  | addition => [.minus, .plus]
  | multiplication => [.slash, .star]

/-- The ten infix operators. -/
def infixOperators : List TokenKind :=
  InfixLevel.equality.operators ++ InfixLevel.comparison.operators ++
    InfixLevel.addition.operators ++ InfixLevel.multiplication.operators

/-- The prefix operators. -/
def prefixOperators : List TokenKind :=
  [.bang, .minus]

/-- The place of a level between the loosest and the tightest. -/
def InfixLevel.rank : InfixLevel → Nat
  | equality => 1
  | comparison => 2
  | addition => 3
  | multiplication => 4

/-- The nonterminals of the grammar. -/
inductive Nonterminal where
  | expression
  | chain (level : InfixLevel)
  | unary
  | primary
deriving DecidableEq, Repr

/-- The nonterminal of the operands of a chain: the next tighter one. -/
def InfixLevel.operand : InfixLevel → Nonterminal
  | equality => .chain .comparison
  | comparison => .chain .addition
  | addition => .chain .multiplication
  | multiplication => .unary

/-- The place of a nonterminal between the loosest and the tightest. -/
def Nonterminal.rank : Nonterminal → Nat
  | expression => 1
  | chain level => level.rank
  | unary => 5
  | primary => 6

@[simp] theorem Nonterminal.rank_chain (level : InfixLevel) :
    (chain level).rank = level.rank := rfl

@[simp] theorem InfixLevel.rank_operand (level : InfixLevel) :
    level.operand.rank = level.rank + 1 := by
  cases level <;> rfl

theorem InfixLevel.one_le_rank (level : InfixLevel) : 1 ≤ level.rank := by
  cases level <;> decide

theorem InfixLevel.rank_lt_unary (level : InfixLevel) :
    level.rank < Nonterminal.unary.rank := by
  cases level <;> decide

/-- The operators of a level are the operators of its rank. -/
theorem InfixLevel.mem_operators_iff {level : InfixLevel} {kind : TokenKind} :
    kind ∈ level.operators ↔ kind.rank? = some level.rank := by
  cases level <;> cases kind <;> decide

/-- The operators with a rank are those of some level. -/
theorem rank?_eq_some_iff {kind : TokenKind} {rank : Nat} :
    kind.rank? = some rank ↔ ∃ level : InfixLevel, level.rank = rank ∧ kind ∈ level.operators := by
  constructor
  · intro h
    cases kind <;> cases h
    case mp.minus.refl | mp.plus.refl => exact ⟨.addition, rfl, by decide⟩
    case mp.slash.refl | mp.star.refl => exact ⟨.multiplication, rfl, by decide⟩
    case mp.bangEqual.refl | mp.equalEqual.refl => exact ⟨.equality, rfl, by decide⟩
    all_goals exact ⟨.comparison, rfl, by decide⟩
  · rintro ⟨level, rfl, h⟩
    exact InfixLevel.mem_operators_iff.mp h

/-- The kinds without a rank are those other than the ten operators. -/
theorem rank?_eq_none_iff {kind : TokenKind} : kind.rank? = none ↔ kind ∉ infixOperators := by
  cases kind <;> decide

/-- An infix operator belongs to some level. -/
theorem exists_level {kind : TokenKind} (h : kind ∈ infixOperators) :
    ∃ level : InfixLevel, kind ∈ level.operators := by
  cases hrank : kind.rank? with
  | none => exact absurd h (rank?_eq_none_iff.mp hrank)
  | some rank =>
    obtain ⟨level, -, hmem⟩ := rank?_eq_some_iff.mp hrank
    exact ⟨level, hmem⟩

theorem isPrefixOp_iff {kind : TokenKind} : kind.isPrefixOp = true ↔ kind ∈ prefixOperators := by
  cases kind <;> decide

/-! ## Chains -/

/-- An infix operator of a chain together with the operand behind it. -/
structure Link where
  op : Token
  tokens : List Token
  operand : Expr

/-- The tokens of the links of a chain. -/
def Link.spelling (links : List Link) : List Token :=
  links.flatMap fun link => link.op :: link.tokens

/-- The tree of a chain, which leans to the left. -/
def Link.fold (first : Expr) (links : List Link) : Expr :=
  links.foldl (fun left link => .binary left link.op link.operand) first

@[simp] theorem Link.spelling_nil : Link.spelling [] = [] := rfl

@[simp] theorem Link.spelling_cons (link : Link) (links : List Link) :
    Link.spelling (link :: links) = link.op :: (link.tokens ++ Link.spelling links) := by
  simp [Link.spelling]

@[simp] theorem Link.fold_nil (first : Expr) : Link.fold first [] = first := rfl

@[simp] theorem Link.fold_cons (first : Expr) (link : Link) (links : List Link) :
    Link.fold first (link :: links) =
      Link.fold (.binary first link.op link.operand) links := rfl

theorem Link.spelling_append (first second : List Link) :
    Link.spelling (first ++ second) = Link.spelling first ++ Link.spelling second :=
  List.flatMap_append

theorem Link.fold_append (tree : Expr) (first second : List Link) :
    Link.fold tree (first ++ second) = Link.fold (Link.fold tree first) second :=
  List.foldl_append

/-! ## Derivations -/

/-- **The grammar**: `Derives n tokens tree` says that the nonterminal `n` derives the tokens, and
that `tree` is their tree. An operation holds the very token of its operator. -/
inductive Derives : Nonterminal → List Token → Expr → Prop
  | expression {tokens tree} :
      Derives (.chain .equality) tokens tree → Derives .expression tokens tree
  | chain {level tokens first} (links : List Link) :
      Derives level.operand tokens first →
      (∀ link ∈ links, link.op.kind ∈ level.operators) →
      (∀ link ∈ links, Derives level.operand link.tokens link.operand) →
      Derives (.chain level) (tokens ++ Link.spelling links) (Link.fold first links)
  | unary {op tokens operand} :
      op.kind ∈ prefixOperators → Derives .unary tokens operand →
      Derives .unary (op :: tokens) (.unary op operand)
  | primary {tokens tree} : Derives .primary tokens tree → Derives .unary tokens tree
  | number {token} : token.kind = .number → Derives .primary [token] (.literal token.literal)
  | string {token} : token.kind = .string → Derives .primary [token] (.literal token.literal)
  | true {token} : token.kind = .kwTrue → Derives .primary [token] (.literal (.bool true))
  | false {token} : token.kind = .kwFalse → Derives .primary [token] (.literal (.bool false))
  | nil {token} : token.kind = .kwNil → Derives .primary [token] (.literal .nil)
  | group {opening tokens tree closing} :
      opening.kind = .leftParen → Derives .expression tokens tree → closing.kind = .rightParen →
      Derives .primary (opening :: (tokens ++ [closing])) (.grouping tree)

/-- A token that is an operand by itself is a primary expression. -/
theorem Derives.of_operand? {token : Token} {value : Value} (h : token.operand? = some value) :
    Derives .primary [token] (.literal value) := by
  unfold Token.operand? at h
  split at h <;> cases h
  case h_1 hk => exact .false hk
  case h_2 hk => exact .true hk
  case h_3 hk => exact .nil hk
  case h_4 hk => exact .number hk
  case h_5 hk => exact .string hk

/-- An operand is a chain without links. -/
theorem Derives.single {level : InfixLevel} {tokens : List Token} {tree : Expr}
    (h : Derives level.operand tokens tree) : Derives (.chain level) tokens tree := by
  simpa using Derives.chain [] h (by simp) (by simp)

/-- A chain goes on by an operator and an operand. -/
theorem Derives.snoc {level : InfixLevel} {first second : List Token} {left right : Expr}
    {op : Token} (hl : Derives (.chain level) first left) (hop : op.kind ∈ level.operators)
    (hr : Derives level.operand second right) :
    Derives (.chain level) (first ++ op :: second) (.binary left op right) := by
  cases hl with
  | @chain _ tokens tree links hfirst hops hlinks =>
    have h := Derives.chain (links ++ [⟨op, second, right⟩]) hfirst
      (by simpa [or_imp, forall_and] using ⟨hops, hop⟩)
      (by simpa [or_imp, forall_and] using ⟨hlinks, hr⟩)
    simpa [Link.spelling_append, Link.fold_append] using h

/-- What a prefix operator can apply to is a unary expression. -/
theorem Derives.toUnary {n : Nonterminal} {tokens : List Token} {tree : Expr}
    (h : Derives n tokens tree) (hr : Nonterminal.unary.rank ≤ n.rank) :
    Derives .unary tokens tree := by
  cases n with
  | expression => exact absurd hr (by decide)
  | chain level => exact absurd hr (Nat.not_le_of_lt level.rank_lt_unary)
  | unary => exact h
  | primary => exact .primary h

/-- One level outwards: an expression of a level is one of the operands of the level, or already a
chain of it. -/
theorem Derives.outwards {n : Nonterminal} {level : InfixLevel} {tokens : List Token}
    {tree : Expr} (h : Derives n tokens tree) (hr : level.rank ≤ n.rank)
    (ho : level.operand.rank ≤ n.rank → Derives level.operand tokens tree) :
    Derives (.chain level) tokens tree := by
  rcases Nat.eq_or_lt_of_le hr with heq | hlt
  · -- a nonterminal of the same rank is the chain of the level, or an expression for the loosest
    cases n with
    | expression =>
      obtain rfl : level = .equality := by cases level <;> first | rfl | cases heq
      cases h with
      | expression h => exact h
    | chain own =>
      obtain rfl : level = own := by cases level <;> cases own <;> first | rfl | cases heq
      exact h
    | unary => exact absurd heq (Nat.ne_of_lt level.rank_lt_unary)
    | primary => cases level <;> cases heq
  · exact .single (ho (by rw [level.rank_operand]; exact hlt))

/-- What a tighter nonterminal derives, the looser chains derive too. -/
theorem Derives.loosen {n : Nonterminal} {level : InfixLevel} {tokens : List Token}
    {tree : Expr} (h : Derives n tokens tree) (hr : level.rank ≤ n.rank) :
    Derives (.chain level) tokens tree := by
  -- from the tightest level outwards: each chain is an operand of the next
  have hm (hr : InfixLevel.multiplication.rank ≤ n.rank) := h.outwards hr h.toUnary
  have ha (hr : InfixLevel.addition.rank ≤ n.rank) := h.outwards hr hm
  have hc (hr : InfixLevel.comparison.rank ≤ n.rank) := h.outwards hr ha
  cases level with
  | equality => exact h.outwards hr hc
  | comparison => exact hc hr
  | addition => exact ha hr
  | multiplication => exact hm hr

/-- What binds tighter than a level can be an operand of it. -/
theorem Derives.toOperand {n : Nonterminal} {level : InfixLevel} {tokens : List Token}
    {tree : Expr} (h : Derives n tokens tree) (hr : level.rank < n.rank) :
    Derives level.operand tokens tree := by
  cases level with
  | equality => exact h.loosen hr
  | comparison => exact h.loosen hr
  | addition => exact h.loosen hr
  | multiplication => exact h.toUnary hr

/-- What any nonterminal derives is an expression. -/
theorem Derives.toExpression {n : Nonterminal} {tokens : List Token} {tree : Expr}
    (h : Derives n tokens tree) : Derives .expression tokens tree := by
  have hrank : InfixLevel.equality.rank ≤ n.rank := by
    cases n with
    | chain level => exact level.one_le_rank
    | expression | unary | primary => decide
  exact .expression (h.loosen hrank)

end Lox
