import Lox.Proofs.Grammar.Soundness
import Lox.Token.Scan

/-!
# The parser accepts its grammar

Every expression of the grammar is read, whatever is pending before it: the reader consumes its
tokens, and then has an operand that collapses to its tree. With the invariant of the reader this
characterizes the answers of a parser, and no tokens have two trees.

## Main definitions

* `ReaderState.Holds`: an operand that collapses to a tree

## Main results

* `Derives.holds`: the reader consumes what the grammar derives
* `parseTokens_of_derives`: the parser returns what the tokens derive, up to the end of the text
* `parse_returns_iff`: a parser returns the trees of the grammar, and the grammar is unambiguous
-/

namespace Lox

namespace ReaderState

/-- A reader that has an operand which every operator up to the rank collapses to the tree, before
the same pending constructs. -/
def Holds (rank : Nat) (tree : Expr) (pending : List Pending) : ReaderState → Prop
  | needsOperand _ => False
  | hasOperand operand inner =>
    ∀ r ≤ rank, collapse r operand inner = collapse r tree pending

theorem Holds.mono {rank rank' : Nat} {tree : Expr} {pending : List Pending} {state : ReaderState}
    (h : state.Holds rank tree pending) (hr : rank' ≤ rank) : state.Holds rank' tree pending := by
  cases state with
  | needsOperand => exact h
  | hasOperand => exact fun r hle => h r (Nat.le_trans hle hr)

/-- A token that is an operand by itself is consumed where an operand is needed. -/
theorem step_operand {token : Token} {value : Value} (h : token.operand? = some value)
    (pending : List Pending) :
    (needsOperand pending).step token = .consume (.hasOperand (.literal value) pending) := by
  cases hkind : token.kind <;>
    simp_all [step, Token.operand?, TokenKind.isPrefixOp]

/-- An operator of a level is consumed behind a chain of the level. -/
theorem Holds.step_op {level : InfixLevel} {tree : Expr} {pending : List Pending}
    {state : ReaderState} {op : Token} (h : state.Holds level.rank tree pending)
    (hf : Fits level.rank pending) (hop : op.kind ∈ level.operators) :
    state.step op = .consume (.needsOperand (.binary tree op level.rank :: pending)) := by
  cases state with
  | needsOperand => exact h.elim
  | hasOperand operand inner =>
    simp only [step, InfixLevel.mem_operators_iff.mp hop, h _ (Nat.le_refl _),
      collapse_of_fits hf]

/-- A closing parenthesis is consumed behind an expression in parentheses. -/
theorem Holds.step_close {tree : Expr} {pending : List Pending} {state : ReaderState}
    {closing : Token} (h : state.Holds Nonterminal.expression.rank tree (.group :: pending))
    (hclose : closing.kind = .rightParen) :
    state.step closing = .consume (.hasOperand (.grouping tree) pending) := by
  cases state with
  | needsOperand => exact h.elim
  | hasOperand operand inner =>
    simp only [step, TokenKind.rank?, h 0 (Nat.zero_le _), collapse, hclose, if_true]

/-- The tree is accepted at any token other than an infix operator. -/
theorem Holds.step_accept {tree : Expr} {state : ReaderState} {token : Token}
    (h : state.Holds Nonterminal.expression.rank tree []) (hrank : token.kind.rank? = none) :
    state.step token = .accept tree := by
  cases state with
  | needsOperand => exact h.elim
  | hasOperand operand inner =>
    simp only [step, hrank, h 0 (Nat.zero_le _), collapse]

end ReaderState

open ReaderState (Consumes Holds)

/-- The reader consumes the links of a chain, and holds the whole chain behind them. -/
theorem holds_links {level : InfixLevel} {pending : List Pending} (hf : Fits level.rank pending)
    {links : List Link} (hops : ∀ link ∈ links, link.op.kind ∈ level.operators)
    (hread : ∀ link ∈ links, ∀ inner, Fits level.operand.rank inner →
      ∃ last, Consumes (.needsOperand inner) link.tokens last ∧
        last.Holds level.operand.rank link.operand inner)
    {first : Expr} {state : ReaderState} (h : state.Holds level.rank first pending) :
    ∃ last, Consumes state (Link.spelling links) last ∧
      last.Holds level.rank (Link.fold first links) pending := by
  induction links generalizing first state with
  | nil => exact ⟨state, .refl state, h⟩
  | cons link links ih =>
    obtain ⟨hop, hops⟩ := List.forall_mem_cons.mp hops
    obtain ⟨hlink, hlinks⟩ := List.forall_mem_cons.mp hread
    obtain ⟨middle, hrun, hmiddle⟩ :=
      hlink (.binary first link.op level.rank :: pending) (by simp [Fits])
    -- the chain so far becomes the left operand of the link
    have hbinary : middle.Holds level.rank (.binary first link.op link.operand) pending := by
      cases middle with
      | needsOperand => exact hmiddle.elim
      | hasOperand operand inner =>
        intro r hr
        rw [hmiddle r (Nat.le_trans hr (by simp)), collapse, if_pos hr]
    obtain ⟨last, hrest, hlast⟩ := ih hops hlinks hbinary
    refine ⟨last, ?_, hlast⟩
    rw [Link.spelling_cons]
    exact .step (h.step_op hf hop) (hrun.trans hrest)

/-- **The reader consumes what the grammar derives**, behind any pending constructs that the
nonterminal fits, and then holds the tree. -/
theorem Derives.holds {n : Nonterminal} {tokens : List Token} {tree : Expr}
    (h : Derives n tokens tree) (pending : List Pending) (hf : Fits n.rank pending) :
    ∃ last, Consumes (.needsOperand pending) tokens last ∧ last.Holds n.rank tree pending := by
  induction h generalizing pending with
  | expression _ ih => exact ih pending hf
  | @chain level tokens first links _ hops _ ih ihlinks =>
    obtain ⟨middle, hrun, hmiddle⟩ := ih pending (hf.mono (by simp))
    obtain ⟨last, hrest, hlast⟩ :=
      holds_links hf hops ihlinks (hmiddle.mono (by simp))
    exact ⟨last, hrun.trans hrest, hlast⟩
  | @unary op tokens operand hop _ ih =>
    obtain ⟨last, hrun, hlast⟩ := ih (.unary op :: pending) (Nat.le_refl _)
    refine ⟨last, .step (by simp [ReaderState.step, isPrefixOp_iff.mpr hop]) hrun, ?_⟩
    -- the prefix operator takes its operand at every rank
    cases last with
    | needsOperand => exact hlast.elim
    | hasOperand operand inner => exact fun r hr => (hlast r hr).trans rfl
  | primary _ ih =>
    obtain ⟨last, hrun, hlast⟩ := ih pending (hf.mono (by decide))
    exact ⟨last, hrun, hlast.mono (by decide)⟩
  | number hkind | string hkind | true hkind | false hkind | nil hkind =>
    refine ⟨.hasOperand (.literal _) pending, .single ?_, fun _ _ => rfl⟩
    exact ReaderState.step_operand (by simp [Token.operand?, hkind]) pending
  | @group opening tokens tree closing hopen _ hclose ih =>
    -- nothing in parentheses takes part in what is pending outside of them
    obtain ⟨last, hrun, hlast⟩ := ih (.group :: pending) trivial
    have hstart : (ReaderState.needsOperand pending).step opening =
        .consume (.needsOperand (.group :: pending)) := by
      simp [ReaderState.step, hopen, TokenKind.isPrefixOp]
    exact ⟨_, .step hstart (hrun.trans (.single (hlast.step_close hclose))), fun _ _ => rfl⟩

/-! ## Accepted trees -/

/-- **A reading accepts the longest expression that its tokens start with**: the tokens consumed
derive the tree, and no infix operator follows. -/
theorem ReaderState.read_start_eq_accepted_iff {tokens : List Token} {count : Nat} {tree : Expr} :
    ReaderState.start.read tokens = (count, .accepted tree) ↔
      Derives .expression (tokens.take count) tree ∧
        ∃ next, tokens[count]? = some next ∧ next.kind ∉ infixOperators := by
  rw [read_eq_iff (by simp)]
  constructor
  · rintro ⟨last, next, hrun, hnext, hstop⟩
    have hspells : Spells last (tokens.take count) := spells_start.consumes hrun
    obtain ⟨htree, hrank⟩ := hspells.accepts (ReaderStep.reading?_eq_accepted_iff.mp hstop)
    exact ⟨htree, next, hnext, rank?_eq_none_iff.mp hrank⟩
  · rintro ⟨htree, next, hnext, hop⟩
    obtain ⟨last, hrun, hlast⟩ := htree.holds [] trivial
    have haccept := hlast.step_accept (rank?_eq_none_iff.mpr hop)
    exact ⟨last, next, hrun, hnext, ReaderStep.reading?_eq_accepted_iff.mpr haccept⟩

/-- Before the end of the text, a reading accepts the tree that the tokens derive. -/
theorem read_of_derives {tokens : List Token} {tree : Expr} (h : Derives .expression tokens tree)
    (place : Location) :
    ReaderState.start.read (tokens ++ [.endOfText place]) = (tokens.length, .accepted tree) := by
  have heof : TokenKind.eof ∉ infixOperators := by decide
  refine ReaderState.read_start_eq_accepted_iff.mpr ⟨by simpa using h, ?_⟩
  exact ⟨.endOfText place, by simp, heof⟩

/-- The parser returns the tree that the tokens before the end of the text derive. -/
theorem parseTokens_of_derives {tokens : List Token} {tree : Expr}
    (h : Derives .expression tokens tree) (place : Location) :
    parseTokens (tokens ++ [.endOfText place]) =
      .ok (some tree, { tokens := tokens ++ [.endOfText place], position := tokens.length }) := by
  have hends : EndsInEof (tokens ++ [.endOfText place]) := ⟨.endOfText place, by simp, rfl⟩
  exact (parseTokens_eq_some_iff hends).mpr ⟨_, read_of_derives h place, rfl⟩

/-- What the parser returns is derived from the tokens it has passed. -/
theorem derives_of_parseTokens {tokens : List Token} {tree : Expr} {parser : Parser}
    (hends : EndsInEof tokens) (h : parseTokens tokens = .ok (some tree, parser)) :
    Derives .expression (tokens.take parser.position) tree := by
  obtain ⟨count, hread, rfl⟩ := (parseTokens_eq_some_iff hends).mp h
  exact (ReaderState.read_start_eq_accepted_iff.mp hread).1

/-- No tokens have two trees. -/
theorem Derives.tree_unique {tokens : List Token} {tree tree' : Expr}
    (h : Derives .expression tokens tree) (h' : Derives .expression tokens tree') :
    tree = tree' := by
  -- both are what the reader accepts in front of the end of the text
  have heq := (read_of_derives h (.start none)).symm.trans (read_of_derives h' (.start none))
  simpa using heq

/-- **The parser accepts exactly its grammar.** On tokens that end in the end of the text, a parser
returns a tree and stands at `count` if and only if the tokens before `count` derive the tree and
no infix operator stands at `count`. The grammar is unambiguous. -/
theorem parse_returns_iff :
    (∀ (tokens : List Token) (tree : Expr) (count : Nat), EndsInEof tokens →
      ((∃ parser, parseTokens tokens = .ok (some tree, parser) ∧ parser.position = count) ↔
        Derives .expression (tokens.take count) tree ∧
          ∃ next, tokens[count]? = some next ∧ next.kind ∉ infixOperators)) ∧
    ∀ (tokens : List Token) (tree tree' : Expr),
      Derives .expression tokens tree → Derives .expression tokens tree' → tree = tree' := by
  refine ⟨fun tokens tree count heof => ?_, fun _ _ _ => Derives.tree_unique⟩
  have hpos : 0 < tokens.length := by
    obtain ⟨last, hlast, -⟩ := heof
    exact List.length_pos_of_mem (List.mem_of_mem_getLast? hlast)
  -- the tokens end in the end of the text, so that the parser answers as its reader does
  have hparse : parseTokens tokens =
      .ok (({ tokens := tokens } : Parser).afterReading (ReaderState.start.read tokens)) :=
    Parser.parse_eq_afterReading heof hpos
  rw [← ReaderState.read_start_eq_accepted_iff, hparse]
  constructor
  · rintro ⟨parser, hreturn, rfl⟩
    rcases hread : ReaderState.start.read tokens with ⟨count, tree | ⟨fault, token⟩ | last⟩ <;>
      rw [hread] at hreturn <;> cases hreturn
    simp
  · intro hread
    exact ⟨_, by rw [hread]; rfl, by simp⟩

/-- `- 1 - 2 * 3 ;` is read up to the semicolon: the prefix operator applies to the first number
only, and the product is one operand of the difference. The six tokens have no other tree. -/
theorem parse_returns_iff_difference :
    let place := Location.start none
    let op (kind : TokenKind) : Token := { kind := kind, location := place }
    let number (x : Float) : Token := { kind := .number, literal := .number x, location := place }
    let tokens := [op .minus, number 1, op .minus, number 2, op .star, number 3, op .semicolon,
      .endOfText place]
    let tree := Expr.binary (.unary (op .minus) (.literal (.number 1))) (op .minus)
      (.binary (.literal (.number 2)) (op .star) (.literal (.number 3)))
    EndsInEof tokens ∧ (∃ parser, parseTokens tokens = .ok (some tree, parser) ∧
      parser.position = 6) ∧ Derives .expression (tokens.take 6) tree ∧
      ∀ other, Derives .expression (tokens.take 6) other → other = tree := by
  intro place op number tokens tree
  have heof : EndsInEof tokens := ⟨.endOfText place, rfl, rfl⟩
  have hreturn : ∃ parser, parseTokens tokens = .ok (some tree, parser) ∧ parser.position = 6 :=
    ⟨_, rfl, rfl⟩
  have htree := ((parse_returns_iff.1 tokens tree 6 heof).mp hreturn).1
  exact ⟨heof, hreturn, htree, fun other h => parse_returns_iff.2 _ _ _ h htree⟩

end Lox
