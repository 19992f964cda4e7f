import Lox.Outcome
import Lox.Proofs.Expr.Kinds
import Lox.Proofs.Grammar.Acceptance
import Lox.Proofs.Token.Munch

/-!
# How runs end

The scanner gives tokens that end in the end of the text, the parser makes trees of the language
from them, and the evaluation of such a tree has a value or fails at an operator. So no run gets
stuck: it ends in a failure of one of the three stages, or with a value.

## Main definitions

* `Course`: the runs of a text, by the stage that they end in

## Main results

* `endsInEof_of_tokensOf`: the tokens of a text end in the end of the text
* `Derives.exists_kinds`: the trees of the grammar have no foreign node
* `runTree_finished`, `runTree_failed`: the two ends of an evaluation
* `tokens_run`: a run keeps the tokens of its text
* `run_of_parse`: the run of a text that is scanned and parsed
* `run_course`: what a run has gone through, by the stage it ends in
* `run_ends`: a run ends in one of four ways
-/

namespace Lox

/-- The tokens of a text end in the end of the text. -/
theorem endsInEof_of_tokensOf {source : String} {file : Option String} {tokens : List Token}
    (h : tokensOf source file = .ok tokens) : EndsInEof tokens := by
  obtain ⟨pieces, -, rfl⟩ := exists_munch_of_tokensOf h
  exact ⟨.endOfText (.endOf file source.toList), by simp, rfl⟩

/-! ## Trees of the grammar -/

/-- A chain of trees without a foreign node has none. -/
theorem Link.exists_kinds_fold {links : List Link} {first : Expr}
    (hfirst : ∃ kinds, first.kinds? = some kinds)
    (hlinks : ∀ link ∈ links, ∃ kinds, link.operand.kinds? = some kinds) :
    ∃ kinds, (Link.fold first links).kinds? = some kinds := by
  induction links generalizing first with
  | nil => exact hfirst
  | cons link links ih =>
    obtain ⟨⟨right, hright⟩, hlinks⟩ := List.forall_mem_cons.mp hlinks
    obtain ⟨left, hleft⟩ := hfirst
    rw [Link.fold_cons]
    apply ih _ hlinks
    exact ⟨.binary left link.op right, by rw [Expr.kinds?, hleft, hright]; rfl⟩

/-- **The trees of the grammar have no foreign node.** -/
theorem Derives.exists_kinds {n : Nonterminal} {tokens : List Token} {tree : Expr}
    (h : Derives n tokens tree) : ∃ kinds, tree.kinds? = some kinds := by
  induction h with
  | expression _ ih => exact ih
  | chain links _ _ _ ih ihlinks => exact Link.exists_kinds_fold ih ihlinks
  | @unary op _ _ _ _ ih =>
    obtain ⟨kinds, hkinds⟩ := ih
    exact ⟨.unary op kinds, by rw [Expr.kinds?, hkinds]; rfl⟩
  | primary _ ih => exact ih
  | number | string | true | false | nil => exact ⟨_, rfl⟩
  | group _ _ _ ih =>
    obtain ⟨kinds, hkinds⟩ := ih
    exact ⟨.grouping kinds, by rw [Expr.kinds?, hkinds]; rfl⟩

/-- The evaluation of a tree of the language has a value, or fails at an operator. -/
theorem Expr.evaluate_cases {tree : Expr} (h : ∃ kinds, tree.kinds? = some kinds) :
    (∃ v, tree.evaluate.result = .ok v) ∨
      ∃ cause op, tree.evaluate.result = .error (.fault cause op) := by
  obtain ⟨kinds, hkinds⟩ := h
  obtain ⟨-, hend⟩ := KindTree.check_holdsOf hkinds
  cases hending : kinds.check.ending with
  | value kind =>
    rw [hending] at hend
    obtain ⟨v, hv, -⟩ := hend
    exact .inl ⟨v, hv⟩
  | fails path cause op =>
    rw [hending] at hend
    exact .inr ⟨cause, op, hend.1⟩

/-! ## The run -/

theorem runTree_finished {tree : Expr} {v : Value} (h : tree.evaluate.result = .ok v)
    (file : Option String) (tokens : List Token) :
    (runTree file tokens tree).outcome = .finished tokens tree v := by
  simp only [runTree, h]

theorem runTree_failed {tree : Expr} {cause : EvalFault} {op : Token}
    (h : tree.evaluate.result = .error (.fault cause op)) (file : Option String)
    (tokens : List Token) :
    (runTree file tokens tree).outcome = .evaluationFailed tokens tree cause op := by
  simp only [runTree, h]

/-- **A run keeps the tokens of its text**, however it ends. -/
theorem tokens_run {source : String} {file : Option String} {tokens : List Token}
    (hscan : tokensOf source file = .ok tokens) : (run source file).outcome.tokens = tokens := by
  rw [run, hscan]
  show (runTokens file tokens).outcome.tokens = tokens
  rw [runTokens]
  split
  · rw [runTree]
    split <;> rfl
  · rfl
  · rfl

/-- A text that is scanned and parsed ends as the evaluation of its tree does. -/
theorem run_of_parse {source : String} {file : Option String} {tokens : List Token} {tree : Expr}
    {parser : Parser} (hscan : tokensOf source file = .ok tokens)
    (hparse : parseTokens tokens = .ok (some tree, parser)) :
    run source file = runTree file tokens tree := by
  rw [run, hscan]
  simp only [runTokens, hparse]

/-- **The course of a run**: the text is not scanned, or its tokens are not parsed and the parser
stands at the token of its error, or it is parsed and its tree is evaluated. -/
inductive Course (source : String) (file : Option String) : Run → Prop
  | unscanned {error} :
      tokensOf source file = .error error →
      Course source file ⟨.scanFailed error, [], [.scanFailed error]⟩
  | unparsed {tokens parser error} :
      tokensOf source file = .ok tokens → EndsInEof tokens →
      parseTokens tokens = .ok (none, parser) → parser.errors = [error] →
      tokens[parser.position]? = some error.token →
      Course source file
        ⟨.parseFailed tokens error, [], [.scanned tokens file, .parseError error]⟩
  | parsed {tokens parser tree} :
      tokensOf source file = .ok tokens → EndsInEof tokens →
      parseTokens tokens = .ok (some tree, parser) →
      Derives .expression (tokens.take parser.position) tree →
      Course source file (runTree file tokens tree)

/-- **Every run takes its course.** -/
theorem run_course (source : String) (file : Option String) :
    Course source file (run source file) := by
  cases hscan : tokensOf source file with
  | error error =>
    rw [run, hscan]
    exact .unscanned hscan
  | ok tokens =>
    have hends := endsInEof_of_tokensOf hscan
    obtain ⟨count, tree, hread⟩ | ⟨count, fault, token, hread⟩ := hends.read_cases .start
    · have hparse := (parseTokens_eq_some_iff hends).mpr ⟨count, hread, rfl⟩
      rw [run_of_parse hscan hparse]
      exact .parsed hscan hends hparse (derives_of_parseTokens hends hparse)
    · have hparse := (parseTokens_eq_none_iff hends).mpr ⟨count, fault, token, hread, rfl⟩
      have hrun : run source file =
          ⟨.parseFailed tokens ⟨fault, token⟩, [],
            [.scanned tokens file, .parseError ⟨fault, token⟩]⟩ := by
        rw [run, hscan]
        simp only [runTokens, hparse]
      rw [hrun]
      exact .unparsed hscan hends hparse rfl (ReaderState.getElem?_of_read_rejected hread)

/-- **A run ends in one of four ways**: with a fault of the scanner, with an error of the parser,
with a fault of an operator, or with a value. -/
theorem run_ends (source : String) (file : Option String) :
    (∃ error, (run source file).outcome = .scanFailed error) ∨
      (∃ tokens error, (run source file).outcome = .parseFailed tokens error) ∨
      (∃ tokens tree cause op,
        (run source file).outcome = .evaluationFailed tokens tree cause op) ∨
      ∃ tokens tree v, (run source file).outcome = .finished tokens tree v := by
  have hcourse := run_course source file
  generalize run source file = result at hcourse ⊢
  cases hcourse with
  | unscanned => exact .inl ⟨_, rfl⟩
  | unparsed => exact .inr (.inl ⟨_, _, rfl⟩)
  | @parsed tokens _ tree _ _ _ htree =>
    -- the tree is one of the grammar, and so its evaluation ends well
    right; right
    obtain ⟨v, hv⟩ | ⟨cause, op, hfault⟩ := Expr.evaluate_cases htree.exists_kinds
    · exact .inr ⟨tokens, tree, v, runTree_finished hv file tokens⟩
    · exact .inl ⟨tokens, tree, cause, op, runTree_failed hfault file tokens⟩

end Lox
