import Lox.Proofs.Expr.Rules
import Lox.Proofs.Run.Ending
import Lox.Proofs.Token.Bounded
import Mathlib.Logic.ExistsUnique

/-!
# What a run leaves

Every run comes to an end, and what it leaves then depends on the stage that failed. A failed scan
leaves nothing but its error. When an expression cannot be read the tokens are kept, up to the end of
the text, and when the evaluation fails the tree is kept as well. A value, with its text, is there
only if no stage failed. No index or operand is ever missing on the way: a parser that returns no
tree has an error to report, and an operation is carried out only on values it is defined for.

The trees that are read hold no operator without a rule. The log of a run has no warning, therefore,
and the value nil comes only from nil itself.

## Main definitions

* `Outcome.ScanFailure`, `Outcome.ParseFailure`, `Outcome.RuntimeFailure`, `Outcome.Success`: the
  shapes of an outcome
* `Outcome.HasShape`: the shape that belongs to a stage

## Main results

* `run_has_one_shape`: an outcome has exactly one of the four shapes
* `run_without_warning`: no operator of a program lacks a rule
-/

namespace Lox

/-! ## The four shapes -/

namespace Outcome

variable (source : String) (file : Option String) (outcome : Outcome)

/-- The outcome has no value, and no text to display. -/
structure HasNoValue : Prop where
  value : outcome.value? = none
  display : outcome.display? = none

/-- The outcome holds all tokens of the text, and these end in the end of the text. -/
structure KeepsTokens : Prop where
  tokens : tokensOf source file = .ok outcome.tokens
  ends : EndsInEof outcome.tokens

/-- **The scan failed**: its error is all that is left. -/
structure ScanFailure : Prop extends outcome.HasNoValue where
  failure : ∃ error, tokensOf source file = .error error ∧ outcome.failure? = some error.failure
  tokens : outcome.tokens = []
  tree : outcome.tree? = none

/-- **No expression could be read**: the tokens are left, and the one error of the parser. -/
structure ParseFailure : Prop extends outcome.HasNoValue, outcome.KeepsTokens source file where
  failure : ∃ parser error, parseTokens outcome.tokens = .ok (none, parser) ∧
    parser.errors = [error] ∧ outcome.failure? = some error.failure
  tree : outcome.tree? = none

/-- **The evaluation failed**: tokens and tree are left, and the fault of an operator. -/
structure RuntimeFailure : Prop extends outcome.HasNoValue, outcome.KeepsTokens source file where
  failure : ∃ parser tree cause op, parseTokens outcome.tokens = .ok (some tree, parser) ∧
    outcome.tree? = some tree ∧ tree.evaluate.result = .error (.fault cause op) ∧
    outcome.failure? = some (.runtime cause.message op)

/-- **No stage failed**: tokens, tree, value and the text of the value are left. -/
structure Success : Prop extends outcome.KeepsTokens source file where
  value : ∃ parser tree v, parseTokens outcome.tokens = .ok (some tree, parser) ∧
    outcome.tree? = some tree ∧ tree.evaluate.result = .ok v ∧ outcome.value? = some v ∧
    outcome.display? = some v.display
  failure : outcome.failure? = none

/-- The shape of an outcome by the stage that failed, if any did. -/
def HasShape : Option Stage → Prop
  | some .scan => outcome.ScanFailure source file
  | some .parse => outcome.ParseFailure source file
  | some .runtime => outcome.RuntimeFailure source file
  | none => outcome.Success source file

variable {source file outcome}

/-- The shape tells the stage of the failure. -/
theorem HasShape.stage_eq {failed : Option Stage} (h : outcome.HasShape source file failed) :
    failed = outcome.failure?.map Failure.stage := by
  rcases failed with _ | (_ | _ | _)
  · rw [h.failure]
    rfl
  · obtain ⟨error, -, hfailure⟩ := h.failure
    rw [hfailure]
    rfl
  · obtain ⟨parser, error, -, -, hfailure⟩ := h.failure
    rw [hfailure]
    rfl
  · obtain ⟨parser, tree, cause, op, -, -, -, hfailure⟩ := h.failure
    rw [hfailure]
    rfl

/-- An outcome has no more than one shape. -/
theorem HasShape.existsUnique {failed : Option Stage} (h : outcome.HasShape source file failed) :
    ∃! failed, outcome.HasShape source file failed :=
  ⟨failed, h, fun _ h' => h'.stage_eq.trans h.stage_eq.symm⟩

end Outcome

/-! ## The shape of a run -/

theorem runTree_trace (file : Option String) (tokens : List Token) (tree : Expr) :
    (runTree file tokens tree).trace = tree.evaluate.trace := by
  simp only [runTree]
  split <;> rfl

/-- **A run has exactly one of four shapes**, and the operations that it carries out are defined for
the values of their operands. -/
theorem run_has_one_shape (source : String) (file : Option String) :
    (∃! failed, (run source file).outcome.HasShape source file failed) ∧
      ∀ completion ∈ (run source file).trace, completion.node.WellApplied := by
  have hcourse := run_course source file
  generalize run source file = result at hcourse ⊢
  cases hcourse with
  | @unscanned error hscan =>
    have hshape : (Outcome.scanFailed error).HasShape source file (some .scan) :=
      Outcome.ScanFailure.mk ⟨rfl, rfl⟩ ⟨error, hscan, rfl⟩ rfl rfl
    exact ⟨hshape.existsUnique, nofun⟩
  | @unparsed tokens parser error hscan hends hparse herrors _ =>
    have hshape : (Outcome.parseFailed tokens error).HasShape source file (some .parse) :=
      Outcome.ParseFailure.mk ⟨rfl, rfl⟩ ⟨hscan, hends⟩ ⟨parser, error, hparse, herrors, rfl⟩ rfl
    exact ⟨hshape.existsUnique, nofun⟩
  | @parsed tokens parser tree hscan hends hparse htree =>
    constructor
    · obtain ⟨v, hv⟩ | ⟨cause, op, hfault⟩ := Expr.evaluate_cases htree.exists_kinds
      · have hshape : (Outcome.finished tokens tree v).HasShape source file none :=
          Outcome.Success.mk ⟨hscan, hends⟩ ⟨parser, tree, v, hparse, rfl, hv, rfl, rfl⟩ rfl
        rw [runTree_finished hv]
        exact hshape.existsUnique
      · have hshape : (Outcome.evaluationFailed tokens tree cause op).HasShape source file
            (some .runtime) :=
          Outcome.RuntimeFailure.mk ⟨rfl, rfl⟩ ⟨hscan, hends⟩
            ⟨parser, tree, cause, op, hparse, rfl, hfault, rfl⟩
        rw [runTree_failed hfault]
        exact hshape.existsUnique
    · rw [runTree_trace]
      exact htree.builtFrom.isRuled.isClean.applied

/-- `!(nil) + 1` is rejected at its plus sign. The negation before it was carried out. -/
theorem run_has_one_shape_rejected_sum :
    let negation := Expr.unary (.ofLexeme .bang ['!'] ⟨1, 1, 0, none⟩) (.grouping (.literal .nil))
    (run "!(nil) + 1" none).outcome.HasShape "!(nil) + 1" none (some .runtime) ∧
      ⟨negation, .bool true⟩ ∈ (run "!(nil) + 1" none).trace ∧ negation.WellApplied := by
  intro negation
  have hscan : tokensOf "!(nil) + 1" none =
      .ok [.ofLexeme .bang ['!'] ⟨1, 1, 0, none⟩, .ofLexeme .leftParen ['('] ⟨1, 2, 1, none⟩,
        .ofLexeme .kwNil ['n', 'i', 'l'] ⟨1, 3, 2, none⟩,
        .ofLexeme .rightParen [')'] ⟨1, 6, 5, none⟩, .ofLexeme .plus ['+'] ⟨1, 8, 7, none⟩,
        .ofLexeme .number ['1'] ⟨1, 10, 9, none⟩, .endOfText ⟨1, 11, 10, none⟩] :=
    tokensOf_eq_scanWithin _ _
  have hrun : run "!(nil) + 1" none = runTree none _
      (.binary negation (.ofLexeme .plus ['+'] ⟨1, 8, 7, none⟩)
        (.literal (.number (Decimal.readPlain ['1'])))) := run_of_parse hscan rfl
  obtain ⟨⟨failed, hshape, -⟩, happlied⟩ := run_has_one_shape "!(nil) + 1" none
  have hfailed : failed = some .runtime := by
    rw [hshape.stage_eq, hrun]
    rfl
  have hdone : ⟨negation, .bool true⟩ ∈ (run "!(nil) + 1" none).trace := by
    rw [hrun, runTree_trace]
    exact .tail _ (.tail _ (.tail _ (.head _)))
  exact ⟨hfailed ▸ hshape, hdone, happlied _ hdone⟩

/-! ## Programs without warnings -/

/-- The log of a run has a warning only if the evaluation gives one. -/
theorem runTree_log_unwarned {tree : Expr} (h : tree.evaluate.warnings = []) (file : Option String)
    (tokens : List Token) : ∀ entry ∈ (runTree file tokens tree).log, entry.level = .debug := by
  simp only [runTree, h, List.map_nil]
  split <;> simp [LogEntry.scanned, LogEntry.evaluated, LogEntry.evaluationFailed]

/-- **No operator of a program lacks a rule.** The evaluation of a text that is scanned and parsed
gives no warning, and none gets into the log; and the run ends with the value nil exactly if the
program is nil, in any number of parentheses. -/
theorem run_without_warning {source : String} {file : Option String} {tokens : List Token}
    {tree : Expr} {parser : Parser} (hscan : tokensOf source file = .ok tokens)
    (hparse : parseTokens tokens = .ok (some tree, parser)) :
    tree.evaluate.warnings = [] ∧
      (∀ entry ∈ (run source file).log, entry.level ≠ .warning) ∧
      ((run source file).outcome = .finished tokens tree .nil ↔ tree.IsNil) := by
  have htree := derives_of_parseTokens (endsInEof_of_tokensOf hscan) hparse
  have hruled : tree.IsRuled := htree.builtFrom.isRuled
  have hunwarned := hruled.isClean.unwarned
  rw [run_of_parse hscan hparse, ← hruled.result_eq_nil_iff]
  refine ⟨hunwarned, fun entry hentry => ?_, fun h => ?_, fun h => ?_⟩
  · rw [runTree_log_unwarned hunwarned file tokens entry hentry]
    decide
  · obtain ⟨v, hv⟩ | ⟨cause, op, hfault⟩ := Expr.evaluate_cases htree.exists_kinds
    · rw [runTree_finished hv] at h
      cases h
      exact hv
    · rw [runTree_failed hfault] at h
      cases h
  · exact runTree_finished h file tokens

/-- Nil in two pairs of parentheses. -/
theorem run_without_warning_nil :
    let tree := Expr.grouping (.grouping (.literal .nil))
    ∃ tokens parser,
      tokensOf "((nil))" none = .ok tokens ∧ parseTokens tokens = .ok (some tree, parser) ∧
        (∀ entry ∈ (run "((nil))" none).log, entry.level ≠ .warning) ∧
        (run "((nil))" none).outcome = .finished tokens tree .nil := by
  intro tree
  have hscan : tokensOf "((nil))" none =
      .ok [.ofLexeme .leftParen ['('] ⟨1, 1, 0, none⟩, .ofLexeme .leftParen ['('] ⟨1, 2, 1, none⟩,
        .ofLexeme .kwNil ['n', 'i', 'l'] ⟨1, 3, 2, none⟩,
        .ofLexeme .rightParen [')'] ⟨1, 6, 5, none⟩, .ofLexeme .rightParen [')'] ⟨1, 7, 6, none⟩,
        .endOfText ⟨1, 8, 7, none⟩] :=
    tokensOf_eq_scanWithin _ _
  refine ⟨_, _, hscan, rfl, ?_⟩
  obtain ⟨-, hlog, hvalue⟩ := run_without_warning hscan rfl
  exact ⟨hlog, hvalue.mpr (.grouping (.grouping .literal))⟩

end Lox
