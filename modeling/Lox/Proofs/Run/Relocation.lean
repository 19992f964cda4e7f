import Lox.Outcome

/-!
# Moving tokens to other locations

No stage behind the scanner asks where a token stands. When the tokens of a program are moved, by
any map of their locations, the program is read, parsed and evaluated as before, and what each stage
returns is moved by the same map.

## Main definitions

* `Token.relocate`, `Expr.relocate`, and so on: a value with its locations mapped
* `Outcome.relocate`: an outcome with its locations mapped

## Main results

* `ReaderState.step_relocate`: one step of the reader
* `Parser.parse_relocate`: the parser
* `Expr.evaluate_relocate`: the evaluation
* `runTokens_relocate`: the run of a program whose tokens are known
-/

namespace Lox

variable (f : Location → Location)

/-! ## Tokens and trees -/

/-- The token at another location. -/
def Token.relocate (token : Token) : Token :=
  { token with location := f token.location }

namespace Token

variable (token : Token)

@[simp] theorem relocate_kind : (token.relocate f).kind = token.kind := rfl

@[simp] theorem relocate_lexeme : (token.relocate f).lexeme = token.lexeme := rfl

@[simp] theorem relocate_literal : (token.relocate f).literal = token.literal := rfl

@[simp] theorem relocate_operand? : (token.relocate f).operand? = token.operand? := rfl

@[simp] theorem relocate_isKept : (token.relocate f).isKept = token.isKept := rfl

@[simp] theorem relocate_placeText : (token.relocate f).placeText = token.placeText := rfl

end Token

/-- The tree with its operators at other locations. -/
def Expr.relocate : Expr → Expr
  | literal value => literal value
  | grouping inner => grouping inner.relocate
  | unary op operand => unary (op.relocate f) operand.relocate
  | binary left op right => binary left.relocate (op.relocate f) right.relocate
  | foreign form => foreign form

/-! ## The reader -/

/-- The construct with its operator at another location. -/
def Pending.relocate : Pending → Pending
  | unary op => unary (op.relocate f)
  | binary left op rank => binary (left.relocate f) (op.relocate f) rank
  | group => group

/-- The state with its operators at other locations. -/
def ReaderState.relocate : ReaderState → ReaderState
  | needsOperand pending => needsOperand (pending.map (Pending.relocate f))
  | hasOperand operand pending =>
    hasOperand (operand.relocate f) (pending.map (Pending.relocate f))

/-- The step with its operators at other locations. -/
def ReaderStep.relocate : ReaderStep → ReaderStep
  | consume next => consume (next.relocate f)
  | accept tree => accept (tree.relocate f)
  | reject fault => reject fault

/-- The reading with its tokens at other locations. -/
def Reading.relocate : Reading → Reading
  | accepted tree => accepted (tree.relocate f)
  | rejected fault token => rejected fault (token.relocate f)
  | unfinished state => unfinished (state.relocate f)

theorem collapse_relocate (rank : Nat) (operand : Expr) (pending : List Pending) :
    collapse rank (operand.relocate f) (pending.map (Pending.relocate f)) =
      ((collapse rank operand pending).1.relocate f,
        (collapse rank operand pending).2.map (Pending.relocate f)) := by
  induction pending generalizing operand with
  | nil => rfl
  | cons construct rest ih =>
    cases construct with
    | unary op => exact ih (.unary op operand)
    | binary left op own =>
      simp only [List.map_cons, Pending.relocate, collapse]
      split
      · exact ih (.binary left op operand)
      · rfl
    | group => rfl

namespace ReaderState

/-- **A step of the reader does not ask for locations.** -/
theorem step_relocate (state : ReaderState) (token : Token) :
    (state.relocate f).step (token.relocate f) = (state.step token).relocate f := by
  cases state with
  | needsOperand pending =>
    by_cases hprefix : token.kind.isPrefixOp = true
    · simp [step, relocate, ReaderStep.relocate, Pending.relocate, hprefix]
    by_cases hparen : token.kind = .leftParen
    · simp [step, relocate, ReaderStep.relocate, Pending.relocate, TokenKind.isPrefixOp, hparen]
    simp only [step, relocate, Token.relocate_kind, Token.relocate_operand?, hprefix, hparen]
    cases token.operand? <;> rfl
  | hasOperand operand pending =>
    simp only [step, relocate, Token.relocate_kind, collapse_relocate]
    cases token.kind.rank? with
    | some rank => rfl
    | none =>
      rcases collapse 0 operand pending with ⟨tree, _ | ⟨_ | _ | _, rest⟩⟩
      · rfl
      · rfl
      · rfl
      · by_cases hparen : token.kind = .rightParen
        · simp [relocate, ReaderStep.relocate, Pending.relocate, Expr.relocate, hparen]
        · simp [ReaderStep.relocate, Pending.relocate, hparen]

theorem read_relocate (state : ReaderState) (tokens : List Token) :
    (state.relocate f).read (tokens.map (Token.relocate f)) =
      ((state.read tokens).1, (state.read tokens).2.relocate f) := by
  induction tokens generalizing state with
  | nil => rfl
  | cons token rest ih =>
    rw [List.map_cons, read, read, step_relocate]
    cases state.step token with
    | consume next => simp only [ReaderStep.relocate, ih]
    | accept tree => rfl
    | reject fault => rfl

theorem copies_relocate (state : ReaderState) : (state.relocate f).copies = state.copies := by
  cases state <;> simp [relocate, copies]

theorem readCopies_relocate (last : Token) (bound : Nat) (state : ReaderState) :
    (state.relocate f).readCopies (last.relocate f) bound =
      (state.readCopies last bound).map fun (count, reading) => (count, reading.relocate f) := by
  induction bound generalizing state with
  | zero => rfl
  | succ bound ih =>
    rw [readCopies, readCopies, step_relocate]
    cases state.step last with
    | consume next =>
      simp only [ReaderStep.relocate, Token.relocate_isKept, ih]
      split
      · rfl
      · cases next.readCopies last bound <;> rfl
    | accept tree => rfl
    | reject fault => rfl

end ReaderState

/-! ## The parser -/

/-- The error with its token at another location. -/
def ParseError.relocate (error : ParseError) : ParseError :=
  { error with token := error.token.relocate f }

/-- The parser with its tokens at other locations. -/
def Parser.relocate (parser : Parser) : Parser where
  tokens := parser.tokens.map (Token.relocate f)
  position := parser.position
  errors := parser.errors.map (ParseError.relocate f)

namespace Parser

variable (parser : Parser)

theorem read_relocate :
    (parser.relocate f).read =
      parser.read.map fun (count, reading) => (count, reading.relocate f) := by
  have hstart : ReaderState.start = ReaderState.start.relocate f := rfl
  simp only [read, relocate, ← List.map_drop, List.getLast?_map]
  rw [hstart, ReaderState.read_relocate, ← hstart]
  rcases ReaderState.start.read (parser.tokens.drop parser.position) with
    ⟨count, tree | ⟨fault, token⟩ | state⟩
  · rfl
  · rfl
  · cases parser.tokens.getLast? with
    | none => rfl
    | some last =>
      simp only [Reading.relocate, Option.map_some, ReaderState.copies_relocate,
        ReaderState.readCopies_relocate]
      cases state.readCopies last state.copies <;> rfl

/-- **The parser does not ask for locations.** -/
theorem parse_relocate :
    (parser.relocate f).parse =
      parser.parse.map fun (tree?, next) => (tree?.map (Expr.relocate f), next.relocate f) := by
  rw [parse, parse, read_relocate]
  rcases parser.read with error | ⟨count, tree | ⟨fault, token⟩ | state⟩
  · rfl
  · rfl
  · simp [Except.map, relocate, Reading.relocate, ParseError.relocate, bind, Except.bind, pure,
      Except.pure]
  · rfl

end Parser

/-! ## The evaluation -/

/-- The error with its operator at another location. -/
def EvalError.relocate : EvalError → EvalError
  | fault cause op => fault cause (op.relocate f)
  | foreign node => foreign node

/-- The completion with its operators at other locations. -/
def Completion.relocate (completion : Completion) : Completion :=
  { completion with node := completion.node.relocate f }

/-- The evaluation with its operators at other locations. -/
def Evaluation.relocate (evaluation : Evaluation) : Evaluation where
  trace := evaluation.trace.map (Completion.relocate f)
  warnings := evaluation.warnings
  result := evaluation.result.mapError (EvalError.relocate f)

namespace Evaluation

theorem andThen_relocate (first : Evaluation) (next next' : Value → Evaluation)
    (h : ∀ v, next' v = (next v).relocate f) :
    (first.relocate f).andThen next' = (first.andThen next).relocate f := by
  rcases first with ⟨trace, warnings, error | v⟩
  · rfl
  · show Evaluation.mk (trace.map _ ++ (next' v).trace) (warnings ++ (next' v).warnings)
      (next' v).result = _
    rw [h]
    simp only [andThen, relocate, List.map_append]

theorem ofRule_relocate (node : Expr) (op : Token) (warning : Warning)
    (rule : Except EvalFault (Option Value)) :
    ofRule (node.relocate f) (op.relocate f) warning rule =
      (ofRule node op warning rule).relocate f := by
  rcases rule with fault | _ | value <;> rfl

end Evaluation

/-- **The evaluation does not ask for locations.** -/
theorem Expr.evaluate_relocate (tree : Expr) :
    (tree.relocate f).evaluate = tree.evaluate.relocate f := by
  induction tree with
  | literal value => rfl
  | grouping inner ih =>
    rw [relocate, evaluate, evaluate, ih]
    exact Evaluation.andThen_relocate f _ _ _ fun _ => rfl
  | unary op operand ih =>
    rw [relocate, evaluate, evaluate, ih]
    exact Evaluation.andThen_relocate f _ _ _ fun v =>
      Evaluation.ofRule_relocate f (.unary op operand) op _ _
  | binary left op right ihl ihr =>
    rw [relocate, evaluate, evaluate, ihl, ihr]
    refine Evaluation.andThen_relocate f _ _ _ fun w => ?_
    refine Evaluation.andThen_relocate f _ _ _ fun v => ?_
    exact Evaluation.ofRule_relocate f (.binary left op right) op _ _
  | foreign form => rfl

/-! ## The run -/

/-- The outcome with its tokens at other locations. -/
def Outcome.relocate : Outcome → Outcome
  | scanFailed error => scanFailed { error with location := f error.location }
  | parseFailed tokens error => parseFailed (tokens.map (Token.relocate f)) (error.relocate f)
  | evaluationFailed tokens tree fault op =>
    evaluationFailed (tokens.map (Token.relocate f)) (tree.relocate f) fault (op.relocate f)
  | finished tokens tree value =>
    finished (tokens.map (Token.relocate f)) (tree.relocate f) value
  | stuck tokens => stuck (tokens.map (Token.relocate f))

theorem runTree_relocate (file : Option String) (tokens : List Token) (tree : Expr) :
    (runTree file (tokens.map (Token.relocate f)) (tree.relocate f)).outcome =
      (runTree file tokens tree).outcome.relocate f := by
  simp only [runTree, Expr.evaluate_relocate, Evaluation.relocate]
  rcases tree.evaluate.result with (⟨cause, op⟩ | node) | value <;> rfl

/-- **No stage behind the scanner asks for locations**: moved tokens have the moved outcome. -/
theorem runTokens_relocate (file : Option String) (tokens : List Token) :
    (runTokens file (tokens.map (Token.relocate f))).outcome =
      (runTokens file tokens).outcome.relocate f := by
  have hparse : parseTokens (tokens.map (Token.relocate f)) = _ :=
    Parser.parse_relocate f { tokens := tokens }
  rw [runTokens, runTokens, hparse]
  rw [parseTokens]
  rcases Parser.parse { tokens := tokens } with error | ⟨_ | tree, ⟨tokens', position, errors⟩⟩
  · rfl
  · cases errors <;> rfl
  · exact runTree_relocate f file tokens tree

end Lox
