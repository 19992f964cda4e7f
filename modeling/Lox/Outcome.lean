import Lox.Log

/-!
# Outcomes

The outcome of a program: its text is scanned, parsed and evaluated, and the first failure ends the
run.

## Main definitions

* `Outcome`: how far a program gets, with all it has by then
* `Run`: an outcome, the trace of the evaluation and the log
* `run`: the run of a program
-/

namespace Lox

/-- How a run ends. The last form is for tokens that no scan gives. -/
inductive Outcome where
  | scanFailed (error : ScanError)
  | parseFailed (tokens : List Token) (error : ParseError)
  | evaluationFailed (tokens : List Token) (tree : Expr) (fault : EvalFault) (op : Token)
  | finished (tokens : List Token) (tree : Expr) (value : Value)
  | stuck (tokens : List Token)
deriving Repr

namespace Outcome

/-- The tokens of the program; a failed scan leaves none. -/
def tokens : Outcome → List Token
  | scanFailed _ => []
  | parseFailed tokens _ => tokens
  | evaluationFailed tokens .. => tokens
  | finished tokens .. => tokens
  | stuck tokens => tokens

/-- The tree of the program. -/
def tree? : Outcome → Option Expr
  | evaluationFailed _ tree .. => some tree
  | finished _ tree _ => some tree
  | _ => none

/-- The value of the program. -/
def value? : Outcome → Option Value
  | finished _ _ value => some value
  | _ => none

/-- The displayed value of the program. -/
def display? (outcome : Outcome) : Option String :=
  outcome.value?.map Value.display

/-- The failure that ended the run. -/
def failure? : Outcome → Option Failure
  | scanFailed error => some error.failure
  | parseFailed _ error => some error.failure
  | evaluationFailed _ _ fault op => some (.runtime fault.message op)
  | finished .. => none
  | stuck _ => none

end Outcome

/-- The run of a program. -/
structure Run where
  outcome : Outcome
  trace : List Completion
  log : List LogEntry

/-- The run of a program whose tokens and tree are known. -/
def runTree (file : Option String) (tokens : List Token) (tree : Expr) : Run :=
  let evaluation := tree.evaluate
  let log := .scanned tokens file :: evaluation.warnings.map .warned
  match evaluation.result with
  | .ok value => ⟨.finished tokens tree value, evaluation.trace, log ++ [.evaluated value file]⟩
  | .error (.fault fault op) =>
    ⟨.evaluationFailed tokens tree fault op, evaluation.trace,
      log ++ [.evaluationFailed (.runtime fault.message op)]⟩
  | .error (.foreign _) => ⟨.stuck tokens, evaluation.trace, log⟩

/-- The run of a program whose tokens are known. -/
def runTokens (file : Option String) (tokens : List Token) : Run :=
  match parseTokens tokens with
  | .ok (some tree, _) => runTree file tokens tree
  | .ok (none, { errors := error :: _, .. }) =>
    ⟨.parseFailed tokens error, [], [.scanned tokens file, .parseError error]⟩
  | _ => ⟨.stuck tokens, [], [.scanned tokens file]⟩

/-- The run of a program. -/
def run (source : String) (file : Option String) : Run :=
  match tokensOf source file with
  | .error error => ⟨.scanFailed error, [], [.scanFailed error]⟩
  | .ok tokens => runTokens file tokens

end Lox
