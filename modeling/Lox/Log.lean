import Lox.Expr.Evaluation
import Lox.Grammar.Parser
import Lox.Token.Scan

/-!
# The log

What the stages of a program's run write to the log, and the entries of the log.

## Main definitions

* `LogLevel`, `LogEntry`: the entries
* `LogEntry.scanned` and the others: what each stage writes
-/

namespace Lox

/-- How urgent an entry is. -/
inductive LogLevel where
  | debug
  | info
  | warning
  | error
deriving DecidableEq, Repr

namespace LogLevel

/-- The name of a level in a log line. -/
def name : LogLevel → String
  | debug => "DEBUG"
  | info => "INFO"
  | warning => "WARNING"
  | error => "ERROR"

/-- The rank of a level among the others. -/
def rank : LogLevel → Nat
  | debug => 10
  | info => 20
  | warning => 30
  | error => 40

end LogLevel

/-- An entry of the log. -/
structure LogEntry where
  level : LogLevel
  logger : String
  message : String
deriving DecidableEq, Repr

namespace LogEntry

/-- The entry in one line. -/
def text (entry : LogEntry) : String :=
  s!"{entry.level.name} {entry.logger}: {entry.message}"

/-- Whether the entry is at least as urgent as `level`. -/
def reaches (level : LogLevel) (entry : LogEntry) : Bool :=
  level.rank ≤ entry.level.rank

/-- A text has been scanned. -/
def scanned (tokens : List Token) (file : Option String) : LogEntry where
  level := .debug
  logger := "loxpy.compiler.lexer"
  message := s!"Scanned {tokens.length} tokens from {Location.inputName file}"

/-- An expression could not be read. -/
def parseError (error : ParseError) : LogEntry where
  level := .debug
  logger := "loxpy.compiler.parser"
  message := s!"Parse error: {error.failure.report}"

/-- An operation has no rule. -/
def warned (warning : Warning) : LogEntry where
  level := .warning
  logger := "loxpy.compiler.interpreter"
  message := warning.message

/-- A run ended in its scan. -/
def scanFailed (error : ScanError) : LogEntry where
  level := .debug
  logger := "loxpy.compiler"
  message := s!"Scan failed: {error.failure.report}"

/-- A run ended in its evaluation. -/
def evaluationFailed (failure : Failure) : LogEntry where
  level := .debug
  logger := "loxpy.compiler"
  message := s!"Evaluation failed: {failure.report}"

/-- A run has a value. -/
def evaluated (value : Value) (file : Option String) : LogEntry where
  level := .debug
  logger := "loxpy.compiler"
  message := s!"Evaluated {Location.inputName file} to {value.display}"

end LogEntry

end Lox
