import Lox.CommandLine.Program
import Lox.Editor.CommandLine
import Lox.Main
import Lox.Token.Scanner
import Lox.Proofs.CommandLine.Matching
import Lox.Proofs.CommandLine.Stages
import Lox.Proofs.Decimal.Zeros
import Lox.Proofs.Diagnostic.Snippet
import Lox.Proofs.Editor.History
import Lox.Proofs.Editor.Session
import Lox.Proofs.Editor.Underline
import Lox.Proofs.Expr.Agreement
import Lox.Proofs.Expr.Failing
import Lox.Proofs.Expr.Kinds
import Lox.Proofs.Expr.Regrouping
import Lox.Proofs.Expr.Rules
import Lox.Proofs.Grammar.Acceptance
import Lox.Proofs.Grammar.Calls
import Lox.Proofs.Grammar.Soundness
import Lox.Proofs.Grammar.ViablePrefix
import Lox.Proofs.Run.Ending
import Lox.Proofs.Run.Layout
import Lox.Proofs.Run.Marking
import Lox.Proofs.Run.Quotation
import Lox.Proofs.Run.RoundTrip
import Lox.Proofs.Run.Shapes
import Lox.Proofs.Text.Breaks
import Lox.Proofs.Token.HeadLexeme
import Lox.Proofs.Token.Layout
import Lox.Proofs.Token.Munch
import Lox.Proofs.Token.Place
import Lox.Proofs.Token.Position
import Lox.Proofs.Expr.Order
import Lox.Proofs.Prompt.Commands
import Lox.Proofs.Token.Continuation
import Lox.Proofs.Run.Margins
import Lox.Proofs.Prompt.Answers
import Lox.Proofs.Text.Offset
import Lox.Proofs.Token.Calls
import Lox.Proofs.Editor.Selection
import Lox.Proofs.Editor.Cursor
import Lox.Proofs.Diagnostic.Alignment
import Lox.Proofs.Expr.Parenthesized
import Lox.Proofs.Grammar.Boundary
import Lox.Proofs.Token.Respacing
import Lox.Proofs.Token.Truncation
import Lox.Proofs.Diagnostic.Decoration
import Lox.Proofs.Prompt.Conversation
import Lox.Proofs.Run.Concatenation
import Lox.Proofs.Diagnostic.Catalogue
