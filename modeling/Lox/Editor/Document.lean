import Lox.Editor.Range
import Lox.Outcome

/-!
# Documents

A document is a text in an editor. An analysis runs it as a program; it gives the markers of the
document and the information shown for the token at a position.

## Main definitions

* `Document`: a text and its last analysis
* `Document.analyze`: the analysis of the text
* `Document.tokenAt?`: the token at a position
* `Document.hover?`: the information about it
-/

namespace Lox

/-- A text with the outcome of its last analysis, if there was one. -/
structure Document where
  source : String
  uri : String
  outcome : Option Outcome := none
deriving Repr

/-- Information about a range, in Markdown. -/
structure Hover where
  text : String
  range : LineRange
deriving DecidableEq, Repr

namespace Document

/-- Run the text. -/
def analyze (document : Document) : Document :=
  { document with outcome := some (run document.source (some document.uri)).outcome }

/-- A document that has been analyzed. -/
def ofText (uri source : String) : Document :=
  analyze { source := source, uri := uri }

/-- Replace the text; the last analysis stays. -/
def setSource (document : Document) (source : String) : Document :=
  { document with source := source }

/-- The tokens of the last analysis. -/
def tokens (document : Document) : List Token :=
  (document.outcome.map Outcome.tokens).getD []

/-- The markers of the last analysis: at most one, since the first failure ends a run. -/
def markers (document : Document) : List Marker :=
  (document.outcome.bind Outcome.failure?).toList.map Failure.marker

/-- The first token whose range covers a position. -/
def tokenAt? (document : Document) (line character : Int) : Option Token :=
  document.tokens.find? fun token =>
    token.lexemeText ≠ "" && token.range.covers line character

/-- What an outcome adds to the information about a token: the tree and the value. -/
def outcomeParts (outcome : Outcome) : List String :=
  let tree := match outcome.tree?.map Expr.parenthesized with
    | some (.ok text) => ["```lox\n" ++ text ++ "\n```"]
    | _ => []
  tree ++ outcome.display?.toList.map fun text => "value: `" ++ text ++ "`"

/-- The information about a token: its kind and lexeme, its value, and the outcome. -/
def hoverText (document : Document) (token : Token) : String :=
  let literal := match token.literal with
    | .nil => []
    | value => ["literal: `" ++ value.display ++ "`"]
  String.intercalate "\n\n"
    (["**" ++ token.kind.name ++ "** `" ++ token.lexemeText ++ "`"] ++ literal ++
      (document.outcome.map outcomeParts).getD [])

/-- The information about the token at a position. -/
def hover? (document : Document) (line character : Int) : Option Hover :=
  (document.tokenAt? line character).map fun token =>
    ⟨document.hoverText token, token.range⟩

end Document

end Lox
