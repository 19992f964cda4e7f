import Lox.Location
import Lox.Text.Blank
import Lox.Token.Kind
import Lox.Value

/-!
# Tokens

A token is a piece of source text with its kind, its value if it is a literal, and its location.

## Main definitions

* `Token`: kind, lexeme, value and location
* `Token.text`: the token as a listing shows it
* `Token.detail`: the token with its location
* `Token.agrees`: the equality of operator tokens in trees
-/

namespace Lox

/-- A token. The end of the text has no lexeme, and a token that is not a literal has the value
nil. -/
structure Token where
  kind : TokenKind
  lexeme : Option String := none
  literal : Value := .nil
  location : Location
deriving Repr, Inhabited

namespace Token

/-- The lexeme, empty at the end of the text. -/
def lexemeText (token : Token) : String :=
  token.lexeme.getD ""

/-- The value of a token as listings show it; nil is not shown. -/
def literalText? (token : Token) : Option String :=
  match token.literal with
  | .nil => none
  | value => some value.written

/-- The token as a listing shows it: name, lexeme and value, without blanks at the end. -/
def text (token : Token) : String :=
  let parts := [token.kind.name, token.lexemeText] ++ token.literalText?.toList
  String.ofList (Text.trimEnd (String.intercalate " " parts).toList)

/-- The token with the lexeme in quotes and the location. -/
def detail (token : Token) : String :=
  let lexeme := (token.lexeme.map Text.quoted).getD "None"
  let parts := [token.kind.name, lexeme] ++ token.literalText?.toList ++ [token.location.text]
  "Token(" ++ String.intercalate ", " parts ++ ")"

/-- The equality of operator tokens in trees; values compare as leaves do. -/
def agrees (a b : Token) : Bool :=
  a.kind = b.kind && a.lexeme = b.lexeme && a.literal.agrees b.literal && a.location = b.location

end Token

end Lox
