/-!
# Kinds of tokens

The kinds of tokens of Lox, and the tables from the spelling of a token to its kind.

## Main definitions

* `TokenKind`: the kinds
* `TokenKind.name`: the name of a kind in listings
* `punctuation`, `comparisons`, `keywords`: spellings and kinds
* `TokenKind.startsStatement`: the keywords that open a statement
-/

namespace Lox

/-- The kind of a token. -/
inductive TokenKind where
  | leftParen
  | rightParen
  | leftBrace
  | rightBrace
  | comma
  | dot
  | minus
  | plus
  | semicolon
  | slash
  | star
  | bang
  | bangEqual
  | equal
  | equalEqual
  | greater
  | greaterEqual
  | less
  | lessEqual
  | identifier
  | string
  | number
  | kwAnd
  | kwClass
  | kwElse
  | kwFalse
  | kwFun
  | kwFor
  | kwIf
  | kwNil
  | kwOr
  | kwPrint
  | kwReturn
  | kwSuper
  | kwThis
  | kwTrue
  | kwVar
  | kwWhile
  | eof
deriving DecidableEq, Repr, Inhabited

namespace TokenKind

/-- The name of a kind in listings. -/
def name : TokenKind → String
  | leftParen => "LEFT_PAREN"
  | rightParen => "RIGHT_PAREN"
  | leftBrace => "LEFT_BRACE"
  | rightBrace => "RIGHT_BRACE"
  | comma => "COMMA"
  | dot => "DOT"
  | minus => "MINUS"
  | plus => "PLUS"
  | semicolon => "SEMICOLON"
  | slash => "SLASH"
  | star => "STAR"
  | bang => "BANG"
  | bangEqual => "BANG_EQUAL"
  | equal => "EQUAL"
  | equalEqual => "EQUAL_EQUAL"
  | greater => "GREATER"
  | greaterEqual => "GREATER_EQUAL"
  | less => "LESS"
  | lessEqual => "LESS_EQUAL"
  | identifier => "IDENTIFIER"
  | string => "STRING"
  | number => "NUMBER"
  | kwAnd => "AND"
  | kwClass => "CLASS"
  | kwElse => "ELSE"
  | kwFalse => "FALSE"
  | kwFun => "FUN"
  | kwFor => "FOR"
  | kwIf => "IF"
  | kwNil => "NIL"
  | kwOr => "OR"
  | kwPrint => "PRINT"
  | kwReturn => "RETURN"
  | kwSuper => "SUPER"
  | kwThis => "THIS"
  | kwTrue => "TRUE"
  | kwVar => "VAR"
  | kwWhile => "WHILE"
  | eof => "EOF"

/-- All kinds: punctuation, operators, literals, keywords, and the end of the text. -/
def all : List TokenKind :=
  [leftParen, rightParen, leftBrace, rightBrace, comma, dot, minus, plus, semicolon, slash, star,
    bang, bangEqual, equal, equalEqual, greater, greaterEqual, less, lessEqual,
    identifier, string, number,
    kwAnd, kwClass, kwElse, kwFalse, kwFun, kwFor, kwIf, kwNil, kwOr, kwPrint, kwReturn, kwSuper,
    kwThis, kwTrue, kwVar, kwWhile, eof]

/-- The kind with a given name. -/
def ofName? (name : String) : Option TokenKind :=
  all.find? (·.name = name)

/-- Whether tokens of this kind carry a value. -/
def isLiteral (kind : TokenKind) : Bool :=
  kind = number || kind = string

/-- The kinds that open a statement. -/
def statementKinds : List TokenKind :=
  [kwClass, kwFun, kwVar, kwFor, kwIf, kwWhile, kwPrint, kwReturn]

/-- Whether a token of this kind opens a statement. -/
def startsStatement (kind : TokenKind) : Bool :=
  kind ∈ statementKinds

/-- The characters that are always a token of their own. The slash is not among them, since two of
them open a comment. -/
def punctuation : List (Char × TokenKind) :=
  [('(', leftParen), (')', rightParen), ('\x7b', leftBrace), ('\x7d', rightBrace), (',', comma),
    ('.', dot), ('-', minus), ('+', plus), (';', semicolon), ('*', star)]

/-- The characters that form another token together with an equals sign: the kind of the character
alone, and the kind of the pair. -/
def comparisons : List (Char × TokenKind × TokenKind) :=
  [('!', bang, bangEqual), ('=', equal, equalEqual), ('<', less, lessEqual),
    ('>', greater, greaterEqual)]

/-- The reserved words. -/
def keywords : List (String × TokenKind) :=
  [("and", kwAnd), ("class", kwClass), ("else", kwElse), ("false", kwFalse), ("for", kwFor),
    ("fun", kwFun), ("if", kwIf), ("nil", kwNil), ("or", kwOr), ("print", kwPrint),
    ("return", kwReturn), ("super", kwSuper), ("this", kwThis), ("true", kwTrue), ("var", kwVar),
    ("while", kwWhile)]

/-- The kind of a word: a keyword if it is reserved, else an identifier. -/
def ofWord (word : String) : TokenKind :=
  (keywords.lookup word).getD identifier

end TokenKind

end Lox
