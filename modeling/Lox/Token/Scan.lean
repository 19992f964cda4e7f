import Lox.Failure
import Lox.Token.Lexeme

/-!
# Scanning

A scan cuts a text into lexemes from left to right and makes a token of each one that is neither
layout nor a comment. It stops at the end of the text, or at the first character where no lexeme
stands.

## Main definitions

* `ScanError`: a fault and its location
* `Stop`: where and why a scan stops
* `scanFrom`: the tokens of a text that starts at a given location, and the stop
* `Scan`, `scanText`: the scan of a whole text, the end included
* `tokensOf`: the tokens, or the error

## Main results

* `scanFrom_nil`, `scanFrom_error`, `scanFrom_ok`: one step of a scan
-/

namespace Lox

/-- A fault and the location of the character that has no lexeme. -/
structure ScanError where
  fault : ScanFault
  location : Location
deriving DecidableEq, Repr

/-- The failure that reports the error. -/
def ScanError.failure (error : ScanError) : Failure :=
  .scan error.fault.message (some error.location) none

/-- Why a scan stops: at the end of the text, or at an error after which the scanner stands at
`position`. -/
inductive Stop where
  | finished (position : Location)
  | failed (error : ScanError) (position : Location)
deriving Repr

/-- Where the scanner stands when it stops. -/
def Stop.position : Stop → Location
  | finished position => position
  | failed _ position => position

/-- How far the scanner reads before it reports a fault at the head of `c :: rest`: past an
unexpected character, and to the end of the text in search of a closing quote. -/
def ScanFault.reach (fault : ScanFault) (c : Char) (rest : List Char) : List Char :=
  match fault with
  | unexpectedCharacter => [c]
  | unterminatedString => c :: rest

/-- The token of a lexeme. -/
def Token.ofLexeme (kind : TokenKind) (lexeme : List Char) (place : Location) : Token where
  kind := kind
  lexeme := some (String.ofList lexeme)
  literal := kind.valueOf lexeme
  location := place

/-- The token a cut makes of its lexeme, if the lexeme is neither layout nor a comment. -/
def Cut.token? (cut : Cut) (lexeme : List Char) (place : Location) : Option Token :=
  cut.kind.map (.ofLexeme · lexeme place)

/-- The tokens of a text that starts at `place`, and the stop. -/
def scanFrom (place : Location) : List Char → List Token × Stop
  | [] => ([], .finished place)
  | c :: rest =>
    match headLexeme c rest with
    | .error fault => ([], .failed ⟨fault, place⟩ (place.after (fault.reach c rest)))
    | .ok cut =>
      let lexeme := c :: rest.take cut.more
      let others := scanFrom (place.after lexeme) (rest.drop cut.more)
      ((cut.token? lexeme place).toList ++ others.1, others.2)
termination_by text => text.length
decreasing_by simp only [List.length_drop, List.length_cons]; omega

@[simp] theorem scanFrom_nil (place : Location) : scanFrom place [] = ([], .finished place) := by
  rw [scanFrom]

theorem scanFrom_error {place : Location} {c : Char} {rest : List Char} {fault : ScanFault}
    (h : headLexeme c rest = .error fault) :
    scanFrom place (c :: rest) =
      ([], .failed ⟨fault, place⟩ (place.after (fault.reach c rest))) := by
  rw [scanFrom, h]

theorem scanFrom_ok {place : Location} {c : Char} {rest : List Char} {cut : Cut}
    (h : headLexeme c rest = .ok cut) :
    scanFrom place (c :: rest) =
      ((cut.token? (c :: rest.take cut.more) place).toList ++
          (scanFrom (place.after (c :: rest.take cut.more)) (rest.drop cut.more)).1,
        (scanFrom (place.after (c :: rest.take cut.more)) (rest.drop cut.more)).2) := by
  rw [scanFrom, h]

/-- The token at the end of a text. -/
def Token.endOfText (place : Location) : Token where
  kind := .eof
  location := place

/-- The scan of a whole text: the tokens it leaves, which end in the end of the text unless it
failed, and the stop. -/
structure Scan where
  tokens : List Token
  stop : Stop
deriving Repr

/-- The scan of a text. -/
def scanText (source : String) (file : Option String) : Scan :=
  let (tokens, stop) := scanFrom (Location.start file) source.toList
  match stop with
  | .finished position => ⟨tokens ++ [.endOfText position], stop⟩
  | .failed .. => ⟨tokens, stop⟩

/-- The error a scan stopped at. -/
def Scan.error? (scan : Scan) : Option ScanError :=
  match scan.stop with
  | .finished _ => none
  | .failed error _ => some error

/-- The tokens of a text up to its end, or the error that stops the scan. -/
def tokensOf (source : String) (file : Option String) : Except ScanError (List Token) :=
  let scan := scanText source file
  match scan.error? with
  | none => .ok scan.tokens
  | some error => .error error

end Lox
