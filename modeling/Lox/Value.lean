import Lox.Decimal.Notation
import Lox.Text.Quoted

/-!
# Values

The values of Lox expressions: nil, the booleans, the numbers, which are doubles, and the texts.

## Main definitions

* `Value`, `ValueKind`: the values and their four kinds
* `Value.isTruthy`: the value as a condition
* `Value.equals`: the equality of Lox, in which values of different kinds differ
* `Value.agrees`: the coarser equality of leaves in trees, in which `true` is one and `false` zero
* `Value.display`: the text a program prints
* `Value.written`: the text a listing shows, from which the value can be told
-/

namespace Lox

/-- The value of an expression. -/
inductive Value where
  | nil
  | bool (truth : Bool)
  | number (x : Float)
  | text (s : String)
deriving Repr, Inhabited

/-- The kind of a value. -/
inductive ValueKind where
  | nil
  | bool
  | number
  | text
deriving DecidableEq, Repr

namespace Value

/-- The kind of a value. -/
def kind : Value → ValueKind
  | nil => .nil
  | bool _ => .bool
  | number _ => .number
  | text _ => .text

/-- Whether the value is a number. -/
def isNumber (v : Value) : Bool :=
  v.kind = .number

/-- Whether the value is a text. -/
def isText (v : Value) : Bool :=
  v.kind = .text

/-- The value as a condition: nil, `false` and the two zeros are false, all else is true. -/
def isTruthy : Value → Bool
  | nil => false
  | bool truth => truth
  | number x => !(x == 0)
  | text _ => true

/-- The equality of Lox. Numbers compare as doubles, so that the zeros are equal and the value that
is not a number differs from itself. -/
def equals : Value → Value → Bool
  | nil, nil => true
  | bool a, bool b => a == b
  | number x, number y => x == y
  | text s, text t => s == t
  | _, _ => false

/-- The number a boolean stands for among numbers. -/
def ofTruth (truth : Bool) : Float :=
  if truth then 1 else 0

/-- The equality of leaves in trees: as `equals`, but a boolean also equals its number. -/
def agrees : Value → Value → Bool
  | bool a, number y => ofTruth a == y
  | number x, bool b => x == ofTruth b
  | v, w => v.equals w

/-- The decimal format of numbers: positional for the exponents from -4 to 15. -/
def numberLayout : Decimal.Layout where
  lowest := -4
  highest := 15
  exponentDigits := 2
  nan := "nan"
  infinity := "inf"

/-- The integers whose absolute value is below this bound are displayed with all their digits. -/
def integerBound : Nat :=
  Nat.pow 10 21

/-- A number as a program prints it: an integer below the bound in full, any other number in its
decimal format. Both zeros print alike. -/
def displayNumber (x : Float) : String :=
  match Decimal.floatParts x with
  | .nan => "NaN"
  | .infinite negative => if negative then "-Infinity" else "Infinity"
  | .finite negative mantissa exponent =>
    match (Decimal.natOfParts? mantissa exponent).filter (· < integerBound) with
    | some n => (if negative && n ≠ 0 then "-" else "") ++ toString n
    | none => numberLayout.write x

/-- The value as a program prints it. -/
def display : Value → String
  | nil => "nil"
  | bool truth => if truth then "true" else "false"
  | number x => displayNumber x
  | text s => s

/-- The value as a listing shows it: texts in quotes, numbers in their decimal format. -/
def written : Value → String
  | nil => "None"
  | bool truth => if truth then "True" else "False"
  | number x => numberLayout.write x
  | text s => Text.quoted s

end Value

end Lox
