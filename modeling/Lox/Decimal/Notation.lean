import Lox.Decimal.Shortest

/-!
# Decimal notation

How a double is written: positional notation for exponents in a range, and scientific notation
outside it. The choices are a record, so that a format is one value of type `Layout`.

## Main definitions

* `Layout`: the choices of a format
* `Layout.write`: a double in a format
-/

namespace Lox.Decimal

/-- The choices of a decimal format: the exponents written positionally, the texts of the numbers
without digits, and the least number of exponent digits. Positional notation of an integer ends in
`.0`, and a positive exponent has a sign. -/
structure Layout where
  lowest : Int
  highest : Int
  exponentDigits : Nat
  nan : String
  infinity : String

/-- The decimal digits of a number without the zeros they end with. -/
def significantDigits (n : Nat) : List Char :=
  match (Nat.toDigits 10 n).reverse.dropWhile (· == '0') with
  | [] => ['0']
  | digits => digits.reverse

/-- The digits with the point after the first `position` of them; zeros fill up on either side. -/
def positional (digits : List Char) (position : Int) : List Char :=
  let whole := digits.take position.toNat ++ List.replicate (position.toNat - digits.length) '0'
  let fraction := List.replicate (-position).toNat '0' ++ digits.drop position.toNat
  (if whole.isEmpty then ['0'] else whole) ++ '.' :: (if fraction.isEmpty then ['0'] else fraction)

/-- The digits with the point after the first one, then the exponent. -/
def scientific (digits : List Char) (exponent : Int) (least : Nat) : List Char :=
  let size := Nat.toDigits 10 exponent.natAbs
  (match digits with
    | [] => ['0']
    | [d] => [d]
    | d :: rest => d :: '.' :: rest) ++
  'e' :: (if exponent < 0 then '-' else '+') :: List.replicate (least - size.length) '0' ++ size

/-- A positive finite double in a format. -/
def Layout.writePositive (layout : Layout) (mantissa : Nat) (exponent : Int) : List Char :=
  let (number, last) := shortest mantissa exponent
  let digits := significantDigits number
  let lead := last + digitCount number - 1
  if layout.lowest ≤ lead ∧ lead ≤ layout.highest then positional digits (lead + 1)
  else scientific digits lead layout.exponentDigits

/-- A double in a format. -/
def Layout.write (layout : Layout) (x : Float) : String :=
  match floatParts x with
  | .nan => layout.nan
  | .infinite negative => (if negative then "-" else "") ++ layout.infinity
  | .finite negative mantissa exponent =>
    (if negative then "-" else "") ++
      if mantissa = 0 then "0.0" else String.ofList (layout.writePositive mantissa exponent)

end Lox.Decimal
