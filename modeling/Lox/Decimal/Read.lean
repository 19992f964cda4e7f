/-!
# Reading decimals

The double nearest to a decimal text. A text is a digit run with an optional fraction, or in full
generality a sign, digits, a fraction and an exponent.

## Main definitions

* `natOfDigits`: the number a run of digits stands for
* `readPlain`: the double for digits with an optional fraction
* `read?`: the double for any decimal text
-/

namespace Lox.Decimal

/-- The natural number with the given ASCII digits. -/
def natOfDigits (digits : List Char) : Nat :=
  digits.foldl (fun n c => 10 * n + (c.toNat - '0'.toNat)) 0

/-- The double nearest to `digits.fraction · 10 ^ exponent`. -/
def nearest (whole fraction : List Char) (exponent : Int) : Float :=
  let mantissa := natOfDigits (whole ++ fraction)
  let scale := exponent - fraction.length
  Float.ofScientific mantissa (decide (scale < 0)) scale.natAbs

/-- The double nearest to digits with an optional fraction. -/
def readPlain (text : List Char) : Float :=
  nearest (text.takeWhile Char.isDigit) ((text.dropWhile Char.isDigit).drop 1) 0

/-- The exponent after the mark `e`, zero where there is none. -/
def readExponent? : List Char → Option Int
  | [] => some 0
  | mark :: rest =>
    if mark ≠ 'e' ∧ mark ≠ 'E' then none
    else
      let (negative, digits) := match rest with
        | '-' :: digits => (true, digits)
        | '+' :: digits => (false, digits)
        | digits => (false, digits)
      if digits.isEmpty || !digits.all Char.isDigit then none
      else some (if negative then -(natOfDigits digits : Int) else natOfDigits digits)

/-- An exponent cut to the range beyond which a decimal of `size` digits is zero or an infinity
anyway. -/
def boundExponent (size : Nat) (exponent : Int) : Int :=
  max (-(size + 400)) (min exponent (size + 400))

/-- The double nearest to an unsigned decimal text. -/
def readUnsigned? (text : List Char) : Option Float :=
  let whole := text.takeWhile Char.isDigit
  let afterWhole := text.dropWhile Char.isDigit
  let (fraction, rest) := match afterWhole with
    | '.' :: tail => (tail.takeWhile Char.isDigit, tail.dropWhile Char.isDigit)
    | tail => ([], tail)
  if whole.isEmpty && fraction.isEmpty then none
  else
    (readExponent? rest).map fun exponent =>
      nearest whole fraction (boundExponent (whole.length + fraction.length) exponent)

/-- The double a decimal text stands for, the names `inf` and `nan` included. -/
def read? (text : String) : Option Float :=
  let (negative, body) := match text.toList with
    | '-' :: body => (true, body)
    | '+' :: body => (false, body)
    | body => (false, body)
  let magnitude :=
    if body = "inf".toList then some (1.0 / 0.0)
    else if body = "nan".toList then some (0.0 / 0.0)
    else readUnsigned? body
  magnitude.map fun x => if negative then -x else x

end Lox.Decimal
