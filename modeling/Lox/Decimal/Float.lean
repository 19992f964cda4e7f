/-!
# The parts of a floating-point number

A finite double is `± mantissa · 2 ^ exponent` with a natural mantissa. The decimal texts of
numbers are computed from these parts in exact arithmetic.

## Main definitions

* `FloatParts`: not a number, an infinity, or a finite number by its parts
* `floatParts`: the parts of a double, read off its bits
* `natOfParts?`: the natural number a mantissa and an exponent stand for, if they do
-/

namespace Lox.Decimal

/-- What the bits of a double say. -/
inductive FloatParts where
  | nan
  | infinite (negative : Bool)
  | finite (negative : Bool) (mantissa : Nat) (exponent : Int)
deriving DecidableEq, Repr

/-- The parts of a double: a sign bit, eleven bits of biased exponent, 52 bits of fraction. The
lowest exponent field stands for numbers without the hidden bit, the highest for the infinities and
the values that are not numbers. -/
def floatParts (x : Float) : FloatParts :=
  let bits := x.toBits.toNat
  let negative := bits / Nat.pow 2 63 == 1
  let field : Nat := bits / Nat.pow 2 52 % Nat.pow 2 11
  let fraction : Nat := bits % Nat.pow 2 52
  if field = 2047 then
    if fraction = 0 then .infinite negative else .nan
  else if field = 0 then .finite negative fraction (-1074)
  else .finite negative (Nat.pow 2 52 + fraction) ((field : Int) - 1075)

/-- The value of `mantissa · 2 ^ exponent` when it is a natural number. -/
def natOfParts? (mantissa : Nat) (exponent : Int) : Option Nat :=
  let down := Nat.pow 2 (-exponent).toNat
  if mantissa % down = 0 then some (mantissa / down * Nat.pow 2 exponent.toNat) else none

end Lox.Decimal
