import Lox.Decimal.Float

/-!
# The shortest decimal that reads back

Every real number between the midpoints to the neighbours of a double rounds to that double. Of
the decimals in this interval the shortest are those with the fewest digits, and of these the one
nearest to the double is its decimal text.

On the grid of decimals with a given last place, the interval holds a point if and only if it holds
one of the two neighbours of the double, so that the search looks at two points for each number of
digits.

## Main definitions

* `Interval`: the reals that round to a double
* `places`: the position of the leading digit
* `nearestOn?`: the point of a grid in the interval that is nearest to the double
* `shortest`: the digits and the exponent of the shortest decimal
-/

namespace Lox.Decimal

/-- The reals from `(center - below) / unit` to `(center + above) / unit`, about the double
`center / unit`. The ends belong to the interval when it is `closed`. -/
structure Interval where
  center : Nat
  below : Nat
  above : Nat
  unit : Nat
  closed : Bool

/-- The reals that round to the double `mantissa · 2 ^ exponent`. The lower neighbour of a power of
two is nearer than the upper one, and a tie goes to the even mantissa. -/
def roundingInterval (mantissa : Nat) (exponent : Int) : Interval :=
  let up := Nat.pow 2 (exponent - 2).toNat
  { center := 4 * mantissa * up
    below := if mantissa = Nat.pow 2 52 ∧ exponent ≠ -1074 then up else 2 * up
    above := 2 * up
    unit := Nat.pow 2 (2 - exponent).toNat
    closed := mantissa % 2 == 0 }

/-- The power of ten `10 ^ e` as a fraction. -/
def tenPower (e : Int) : Nat × Nat :=
  (Nat.pow 10 e.toNat, Nat.pow 10 (-e).toNat)

/-- Whether `digits · 10 ^ e` lies in the interval. -/
def Interval.contains (range : Interval) (digits : Nat) (e : Int) : Bool :=
  let (up, down) := tenPower e
  let point := digits * up * range.unit
  let low := (range.center - range.below) * down
  let high := (range.center + range.above) * down
  if range.closed then low ≤ point && point ≤ high else low < point && point < high

/-- The number of decimal digits of a natural number. -/
def digitCount (n : Nat) : Nat :=
  (Nat.toDigits 10 n).length

/-- The `p` with `10 ^ (p - 1) ≤ center / unit < 10 ^ p`. -/
def places (center unit : Nat) : Int :=
  if unit ≤ center then digitCount (center / unit)
  else
    let least := (unit + center - 1) / center
    1 - (digitCount (least - 1) : Int)

/-- The point of the grid of multiples of `10 ^ e` that lies in the interval and is nearest to its
center, the even one of two equally near. -/
def nearestOn? (range : Interval) (e : Int) : Option Nat :=
  let (up, down) := tenPower e
  let low := range.center * down / (range.unit * up)
  let gap := 2 * (range.center * down) - 2 * low * (range.unit * up)
  match range.contains low e, range.contains (low + 1) e with
  | true, true =>
    if gap < range.unit * up then some low
    else if range.unit * up < gap then some (low + 1)
    else some (low + low % 2)
  | true, false => some low
  | false, true => some (low + 1)
  | false, false => none

/-- The first grid that meets the interval, from `count` digits on, with at most `fuel` digits
more. -/
def searchGrids (range : Interval) (top : Int) : (fuel count : Nat) → Nat × Int
  | 0, count =>
    let (up, down) := tenPower (top - count)
    (range.center * down / (range.unit * up), top - count)
  | fuel + 1, count =>
    match nearestOn? range (top - count) with
    | some digits => (digits, top - count)
    | none => searchGrids range top fuel (count + 1)

/-- The digits `d` and the exponent `e` of the shortest decimal `d · 10 ^ e` that rounds to the
double `mantissa · 2 ^ exponent`. Seventeen digits always suffice. -/
def shortest (mantissa : Nat) (exponent : Int) : Nat × Int :=
  let range := roundingInterval mantissa exponent
  searchGrids range (places range.center range.unit) 17 1

end Lox.Decimal
