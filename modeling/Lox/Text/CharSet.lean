/-!
# Character sets

A set of characters given by ranges of code points. The tables of the Unicode properties that the
text modules need are such sets.

## Main definitions

* `CharSet`: increasing, disjoint ranges of code points
* `CharSet.contains`: membership
-/

namespace Lox.Text

/-- A set of characters, as ranges of code points with both ends included, in increasing order. -/
structure CharSet where
  ranges : List (Nat × Nat)

/-- Whether one of the ranges holds the code point; a range above it ends the search. -/
def inRanges (n : Nat) : List (Nat × Nat) → Bool
  | [] => false
  | (first, last) :: rest => if n < first then false else n ≤ last || inRanges n rest

/-- Membership of a character in a set. -/
def CharSet.contains (set : CharSet) (c : Char) : Bool :=
  inRanges c.toNat set.ranges

end Lox.Text
