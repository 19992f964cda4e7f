import Lox.Token.Kind

/-!
# Operators

The infix operators bind at four ranks, from equality, the loosest, to multiplication. The prefix
operators bind tighter than all of them.

## Main definitions

* `TokenKind.rank?`: the rank of an infix operator
* `TokenKind.isPrefixOp`: the prefix operators
-/

namespace Lox.TokenKind

/-- The rank of an infix operator; a higher rank binds tighter. -/
def rank? : TokenKind → Option Nat
  | bangEqual | equalEqual => some 1
  | greater | greaterEqual | less | lessEqual => some 2
  | minus | plus => some 3
  | slash | star => some 4
  | _ => none

/-- Whether the kind is a prefix operator. -/
def isPrefixOp : TokenKind → Bool
  | bang | minus => true
  | _ => false

end Lox.TokenKind
