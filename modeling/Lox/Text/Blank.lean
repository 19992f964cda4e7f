import Lox.Text.CharSet

/-!
# Blank characters

The characters with the Unicode property of white space, together with the four information
separators U+001C to U+001F. Lines typed at a prompt are trimmed and cut into words at these.

## Main definitions

* `isBlank`: membership in the set
* `trimStart`, `trimEnd`, `trim`: a text without the blanks at its ends
* `firstWord`: a text cut after its first word
-/

namespace Lox.Text

/-- The blank characters. -/
def blanks : CharSet where
  ranges := [(0x9, 0xD), (0x1C, 0x20), (0x85, 0x85), (0xA0, 0xA0), (0x1680, 0x1680),
    (0x2000, 0x200A), (0x2028, 0x2029), (0x202F, 0x202F), (0x205F, 0x205F), (0x3000, 0x3000)]

/-- Whether a character separates words. -/
def isBlank (c : Char) : Bool :=
  blanks.contains c

/-- The text without the blanks it starts with. -/
def trimStart (text : List Char) : List Char :=
  text.dropWhile isBlank

/-- The text without the blanks it ends with. -/
def trimEnd (text : List Char) : List Char :=
  (text.reverse.dropWhile isBlank).reverse

/-- The text without the blanks at either end. -/
def trim (text : List Char) : List Char :=
  trimEnd (trimStart text)

/-- The first word of a text, and what follows it from the next word on. -/
def firstWord (text : List Char) : List Char × List Char :=
  let start := trimStart text
  (start.takeWhile (!isBlank ·), trimStart (start.dropWhile (!isBlank ·)))

end Lox.Text
