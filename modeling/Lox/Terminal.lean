/-!
# Terminal styles

A terminal switches to a style when it receives the style's escape code, and back when it receives
the code that resets it. A text for a terminal is a row of fragments, each with its styles; drawn
without colour it is the text of the fragments alone.

## Main definitions

* `Style`, `Style.escape`: the styles and their escape codes
* `paint`: a text in some styles
* `Fragment`, `draw`: rows of styled texts
* `supportsColor`: whether a stream takes escape codes
-/

namespace Lox

/-- A style of a terminal; `reset` ends all others. -/
inductive Style where
  | red
  | green
  | yellow
  | blue
  | cyan
  | gray
  | bold
  | dim
  | reset
deriving DecidableEq, Repr

namespace Style

/-- All styles. -/
def all : List Style :=
  [red, green, yellow, blue, cyan, gray, bold, dim, reset]

/-- The name of a style. -/
def name : Style → String
  | red => "RED"
  | green => "GREEN"
  | yellow => "YELLOW"
  | blue => "BLUE"
  | cyan => "CYAN"
  | gray => "GRAY"
  | bold => "BOLD"
  | dim => "DIM"
  | reset => "RESET"

/-- The number of a style in an escape code. -/
def number : Style → String
  | red => "91"
  | green => "92"
  | yellow => "93"
  | blue => "94"
  | cyan => "96"
  | gray => "90"
  | bold => "1"
  | dim => "2"
  | reset => "0"

/-- The escape code of a style. -/
def escape (style : Style) : String :=
  "\x1b[" ++ style.number ++ "m"

end Style

/-- A text in some styles, which end with it. -/
def paint (color : Bool) (styles : List Style) (text : String) : String :=
  if color && !styles.isEmpty then
    String.join (styles.map Style.escape) ++ text ++ Style.reset.escape
  else text

/-- A text with its styles. -/
structure Fragment where
  styles : List Style
  text : String
deriving DecidableEq, Repr

/-- A text without styles. -/
def Fragment.plain (text : String) : Fragment where
  styles := []
  text := text

/-- A row of fragments, with or without their styles. -/
def draw (color : Bool) (row : List Fragment) : String :=
  String.join (row.map fun fragment => paint color fragment.styles fragment.text)

/-- Whether escape codes may be written to a stream: it is known to be a terminal, and the variable
that asks for no colour is unset or empty. -/
def supportsColor (noColor : Option String) (terminal : Option Bool) : Bool :=
  (noColor.getD "").isEmpty && terminal.getD false

end Lox
