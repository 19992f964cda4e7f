/-!
# Locations

A location names a character of a source text: its line and column, both counted from one, and its
offset, counted from zero. It may name the file the text comes from.

## Main definitions

* `Location`: line, column, offset and file
* `Location.start`: the location of the first character
* `Location.next`, `Location.after`: the location past a character, past a text
* `Location.text`: how a report names a location
* `Location.inputName`: how messages call a text
-/

namespace Lox

/-- A place in a source text. The scanner's locations are positive; a location that a caller builds
may be any. -/
structure Location where
  line : Int
  column : Int
  offset : Int := 0
  file : Option String := none
deriving DecidableEq, Repr, Inhabited

namespace Location

/-- The location of the first character of a text. -/
def start (file : Option String) : Location where
  line := 1
  column := 1
  file := file

/-- The location after a character: LF starts a line, any other character takes a column. -/
def next (place : Location) (c : Char) : Location :=
  if c = '\n' then { place with line := place.line + 1, column := 1, offset := place.offset + 1 }
  else { place with column := place.column + 1, offset := place.offset + 1 }

/-- The location after a text. -/
def after (place : Location) (text : List Char) : Location :=
  text.foldl next place

@[simp] theorem after_nil (place : Location) : place.after [] = place := rfl

@[simp] theorem after_cons (place : Location) (c : Char) (text : List Char) :
    place.after (c :: text) = (place.next c).after text := rfl

/-- The name of the file, if it has one; an empty name is none. -/
def fileName? (file : Option String) : Option String :=
  file.filter (· ≠ "")

/-- How messages call a text: by its file, or as the input. -/
def inputName (file : Option String) : String :=
  (fileName? file).getD "<input>"

/-- Line and column, after the name of the file if there is one. -/
def text (place : Location) : String :=
  match fileName? place.file with
  | some file => s!"{file}:{place.line}:{place.column}"
  | none => s!"{place.line}:{place.column}"

end Location

end Lox
