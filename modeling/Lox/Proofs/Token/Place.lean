import Lox.Location

/-!
# The location behind a text

The scanner moves its location one character at a time. Said of the text as a whole, its line
counts the LF characters, its column the characters since the last of them, and its offset all
characters.

## Main definitions

* `Location.endOf`: the location behind a text

## Main results

* `Location.endOf_after`: moving over a text adds it to the text behind the location
-/

namespace Lox

namespace Location

/-- **The location behind a text.** The line is one more than the number of LF characters, and the
column one more than the number of characters after the last of them. -/
def endOf (file : Option String) (text : List Char) : Location where
  line := 1 + text.count '\n'
  column := 1 + (text.reverse.takeWhile (· ≠ '\n')).length
  offset := text.length
  file := file

@[simp] theorem endOf_nil (file : Option String) : endOf file [] = start file := rfl

@[simp] theorem endOf_offset (file : Option String) (text : List Char) :
    (endOf file text).offset = text.length := rfl

theorem endOf_next (file : Option String) (text : List Char) (c : Char) :
    (endOf file text).next c = endOf file (text ++ [c]) := by
  by_cases h : c = '\n'
  · simp [endOf, next, h, Int.add_assoc]
  · simp [endOf, next, h, Int.add_assoc]

theorem endOf_after (file : Option String) (before text : List Char) :
    (endOf file before).after text = endOf file (before ++ text) := by
  induction text generalizing before with
  | nil => simp
  | cons c text ih => rw [after_cons, endOf_next, ih, List.append_assoc, List.singleton_append]

end Location

end Lox
