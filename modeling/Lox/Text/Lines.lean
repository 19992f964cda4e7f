/-!
# Lines of a text

Two rules cut a text into lines. The scanner and the editor know one line end, LF, and the pieces
between the line ends are the lines, so that there is always one line at least. A report that
shows source text cuts it at every line boundary of Unicode, and a boundary at the end of the text
starts no further line.

## Main definitions

* `splitLines`: the pieces between the LF characters
* `isLineBoundary`, `breakLines`: the lines between line boundaries

## Main results

* `splitLines_ne_nil`: there is at least one piece
-/

namespace Lox.Text

/-- The pieces of a text between its LF characters. -/
def splitLines : List Char → List (List Char)
  | [] => [[]]
  | c :: rest =>
    if c = '\n' then [] :: splitLines rest
    else
      match splitLines rest with
      | [] => [[c]]
      | line :: lines => (c :: line) :: lines

theorem splitLines_ne_nil (text : List Char) : splitLines text ≠ [] := by
  cases text with
  | nil => simp [splitLines]
  | cons c rest =>
    rw [splitLines]
    split
    · simp
    · split <;> simp

/-- The characters that end a line: LF, VT, FF, CR, the separators FS, GS and RS, NEL, and the line
and paragraph separators. -/
def isLineBoundary (c : Char) : Bool :=
  c ∈ ['\n', '\x0b', '\x0c', '\r', '\x1c', '\x1d', '\x1e', '\u0085', '\u2028', '\u2029']

/-- The lines of a text; CR followed by LF is one boundary. -/
def breakLines : List Char → List (List Char)
  | [] => []
  | '\r' :: '\n' :: rest => [] :: breakLines rest
  | c :: rest =>
    if isLineBoundary c then [] :: breakLines rest
    else
      match breakLines rest with
      | [] => [[c]]
      | line :: lines => (c :: line) :: lines

end Lox.Text
