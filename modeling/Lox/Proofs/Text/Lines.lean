import Lox.Proofs.Token.Lexical
import Lox.Proofs.Token.Place
import Lox.Text.Lines

/-!
# Lines and locations

The lines of a text are the pieces between its LF characters. A location behind a text is found
again in any longer text by its line and its column alone: skip the lines above, and the characters in
front of the column.

## Main definitions

* `Text.lastLine`, `Text.firstLine`: the line that a text ends in, and the one that it starts with
* `Location.textFrom`: the text from a line and a column on

## Main results

* `Text.splitLines_append_lf`: an LF splits the lines of a text
* `Text.drop_splitLines_append`, `Text.getElem?_splitLines_append`: the line that a text ends in
  goes on with the text behind it
* `Location.textFrom_endOf`: the text from the location behind a text on is what follows that text
-/

namespace Lox

namespace Text

/-! ## Lines -/

theorem splitLines_eq_splitOn (text : List Char) : splitLines text = text.splitOn '\n' := by
  induction text with
  | nil => rfl
  | cons c rest ih =>
    rw [List.splitOn, List.splitOnP_cons_eq_if_modifyHead, ← List.splitOn, ← ih, splitLines]
    by_cases hc : c = '\n'
    · rw [if_pos hc, if_pos (by simp [hc])]
    · rw [if_neg hc, if_neg (by simp [hc])]
      cases hlines : splitLines rest with
      | nil => exact absurd hlines (splitLines_ne_nil rest)
      | cons line lines => rfl

/-- **An LF splits the lines of a text.** -/
theorem splitLines_append_lf (first second : List Char) :
    splitLines (first ++ '\n' :: second) = splitLines first ++ splitLines second := by
  simp only [splitLines_eq_splitOn]
  exact List.splitOnP_append_cons first second (by simp)

/-- What is put in front of a text without an LF belongs to its first line. -/
theorem splitLines_append_of_not_mem {first : List Char} (h : '\n' ∉ first) (second : List Char) :
    splitLines (first ++ second) = (splitLines second).modifyHead (first ++ ·) := by
  induction first with
  | nil => cases hlines : splitLines second <;> simp [hlines]
  | cons c first ih =>
    obtain ⟨hc, hfirst⟩ := not_or.mp (mt List.mem_cons.mpr h)
    rw [List.cons_append, splitLines, if_neg (Ne.symm hc), ih hfirst]
    cases hlines : splitLines second with
    | nil => exact absurd hlines (splitLines_ne_nil second)
    | cons line lines => rfl

/-- A text without an LF is one line. -/
theorem splitLines_of_not_mem {text : List Char} (h : '\n' ∉ text) : splitLines text = [text] := by
  simpa [splitLines] using splitLines_append_of_not_mem h []

/-- The lines, with an LF between each two of them, are the text. -/
theorem intercalate_splitLines (text : List Char) :
    ['\n'].intercalate (splitLines text) = text := by
  rw [splitLines_eq_splitOn, List.intercalate_splitOn]

theorem length_splitLines (text : List Char) :
    (splitLines text).length = text.count '\n' + 1 := by
  induction text with
  | nil => rfl
  | cons c rest ih =>
    rw [splitLines]
    by_cases hc : c = '\n'
    · rw [if_pos hc, List.length_cons, ih, hc, List.count_cons_self]
    · rw [if_neg hc, List.count_cons_of_ne hc, ← ih]
      cases hlines : splitLines rest with
      | nil => exact absurd hlines (splitLines_ne_nil rest)
      | cons line lines => rfl

/-- The line that a text ends in: what stands behind its last LF. -/
def lastLine (text : List Char) : List Char :=
  (text.reverse.takeWhile (· ≠ '\n')).reverse

/-- A line without an LF is the last one, if nothing stands above it or an LF ends what does. -/
theorem lastLine_append (above : List Char) {line : List Char}
    (habove : ∀ c ∈ above.reverse.head?, c = '\n') (hline : '\n' ∉ line) :
    lastLine (above ++ line) = line := by
  have hrun : ∀ c ∈ line.reverse, decide (c ≠ '\n') = true := by
    intro c hc
    exact decide_eq_true fun heq => hline (heq ▸ List.mem_reverse.mp hc)
  have hstop : ∀ c ∈ above.reverse.head?, decide (c ≠ '\n') = false := by
    intro c hc
    simpa using habove c hc
  rw [lastLine, List.reverse_append, takeWhile_stop hrun hstop, List.reverse_reverse]

/-- A text without an LF is one line, and any other text ends in an LF and its last line. -/
theorem lastLine_cases (text : List Char) :
    ('\n' ∉ text ∧ lastLine text = text) ∨
      ∃ above line, text = above ++ '\n' :: line ∧ lastLine text = line ∧ '\n' ∉ line := by
  by_cases h : '\n' ∈ text
  · -- the first LF of the reversed text is the last one
    right
    obtain ⟨line, above, hreverse, hline⟩ := List.eq_append_cons_of_mem (List.mem_reverse.mpr h)
    have htext : text = above.reverse ++ '\n' :: line.reverse := by
      rw [← List.reverse_inj, hreverse]
      simp
    have hline' : '\n' ∉ line.reverse := by simpa using hline
    refine ⟨above.reverse, line.reverse, htext, ?_, hline'⟩
    have hlast := lastLine_append (above.reverse ++ ['\n']) (by simp) hline'
    rwa [List.append_assoc, List.singleton_append, ← htext] at hlast
  · exact .inl ⟨h, lastLine_append [] nofun h⟩

/-- **The line that a text ends in goes on with the text behind it**, below the lines that end in an
LF of the text. -/
theorem drop_splitLines_append (before behind : List Char) :
    (splitLines (before ++ behind)).drop (before.count '\n') =
      (splitLines behind).modifyHead (lastLine before ++ ·) := by
  obtain ⟨hnone, hlast⟩ | ⟨above, line, habove, hlast, hnone⟩ := lastLine_cases before
  · rw [List.count_eq_zero.mpr hnone, List.drop_zero, hlast, splitLines_append_of_not_mem hnone]
  · -- every line above is dropped, as each of them ends in one LF
    have hcount : before.count '\n' = (splitLines above).length := by
      rw [length_splitLines, habove, List.count_append, List.count_cons_self,
        List.count_eq_zero.mpr hnone]
    rw [hcount, hlast, habove, List.append_assoc, List.cons_append, splitLines_append_lf,
      List.drop_left, splitLines_append_of_not_mem hnone]

/-- The line that a text starts with: what stands in front of its first LF. -/
def firstLine (text : List Char) : List Char :=
  text.takeWhile (· ≠ '\n')

theorem firstLine_append_of_not_mem {first : List Char} (h : '\n' ∉ first) (second : List Char) :
    firstLine (first ++ second) = first ++ firstLine second := by
  apply List.takeWhile_append_of_pos
  intro c hc
  exact decide_eq_true fun heq => h (heq ▸ hc)

theorem firstLine_append_lf {first : List Char} (h : '\n' ∉ first) (second : List Char) :
    firstLine (first ++ '\n' :: second) = first := by
  rw [firstLine_append_of_not_mem h]
  simp [firstLine]

theorem firstLine_of_not_mem {text : List Char} (h : '\n' ∉ text) : firstLine text = text := by
  simpa [firstLine] using firstLine_append_of_not_mem h []

/-- The line that a text starts with is the first one. -/
theorem head?_splitLines (text : List Char) : (splitLines text).head? = some (firstLine text) := by
  induction text with
  | nil => rfl
  | cons c rest ih =>
    rw [splitLines]
    by_cases hc : c = '\n'
    · simp [firstLine, hc]
    · rw [if_neg hc, firstLine, List.takeWhile_cons_of_pos (by simpa using hc), ← firstLine]
      cases hlines : splitLines rest with
      | nil => exact absurd hlines (splitLines_ne_nil rest)
      | cons line lines =>
        rw [hlines] at ih
        exact congrArg (Option.map (c :: ·)) ih

/-- **The line that a text ends in goes on to the next LF.** -/
theorem getElem?_splitLines_append (before behind : List Char) :
    (splitLines (before ++ behind))[before.count '\n']? =
      some (lastLine before ++ firstLine behind) := by
  rw [← List.head?_drop, drop_splitLines_append, List.head?_modifyHead, head?_splitLines,
    Option.map_some]

/-- The line that a text ends in is the last one. -/
theorem getElem?_splitLines_count (text : List Char) :
    (splitLines text)[text.count '\n']? = some (lastLine text) := by
  simpa [firstLine] using getElem?_splitLines_append text []

end Text

/-! ## Reading from a location -/

/-- The text from a location on: the rest of its line, and the lines below. -/
def Location.textFrom (place : Location) (text : List Char) : List Char :=
  ['\n'].intercalate
    (((Text.splitLines text).drop (place.line - 1).toNat).modifyHead
      (List.drop (place.column - 1).toNat))

/-- **The text from the location behind a text on is what follows that text.** -/
theorem Location.textFrom_endOf (file : Option String) (before behind : List Char) :
    (endOf file before).textFrom (before ++ behind) = behind := by
  have hline : ((endOf file before).line - 1).toNat = before.count '\n' := by
    simp only [endOf]
    omega
  have hcolumn : ((endOf file before).column - 1).toNat = (Text.lastLine before).length := by
    simp only [endOf, Text.lastLine, List.length_reverse]
    omega
  rw [textFrom, hline, hcolumn, Text.drop_splitLines_append, List.modifyHead_modifyHead]
  have hrest : List.drop (Text.lastLine before).length ∘ (Text.lastLine before ++ ·) = id := by
    funext line
    simp
  rw [hrest, List.modifyHead_id, id, Text.intercalate_splitLines]

end Lox
