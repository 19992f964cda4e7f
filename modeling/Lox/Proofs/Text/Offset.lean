import Lox.Proofs.Text.Lines

/-!
# Offsets of places

A place in a text is named by its line and its column, or by its offset. In front of the place stand
the lines above, each with its LF, and the characters of its own line up to the column. So the offset
is the length of the text in front, and the text in front has the line as its number of LF characters
and the column as the length of its last line.

## Main definitions

* `Text.offset`: the offset of a column in a line, counted from zero
* `Text.HasPlace`: the text has a place at a line and a column

## Main results

* `Text.offset_append`: the offset of the place behind a text is the length of that text
* `Text.HasPlace.exists_front`: every place of a text is behind some text
-/

namespace Lox.Text

/-- The offset of a column in a line, both counted from zero: the length of the lines above, each
with its LF, and the column. -/
def offset (text : List Char) (line column : Nat) : Nat :=
  (((splitLines text).take line).flatMap (· ++ ['\n'])).length + column

/-- The text has a place at the line and the column, which may be the one behind the end of the
line. -/
def HasPlace (text : List Char) (line column : Nat) : Prop :=
  ∃ chars, (splitLines text)[line]? = some chars ∧ column ≤ chars.length

/-! ## Last lines -/

/-- What stands above an LF is not in the last line. -/
theorem lastLine_append_lf (above text : List Char) :
    lastLine (above ++ '\n' :: text) = lastLine text := by
  have hstop : (text.reverse ++ '\n' :: above.reverse).takeWhile (· ≠ '\n') =
      text.reverse.takeWhile (· ≠ '\n') := by
    rw [List.takeWhile_append]
    split
    · next hall =>
      have hself := (List.takeWhile_prefix (· ≠ '\n') (l := text.reverse)).eq_of_length hall
      rw [List.takeWhile_cons_of_neg (by simp), List.append_nil, hself]
    · rfl
  rw [lastLine, lastLine, List.reverse_append, List.reverse_cons, List.append_assoc,
    List.singleton_append, hstop]

/-- A text without an LF goes on in the last line. -/
theorem lastLine_append_of_not_mem (first : List Char) {second : List Char} (h : '\n' ∉ second) :
    lastLine (first ++ second) = lastLine first ++ second := by
  have hrun : ∀ c ∈ second.reverse, decide (c ≠ '\n') = true := by
    intro c hc
    exact decide_eq_true fun heq => h (heq ▸ List.mem_reverse.mp hc)
  rw [lastLine, List.reverse_append, List.takeWhile_append_of_pos hrun, List.reverse_append,
    List.reverse_reverse, lastLine]

/-- A text without an LF is its last line. -/
theorem lastLine_of_not_mem {text : List Char} (h : '\n' ∉ text) : lastLine text = text := by
  simpa [lastLine] using lastLine_append_of_not_mem [] h

/-! ## Offsets -/

/-- The lines of a text, each with an LF, are the text with an LF at its end. -/
theorem flatMap_splitLines (text : List Char) :
    (splitLines text).flatMap (· ++ ['\n']) = text ++ ['\n'] := by
  induction text with
  | nil => rfl
  | cons c rest ih =>
    rw [splitLines]
    split
    · next hc => rw [List.flatMap_cons, ih, hc]; rfl
    · cases hlines : splitLines rest with
      | nil => exact absurd hlines (splitLines_ne_nil rest)
      | cons line lines =>
        rw [hlines, List.flatMap_cons] at ih
        rw [List.flatMap_cons, List.cons_append, List.cons_append, ih, List.cons_append]

/-- **The offset of the place behind a text** is the length of that text. -/
theorem offset_append (before behind : List Char) :
    offset (before ++ behind) (before.count '\n') (lastLine before).length = before.length := by
  obtain ⟨hnone, hlast⟩ | ⟨above, line, habove, hlast, hnone⟩ := lastLine_cases before
  · rw [offset, hlast, List.count_eq_zero.mpr hnone]
    simp
  · -- the lines above are those of the text above the last LF
    have hcount : before.count '\n' = (splitLines above).length := by
      rw [length_splitLines, habove, List.count_append, List.count_cons_self,
        List.count_eq_zero.mpr hnone]
    rw [offset, hcount, hlast, habove, List.append_assoc, List.cons_append,
      splitLines_append_lf, List.take_left, flatMap_splitLines, List.length_append,
      List.length_append, List.length_singleton, List.length_cons]
    omega

/-- **Every place of a text is behind some text**, whose length is its offset. -/
theorem HasPlace.exists_front {text : List Char} {n m : Nat} (h : HasPlace text n m) :
    ∃ before behind, text = before ++ behind ∧ before.count '\n' = n ∧
      (lastLine before).length = m ∧ offset text n m = before.length := by
  -- the offset is known once the text in front is
  suffices hfront : ∃ before behind, text = before ++ behind ∧ before.count '\n' = n ∧
      (lastLine before).length = m by
    obtain ⟨before, behind, rfl, rfl, rfl⟩ := hfront
    exact ⟨before, behind, rfl, rfl, rfl, offset_append before behind⟩
  obtain ⟨line, hline, hm⟩ := h
  induction n generalizing text with
  | zero =>
    rw [← List.head?_eq_getElem?, head?_splitLines] at hline
    obtain rfl := Option.some.inj hline
    obtain ⟨behind, hbehind⟩ := List.takeWhile_prefix (· ≠ '\n') (l := text)
    have hnone : '\n' ∉ (firstLine text).take m := by
      intro hmem
      simpa using List.mem_takeWhile_imp (List.mem_of_mem_take hmem)
    refine ⟨(firstLine text).take m, (firstLine text).drop m ++ behind, ?_, ?_, ?_⟩
    · rw [← List.append_assoc, List.take_append_drop]
      exact hbehind.symm
    · exact List.count_eq_zero.mpr hnone
    · rw [lastLine_of_not_mem hnone, List.length_take_of_le hm]
  | succ n ih =>
    by_cases hmem : '\n' ∈ text
    · -- the line is one of those behind the first LF
      obtain ⟨first, rest, rfl, hfirst⟩ := List.eq_append_cons_of_mem hmem
      rw [splitLines_append_lf, splitLines_of_not_mem hfirst, List.singleton_append,
        List.getElem?_cons_succ] at hline
      obtain ⟨before, behind, rfl, hcount, hlength⟩ := ih hline
      refine ⟨first ++ '\n' :: before, behind, by simp, ?_, ?_⟩
      · rw [List.count_append, List.count_eq_zero.mpr hfirst, List.count_cons_self, hcount,
          Nat.zero_add]
      · rw [lastLine_append_lf, hlength]
    · rw [splitLines_of_not_mem hmem] at hline
      simp at hline

/-- **A place within its line is within the text.** -/
theorem offset_lt_length {text line : List Char} {n m : Nat}
    (hline : (splitLines text)[n]? = some line) (hm : m < line.length) :
    offset text n m < text.length := by
  have hplace : HasPlace text n m := ⟨line, hline, Nat.le_of_lt hm⟩
  obtain ⟨before, behind, rfl, rfl, rfl, hoffset⟩ := hplace.exists_front
  rw [getElem?_splitLines_append] at hline
  obtain rfl := Option.some.inj hline
  have hprefix := (List.takeWhile_prefix (· ≠ '\n') (l := behind)).length_le
  rw [hoffset, List.length_append]
  rw [List.length_append, firstLine] at hm
  omega

end Lox.Text
