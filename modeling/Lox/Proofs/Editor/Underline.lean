import Lox.Proofs.Run.Marking

/-!
# Marks of diagnostics and ranges in the editor

A failure is marked twice: by the span of its diagnostic and by the range of its marker in the
editor. Both start at the location of the failure. The range ends with the first line of the lexeme
that failed, while the span is as long as all of the lexeme. They cover the same characters, and the
span stays in its line, as long as the lexeme has one line. A text in quotes may have more.

## Main definitions

* `Span.range`: the columns of a span, counted as in an editor
* `LineRange.StaysIn`: the range is one of characters in a line, or the place behind the end
* `Failure.InOneLine`: the lexeme that failed has one line

## Main results

* `LineRange.staysIn_iff`: how far a range may go on from the end of a text
* `run_failure_label_iff`: mark and range of a failed run
* `run_failure_label_leaves_line`: a mark beyond the end of its line
-/

namespace Lox

/-! ## Ranges in a text -/

/-- The columns of a span, counted from zero. -/
def Span.range (span : Span) : LineRange where
  line := span.line - 1
  start := span.start - 1
  stop := span.start - 1 + span.length

theorem Span.length_ofColumn (line column : Int) (length : Nat) (file : String) :
    (Span.ofColumn line column length file).length = max 1 length := by
  simp only [Span.length, Span.ofColumn]
  omega

namespace LineRange

/-- The range of `length` characters from the end of the text `before` on. -/
def onward (before : List Char) (length : Nat) : LineRange where
  line := before.count '\n'
  start := (Text.lastLine before).length
  stop := (Text.lastLine before).length + length

theorem at_endOf (file : Option String) (before : List Char) (length : Nat) :
    LineRange.at (Location.endOf file before).line (Location.endOf file before).column length =
      onward before length := by
  simp only [LineRange.at, onward, Location.endOf, Text.lastLine, List.length_reverse,
    LineRange.mk.injEq]
  omega

theorem range_ofColumn (file : Option String) (before : List Char) (length : Nat) (name : String) :
    (Span.ofColumn (Location.endOf file before).line (Location.endOf file before).column length
      name).range = onward before (max 1 length) := by
  rw [Span.range, Span.length_ofColumn]
  simp only [Span.ofColumn, onward, Location.endOf, Text.lastLine, List.length_reverse,
    LineRange.mk.injEq]
  omega

/-- **The range stays in a line of the text**: it covers characters of the line, or it is the one
place behind the end of the text. -/
def StaysIn (text : List Char) (range : LineRange) : Prop :=
  range = onward text 1 ∨
    ∃ (n : Nat) (line : List Char), (Text.splitLines text)[n]? = some line ∧ range.line = n ∧
      0 ≤ range.start ∧ range.start < range.stop ∧ range.stop ≤ line.length

/-- **A range may go on to the next LF**, and by one character at the end of the text. -/
theorem staysIn_iff {before behind : List Char} {length : Nat} :
    (onward before length).StaysIn (before ++ behind) ↔
      behind = [] ∧ length = 1 ∨
        0 < length ∧ length ≤ (Text.firstLine behind).length := by
  have hline := Text.getElem?_splitLines_append before behind
  constructor
  · rintro (hlast | ⟨n, line, hget, hn, -, hlt, hle⟩)
    · -- the end of the text, in a line that begins in `before`
      left
      simp only [onward, LineRange.mk.injEq] at hlast
      obtain ⟨hcount, hstart, hstop⟩ := hlast
      have hend := Text.getElem?_splitLines_count (before ++ behind)
      rw [← Int.ofNat_inj.mp hcount, hline] at hend
      have hlength := congrArg List.length (Option.some.inj hend)
      rw [List.length_append] at hlength
      have hnone : '\n' ∉ behind := by
        rw [← List.count_eq_zero]
        rw [List.count_append] at hcount
        omega
      rw [Text.firstLine_of_not_mem hnone] at hlength
      exact ⟨List.length_eq_zero_iff.mp (by omega), by omega⟩
    · right
      simp only [onward] at hn hlt hle
      rw [← Int.ofNat_inj.mp hn, hline] at hget
      have hlength := congrArg List.length (Option.some.inj hget)
      rw [List.length_append] at hlength
      omega
  · rintro (⟨rfl, rfl⟩ | ⟨hpos, hle⟩)
    · exact .inl (by rw [List.append_nil])
    · refine .inr ⟨_, _, hline, rfl, ?_⟩
      simp only [onward, List.length_append]
      omega

end LineRange

/-! ## The two marks of a failure -/

/-- **The lexeme that failed has one line**, if there is one. -/
def Failure.InOneLine (failure : Failure) : Prop :=
  ∀ token, failure.token? = some token → '\n' ∉ token.lexemeText.toList

namespace Failure.Marks

variable {file : Option String} {failure : Failure} {before marked behind : List Char}

theorem inOneLine_iff (h : failure.Marks file before marked behind) :
    failure.InOneLine ↔ '\n' ∉ marked := by
  unfold Failure.InOneLine
  cases htoken : failure.token? with
  | none =>
    obtain ⟨c, rfl⟩ := h.character htoken
    simpa [eq_comm] using h.head
  | some token => simp [h.lexeme token htoken]

/-- The label of the diagnostic: it starts behind the text before, and covers all of the piece. -/
theorem label (h : failure.Marks file before marked behind) (name : Option String) :
    ∃ label, (Diagnostic.ofFailure failure name).labels = [label] ∧ label.primary = true ∧
      label.span.length = max 1 marked.length ∧
      label.span.range = .onward before (max 1 marked.length) := by
  rw [Diagnostic.ofFailure, Failure.span?, h.location]
  refine ⟨_, rfl, rfl, ?_, ?_⟩
  · rw [Span.length_ofColumn, h.markLength]
    omega
  · rw [LineRange.range_ofColumn, h.markLength]
    congr 1
    omega

/-- The piece has one line, or an LF behind a first line that is not empty. -/
theorem cases_lines (h : failure.Marks file before marked behind) :
    '\n' ∉ marked ∨
      ∃ first rest, marked = first ++ '\n' :: rest ∧ first ≠ [] ∧ '\n' ∉ first := by
  by_cases hmem : '\n' ∈ marked
  · obtain ⟨first, rest, rfl, hfirst⟩ := List.eq_append_cons_of_mem hmem
    refine .inr ⟨first, rest, rfl, ?_, hfirst⟩
    rintro rfl
    exact h.head rfl
  · exact .inl hmem

/-- **The range in the editor stays in its line.** -/
theorem range_staysIn (h : failure.Marks file before marked behind) :
    failure.range.StaysIn (before ++ (marked ++ behind)) := by
  rw [h.range, LineRange.at_endOf, LineRange.staysIn_iff]
  obtain hnone | ⟨first, rest, rfl, hne, hfirst⟩ := h.cases_lines
  · rw [Text.firstLine_of_not_mem hnone, Text.firstLine_append_of_not_mem hnone, List.length_append]
    by_cases hempty : marked = []
    · exact .inl ⟨by rw [hempty, h.ends hempty]; rfl, by simp [hempty]⟩
    · have hpos := List.length_pos_iff.mpr hempty
      exact .inr (by omega)
  · rw [List.append_assoc, List.cons_append, Text.firstLine_append_lf hfirst,
      Text.firstLine_append_lf hfirst]
    have hpos := List.length_pos_iff.mpr hne
    exact .inr (by omega)

/-- **The mark is the range exactly for a piece of one line**, and in no other case does it stay in
its line. -/
theorem onward_iff (h : failure.Marks file before marked behind) :
    (max 1 marked.length = max 1 (Text.firstLine marked).length ↔ '\n' ∉ marked) ∧
      ((LineRange.onward before (max 1 marked.length)).StaysIn (before ++ (marked ++ behind)) ↔
        '\n' ∉ marked) := by
  obtain hnone | ⟨first, rest, rfl, hne, hfirst⟩ := h.cases_lines
  · have hrange := h.range_staysIn
    rw [h.range, LineRange.at_endOf, Text.firstLine_of_not_mem hnone] at hrange
    rw [Text.firstLine_of_not_mem hnone]
    exact ⟨iff_of_true rfl hnone, iff_of_true hrange hnone⟩
  · have hmem : ¬ '\n' ∉ first ++ '\n' :: rest := by simp
    have hpos := List.length_pos_iff.mpr hne
    refine ⟨iff_of_false ?_ hmem, iff_of_false ?_ hmem⟩
    · rw [Text.firstLine_append_lf hfirst, List.length_append, List.length_cons]
      omega
    · rw [LineRange.staysIn_iff, List.append_assoc, List.cons_append,
        Text.firstLine_append_lf hfirst, List.length_append, List.length_cons]
      rintro (⟨hnil, -⟩ | ⟨-, hle⟩)
      · simp at hnil
      · omega

end Failure.Marks

/-! ## The marks of a failed run -/

/-- **Mark and range of a failed run.** The diagnostic has one label, which starts where the range
in the editor does, and the range stays in its line. The mark is as long as the range, and stays in its
line, if and only if the lexeme that failed has one line. -/
theorem run_failure_label_iff {source : String} {file : Option String} {failure : Failure}
    (hfail : (run source file).outcome.failure? = some failure) (name : Option String) :
    ∃ label, (Diagnostic.ofFailure failure name).labels = [label] ∧ label.primary = true ∧
      label.span.line - 1 = failure.marker.range.line ∧
      label.span.start - 1 = failure.marker.range.start ∧
      failure.marker.range.StaysIn source.toList ∧
      ((label.span.length : Int) = failure.marker.range.stop - failure.marker.range.start ↔
        failure.InOneLine) ∧
      (label.span.range.StaysIn source.toList ↔ failure.InOneLine) := by
  obtain ⟨before, marked, behind, htext, hmarks⟩ := run_failure_marks hfail
  obtain ⟨label, hlabels, hprimary, hlength, hspan⟩ := hmarks.label name
  have hrange : failure.marker.range = .onward before (max 1 (Text.firstLine marked).length) :=
    hmarks.range.trans (LineRange.at_endOf file before _)
  obtain ⟨hsame, hstays⟩ := hmarks.onward_iff
  refine ⟨label, hlabels, hprimary, ?_, ?_, ?_, ?_, ?_⟩
  · exact (congrArg LineRange.line hspan).trans (congrArg LineRange.line hrange).symm
  · exact (congrArg LineRange.start hspan).trans (congrArg LineRange.start hrange).symm
  · rw [htext]
    exact hmarks.range_staysIn
  · rw [hmarks.inOneLine_iff, ← hsame, hlength, hrange]
    simp only [LineRange.onward]
    omega
  · rw [hmarks.inOneLine_iff, ← hstays, hspan, htext]

/-- An error at a text in quotes, below a line of its own. -/
theorem run_failure_label_iff_quotes :
    let failure := Failure.parse "Expected ')' after expression."
      ⟨.string, some "\"b\"", .text "b", ⟨2, 2, 4, none⟩⟩
    (run "(1\n \"b\"" none).outcome.failure? = some failure ∧ failure.InOneLine ∧
      ∃ label, (Diagnostic.ofFailure failure none).labels = [label] ∧
        label.span.length = 3 ∧ label.span.range.StaysIn "(1\n \"b\"".toList := by
  intro failure
  have hscan : tokensOf "(1\n \"b\"" none =
      .ok [.ofLexeme .leftParen ['('] ⟨1, 1, 0, none⟩, .ofLexeme .number ['1'] ⟨1, 2, 1, none⟩,
        ⟨.string, some "\"b\"", .text "b", ⟨2, 2, 4, none⟩⟩, .endOfText ⟨2, 5, 7, none⟩] :=
    tokensOf_eq_scanWithin _ _
  have hfail : (run "(1\n \"b\"" none).outcome.failure? = some failure := by
    rw [run, hscan]
    rfl
  have hline : failure.InOneLine := by
    rintro _ ⟨⟩
    decide
  obtain ⟨label, hlabels, -, -, -, -, hlength, hstays⟩ := run_failure_label_iff hfail none
  have hthree : (label.span.length : Int) = 4 - 1 := hlength.mpr hline
  exact ⟨hfail, hline, label, hlabels, by omega, hstays.mpr hline⟩

/-- **A mark beyond the end of its line**: a text in quotes that holds an LF is marked by as many
characters as it has, three in all, and its line ends behind the first of them. -/
theorem run_failure_label_leaves_line :
    let failure := Failure.parse "Expected ')' after expression."
      ⟨.string, some "\"\n\"", .text "\n", ⟨1, 4, 3, none⟩⟩
    let label : Label := ⟨⟨1, 4, 7, "<input>"⟩, "at '\"\n\"'", true⟩
    (run "(1 \"\n\"" none).outcome.failure? = some failure ∧
      (Diagnostic.ofFailure failure none).labels = [label] ∧ label.span.length = 3 ∧
      failure.marker.range = ⟨0, 3, 4⟩ ∧ label.span.range = ⟨0, 3, 6⟩ ∧
      (Text.splitLines "(1 \"\n\"".toList)[0]? = some "(1 \"".toList ∧
      ¬ label.span.range.StaysIn "(1 \"\n\"".toList := by
  intro failure label
  have hscan : tokensOf "(1 \"\n\"" none =
      .ok [.ofLexeme .leftParen ['('] ⟨1, 1, 0, none⟩, .ofLexeme .number ['1'] ⟨1, 2, 1, none⟩,
        ⟨.string, some "\"\n\"", .text "\n", ⟨1, 4, 3, none⟩⟩,
        .endOfText ⟨2, 2, 6, none⟩] :=
    tokensOf_eq_scanWithin _ _
  have hfail : (run "(1 \"\n\"" none).outcome.failure? = some failure := by
    rw [run, hscan]
    rfl
  have hlines : (Text.splitLines "(1 \"\n\"".toList)[0]? = some "(1 \"".toList := by decide
  refine ⟨hfail, rfl, rfl, rfl, rfl, hlines, ?_⟩
  rintro (hlast | ⟨n, line, hget, hn, -, -, hle⟩)
  · revert hlast
    decide
  · obtain rfl : n = 0 := by
      simpa [Span.range, label] using hn.symm
    obtain rfl := Option.some.inj (hget.symm.trans hlines)
    revert hle
    decide

end Lox
