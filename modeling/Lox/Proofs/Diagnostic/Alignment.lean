import Lox.Proofs.Diagnostic.Snippet

/-!
# The columns of marks

Below a source line the mark of a label stands in a row of its own. The row of the line starts with
the number of the line, filled up to three places, and the row of the mark with blanks in its place.
These are one blank short: the gutter of the mark is five characters wide, and that of the line six,
or more if the number has more than three digits. So a mark stands left of the character that its
label names, by one column at least.

## Main definitions

* `Label.StandsLeft`: how far the mark of a label stands left of the character it marks
* `Diagnostic.rowsAbove`: the rows above those of a label

## Main results

* `Label.StandsLeft.unique`: a mark stands in one column
* `Diagnostic.render_standsLeft_iff`: how far the marks of a rendered diagnostic stand left
* `Diagnostic.render_not_standsLeft_zero`: the mark behind the end of a line stands below its last
  character
-/

namespace Lox

/-- **The mark of a label stands `shift` columns left of the character it marks.** In the text,
below `above`, a row has the source line behind a gutter, and the next row has the mark as its first
one. -/
def Label.StandsLeft (label : Label) (shift : Int) (above line text : List Char) : Prop :=
  ∃ gutter lead below,
    text = above ++ (gutter ++ line ++ '\n' :: (lead ++ (Diagnostic.mark label).toList ++ below)) ∧
      '\n' ∉ gutter ++ line ∧ (∀ c ∈ lead, c ≠ '\n' ∧ c ≠ '^' ∧ c ≠ '-') ∧
      lead.length + shift = gutter.length + (label.span.start - 1)

/-- A character is found in one place, if it does not stand in front of it. -/
theorem append_cons_inj_of_not_mem {c : Char} {front front' back back' : List Char}
    (hfront : c ∉ front) (hfront' : c ∉ front')
    (h : front ++ c :: back = front' ++ c :: back') : front = front' ∧ back = back' := by
  induction front generalizing front' with
  | nil =>
    cases front' with
    | nil => exact ⟨rfl, (List.cons.inj h).2⟩
    | cons d front' => exact absurd (List.cons.inj h).1 (List.ne_of_not_mem_cons hfront')
  | cons d front ih =>
    cases front' with
    | nil => exact absurd (List.cons.inj h).1.symm (List.ne_of_not_mem_cons hfront)
    | cons d' front' =>
      obtain ⟨rfl, htail⟩ := List.cons.inj h
      obtain ⟨rfl, hback⟩ := ih (List.not_mem_of_not_mem_cons hfront)
        (List.not_mem_of_not_mem_cons hfront') htail
      exact ⟨rfl, hback⟩

namespace Diagnostic

/-! ## Gutters -/

/-- A mark starts with one of its two characters. -/
theorem exists_mark (label : Label) :
    ∃ c tail, (mark label).toList = c :: tail ∧ (c = '^' ∨ c = '-') := by
  have hlength : label.span.length ≠ 0 := by
    rw [Span.length]
    omega
  obtain ⟨n, hn⟩ := Nat.exists_eq_succ_of_ne_zero hlength
  rw [mark, String.toList_append, String.toList_ofList, hn, List.replicate_succ, List.cons_append]
  refine ⟨_, _, rfl, ?_⟩
  cases label.primary <;> simp

end Diagnostic

/-- **A mark stands in one column.** -/
theorem Label.StandsLeft.unique {label : Label} {shift shift' : Int}
    {above line text : List Char} (h : label.StandsLeft shift above line text)
    (h' : label.StandsLeft shift' above line text) : shift = shift' := by
  obtain ⟨gutter, lead, below, htext, hrow, hlead, hshift⟩ := h
  obtain ⟨gutter', lead', below', htext', hrow', hlead', hshift'⟩ := h'
  obtain ⟨hgutter, hbelow⟩ := append_cons_inj_of_not_mem hrow hrow'
    (List.append_cancel_left (htext.symm.trans htext'))
  obtain rfl := List.append_cancel_right hgutter
  obtain ⟨c, tail, hmark, hc⟩ := Diagnostic.exists_mark label
  have hfirst : ∀ {lead : List Char}, (∀ c ∈ lead, c ≠ '\n' ∧ c ≠ '^' ∧ c ≠ '-') → c ∉ lead := by
    intro lead hlead hmem
    obtain ⟨-, hcaret, hdash⟩ := hlead c hmem
    exact hc.elim hcaret hdash
  rw [hmark, List.append_assoc, List.append_assoc, List.cons_append] at hbelow
  obtain ⟨rfl, -⟩ := append_cons_inj_of_not_mem (hfirst hlead) (hfirst hlead') hbelow
  omega

namespace Diagnostic

/-- The number of digits of a line number, and of the sign if it has one. -/
def numberWidth (line : Int) : Nat :=
  (toString line).length

/-- What stands in front of a source line in its row. -/
def lineGutter (line : Int) : List Char :=
  (numberGutter line).text.toList ++ [' ']

/-- What stands in front of a mark in its row. -/
def markLead (label : Label) : List Char :=
  "   | ".toList ++ List.replicate (label.span.start - 1).toNat ' '

theorem length_lineGutter (line : Int) : (lineGutter line).length = max 3 (numberWidth line) + 3 := by
  have hbar : " |".length = 2 := rfl
  simp only [lineGutter, numberGutter, numberWidth, String.toList_append, String.toList_ofList,
    List.length_append, List.length_replicate, String.length_toList, List.length_singleton, hbar]
  omega

theorem length_markLead (label : Label) :
    (markLead label).length = 5 + (label.span.start - 1).toNat := by
  rw [markLead, List.length_append, List.length_replicate]
  rfl

theorem not_mem_lineGutter {line : Int} (h : 1 ≤ line) : '\n' ∉ lineGutter line := by
  obtain ⟨n, rfl⟩ := Int.eq_ofNat_of_zero_le (show 0 ≤ line by omega)
  have hdigits : '\n' ∉ (Int.repr n).toList := by
    intro hmem
    rw [show Int.repr n = n.repr from rfl, Nat.toList_repr] at hmem
    exact absurd (Nat.isDigit_of_mem_toDigits (by decide) (by decide) hmem) (by decide)
  simp [lineGutter, numberGutter, hdigits]

theorem not_mem_markLead (label : Label) :
    ∀ c ∈ markLead label, c ≠ '\n' ∧ c ≠ '^' ∧ c ≠ '-' := by
  have hgutter : ∀ c ∈ "   | ".toList, c ≠ '\n' ∧ c ≠ '^' ∧ c ≠ '-' := by simp
  intro c hc
  rcases List.mem_append.mp hc with hmem | hblank
  · exact hgutter c hmem
  · rw [List.eq_of_mem_replicate hblank]
    decide

/-! ## Rows -/

/-- Without colour a row is the texts of its fragments. -/
theorem toList_draw (row : List Fragment) :
    (draw false row).toList = row.flatMap (·.text.toList) := by
  rw [draw, String.toList_join, List.flatMap_map]
  rfl

theorem toList_draw_line (number : Int) (line : List Char) :
    (draw false [numberGutter number, .plain (" " ++ String.ofList line)]).toList =
      lineGutter number ++ line := by
  simp [toList_draw, lineGutter, Fragment.plain]

theorem toList_draw_markRow (level : Level) (label : Label) :
    (draw false (markRow level label)).toList = markLead label ++ (mark label).toList := by
  simp [toList_draw, markRow, markLead, blankGutter, Fragment.plain]

/-- The text of rows, each with an LF at its end. -/
def drawn (rows : List (List Fragment)) : List Char :=
  rows.flatMap fun row => (draw false row).toList ++ ['\n']

@[simp] theorem drawn_nil : drawn [] = [] := rfl

@[simp] theorem drawn_cons (row : List Fragment) (rows : List (List Fragment)) :
    drawn (row :: rows) = (draw false row).toList ++ '\n' :: drawn rows := by
  simp [drawn]

theorem toList_intercalate_append (above : List (List Fragment)) {below : List (List Fragment)}
    (h : below ≠ []) :
    (String.intercalate "\n" ((above ++ below).map (draw false))).toList =
      drawn above ++ (String.intercalate "\n" (below.map (draw false))).toList := by
  induction above with
  | nil => rfl
  | cons row above ih =>
    have hne : (above ++ below).map (draw false) ≠ [] := by simp [h]
    rw [List.cons_append, List.map_cons, String.intercalate_cons_of_ne_nil hne,
      String.toList_append, String.toList_append, ih, drawn_cons, List.append_assoc,
      List.append_assoc]
    rfl

/-- The rows above those of a label, where `front` are the labels in front of it. -/
def rowsAbove (diagnostic : Diagnostic) (source : String) (front : List Label) :
    List (List Fragment) :=
  diagnostic.titleRow :: (anchor? diagnostic.labels).toList.map placeRow ++
    blankGutter :: front.flatMap (labelRows diagnostic.level (Text.breakLines source.toList))

/-- The rows of a diagnostic are those above a label, those of the label, and some below. -/
theorem exists_rows {diagnostic : Diagnostic} {front back : List Label} {label : Label}
    (hlabels : diagnostic.labels = front ++ label :: back) (source : String) :
    ∃ below, below ≠ [] ∧ diagnostic.rows source = diagnostic.rowsAbove source front ++
      (labelRows diagnostic.level (Text.breakLines source.toList) label ++ below) := by
  obtain ⟨anchor, hanchor⟩ : ∃ anchor, anchor? diagnostic.labels = some anchor := by
    rw [← Option.isSome_iff_exists, anchor?, hlabels]
    simp
  refine ⟨back.flatMap (labelRows diagnostic.level (Text.breakLines source.toList)) ++
    blankGutter :: diagnostic.notes.map noteRow, by simp, ?_⟩
  rw [rows, sourceRows, rowsAbove, hanchor, hlabels]
  simp [placeRow]

theorem sourceLine?_eq_some {lines : List (List Char)} {number : Int} {line : List Char}
    (h : sourceLine? lines number = some line) : 1 ≤ number ∧ line ∈ lines := by
  rw [sourceLine?] at h
  split at h
  · cases h
  · exact ⟨by omega, List.mem_of_getElem? h⟩

/-! ## Marks of a rendered diagnostic -/

section Marks

variable {diagnostic : Diagnostic} {source : String} {front back : List Label} {label : Label}
  {line : List Char}

/-- The row of a mark has a gutter of five characters, and the row above it one of six, or of more
if the number needs more than three places. -/
theorem render_standsLeft (hlabels : diagnostic.labels = front ++ label :: back)
    (hline : sourceLine? (Text.breakLines source.toList) label.span.line = some line)
    (hstart : 1 ≤ label.span.start) :
    label.StandsLeft (max 3 (numberWidth label.span.line) - 2)
      (drawn (diagnostic.rowsAbove source front)) line
      (diagnostic.render source false).toList := by
  obtain ⟨below, hne, hrows⟩ := exists_rows hlabels source
  obtain ⟨hnumber, hmem⟩ := sourceLine?_eq_some hline
  have hlabel : labelRows diagnostic.level (Text.breakLines source.toList) label =
      [[numberGutter label.span.line, .plain (" " ++ String.ofList line)],
        markRow diagnostic.level label] := by
    rw [labelRows, hline]
  rw [hlabel] at hrows
  have htext : (diagnostic.render source false).toList =
      drawn (diagnostic.rowsAbove source front) ++
        (lineGutter label.span.line ++ line ++ '\n' :: (markLead label ++ (mark label).toList ++
          '\n' :: (String.intercalate "\n" (below.map (draw false))).toList)) := by
    rw [render, hrows, toList_intercalate_append _ (by simp), toList_intercalate_append _ hne,
      drawn_cons, drawn_cons, toList_draw_line, toList_draw_markRow]
    simp
  refine ⟨_, _, _, htext, ?_, not_mem_markLead label, ?_⟩
  · have hplain := Text.isLineBoundary_of_mem_breakLines hmem
    have hlf : '\n' ∉ line := fun hmem => absurd (hplain '\n' hmem) (by decide)
    simp [not_mem_lineGutter hnumber, hlf]
  · rw [length_markLead, length_lineGutter]
    omega

/-- **How far the marks of a rendered diagnostic stand left** of the characters that they mark: by
one column in the lines up to 999, and by one more for each further digit. -/
theorem render_standsLeft_iff (hlabels : diagnostic.labels = front ++ label :: back)
    (hline : sourceLine? (Text.breakLines source.toList) label.span.line = some line)
    (hstart : 1 ≤ label.span.start) (shift : Int) :
    label.StandsLeft shift (drawn (diagnostic.rowsAbove source front)) line
        (diagnostic.render source false).toList ↔
      shift = max 3 (numberWidth label.span.line) - 2 := by
  constructor
  · intro h
    exact h.unique (render_standsLeft hlabels hline hstart)
  · rintro rfl
    exact render_standsLeft hlabels hline hstart

end Marks

/-- The second of two labels, each in a line of its own. -/
theorem render_standsLeft_iff_second_label :
    let opened : Label := ⟨⟨1, 1, 2, "a.lox"⟩, "opened here", false⟩
    let missing : Label := ⟨⟨2, 4, 5, "a.lox"⟩, "at end", true⟩
    let diagnostic : Diagnostic :=
      ⟨"E0202", .error, "Expected ')' after expression.", [opened, missing], []⟩
    sourceLine? (Text.breakLines "(1\n+ 2".toList) 2 = some "+ 2".toList ∧
      missing.StandsLeft 1 (drawn (diagnostic.rowsAbove "(1\n+ 2" [opened])) "+ 2".toList
        (diagnostic.render "(1\n+ 2" false).toList := by
  intro opened missing diagnostic
  have hline : sourceLine? (Text.breakLines "(1\n+ 2".toList) missing.span.line =
      some "+ 2".toList := by decide
  have hlabels : diagnostic.labels = [opened] ++ missing :: [] := rfl
  exact ⟨hline, (render_standsLeft_iff hlabels hline (by decide) 1).mpr (by decide)⟩

/-- **A mark behind the end of a line** stands below the last character of the line: where the
parenthesis is missing, the caret points to the number in front. -/
theorem render_not_standsLeft_zero :
    let failure :=
      Failure.parse "Expected ')' after expression." (.endOfText ⟨1, 7, 6, some "example.lox"⟩)
    let diagnostic := Diagnostic.ofFailure failure (some "example.lox")
    let label : Label := ⟨⟨1, 7, 8, "example.lox"⟩, "at end", true⟩
    (run "(1 + 2" (some "example.lox")).outcome.failure? = some failure ∧
      diagnostic.labels = [label] ∧
      sourceLine? (Text.breakLines "(1 + 2".toList) 1 = some "(1 + 2".toList ∧
      ¬ label.StandsLeft 0 (drawn (diagnostic.rowsAbove "(1 + 2" [])) "(1 + 2".toList
        (diagnostic.render "(1 + 2" false).toList ∧
      diagnostic.render "(1 + 2" false =
        "error[E0202]: Expected ')' after expression.\n  --> example.lox:1:7\n   |\n" ++
        "  1 | (1 + 2\n   |       ^ at end\n   |\n   = note: parse error" := by
  intro failure diagnostic label
  have hscan : tokensOf "(1 + 2" (some "example.lox") =
      .ok [.ofLexeme .leftParen ['('] ⟨1, 1, 0, some "example.lox"⟩,
        .ofLexeme .number ['1'] ⟨1, 2, 1, some "example.lox"⟩,
        .ofLexeme .plus ['+'] ⟨1, 4, 3, some "example.lox"⟩,
        .ofLexeme .number ['2'] ⟨1, 6, 5, some "example.lox"⟩,
        .endOfText ⟨1, 7, 6, some "example.lox"⟩] :=
    tokensOf_eq_scanWithin _ _
  have hfail : (run "(1 + 2" (some "example.lox")).outcome.failure? = some failure := by
    rw [run, hscan]
    rfl
  have hlabels : diagnostic.labels = [] ++ label :: [] := rfl
  have hline : sourceLine? (Text.breakLines "(1 + 2".toList) label.span.line =
      some "(1 + 2".toList := by decide
  refine ⟨hfail, hlabels, hline, fun hzero => ?_, by decide +kernel⟩
  have hshift := hzero.unique (render_standsLeft hlabels hline (by decide))
  revert hshift
  decide

end Diagnostic

end Lox
