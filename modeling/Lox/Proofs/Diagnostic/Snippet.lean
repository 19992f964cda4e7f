import Lox.Diagnostic.Render
import Lox.Proofs.Run.Marking
import Lox.Proofs.Text.Breaks
import Lox.Proofs.Token.Bounded

/-!
# The source line of a diagnostic

The diagnostic of a failed run shows one line of the text: the one with the number of the failure,
by the rule that cuts a text at every line boundary. The scanner has counted LF characters only. The
line that is shown is the line of the failure, therefore, as long as no other boundary stands above
it or in it. A boundary in a comment or a string above makes it another one. At the end of a text
that ends in an LF no line is shown.

## Main definitions

* `Diagnostic.framed`: the rows of a diagnostic around those that show the source
* `Failure.ShowsLine`: the diagnostic of a failure shows the line of the failure

## Main results

* `Failure.Marks.rows_ofFailure`: the rows of the diagnostic of a failure
* `run_failure_showsLine_iff`: below plain lines the line of the failure is shown, unless it is the
  empty one at the end
* `run_failure_shows_other_line`: a form feed above makes it another line
-/

namespace Lox

namespace Diagnostic

/-- The row that names the place of a label. -/
def placeRow (label : Label) : List Fragment :=
  [.plain "  ", ⟨[.blue], "-->"⟩, .plain (" " ++ label.span.text)]

/-- The rows of a diagnostic with one label, around the rows that show the source. -/
def framed (diagnostic : Diagnostic) (label : Label) (shown : List (List Fragment)) :
    List (List Fragment) :=
  [diagnostic.titleRow, placeRow label, blankGutter] ++ shown ++
    blankGutter :: diagnostic.notes.map noteRow

theorem length_framed (diagnostic : Diagnostic) (label : Label) (shown : List (List Fragment)) :
    (diagnostic.framed label shown).length = 4 + shown.length + diagnostic.notes.length := by
  simp only [framed, List.length_append, List.length_cons, List.length_nil, List.length_map]
  omega

theorem rows_eq_framed {diagnostic : Diagnostic} {label : Label}
    (h : diagnostic.labels = [label]) (source : String) :
    diagnostic.rows source = diagnostic.framed label
      (labelRows diagnostic.level (Text.breakLines source.toList) label) := by
  have hanchor : anchor? diagnostic.labels = some label := by
    rw [h, anchor?]
    cases hprimary : label.primary <;> simp [hprimary]
  rw [rows, sourceRows, hanchor, h]
  simp [framed, placeRow]

end Diagnostic

/-- **The diagnostic of a failure shows the line of the failure**, and no other line: behind the
number stands the piece between LF characters that has this number, with or without a CR at its
end. -/
def Failure.ShowsLine (failure : Failure) (source : String) (file : Option String) : Prop :=
  let diagnostic := Diagnostic.ofFailure failure file
  ∃ label line shown,
    diagnostic.rows source = diagnostic.framed label
      [[Diagnostic.numberGutter failure.line, .plain (" " ++ String.ofList shown)],
        Diagnostic.markRow diagnostic.level label] ∧
    1 ≤ failure.line ∧ (Text.splitLines source.toList)[(failure.line - 1).toNat]? = some line ∧
    (line = shown ∨ line = shown ++ ['\r'])

/-- **The rows of the diagnostic of a failure**: the source is shown by the line that has the number
of the failure among the lines between boundaries, if there is one. -/
theorem Failure.Marks.rows_ofFailure {file : Option String} {failure : Failure}
    {before marked behind : List Char} (h : failure.Marks file before marked behind)
    (source : String) (name : Option String) :
    ∃ label, (Diagnostic.ofFailure failure name).rows source =
      (Diagnostic.ofFailure failure name).framed label
        ((Text.breakLines source.toList)[before.count '\n']?.toList.flatMap fun text =>
          [[Diagnostic.numberGutter failure.line, .plain (" " ++ String.ofList text)],
            Diagnostic.markRow .error label]) := by
  obtain ⟨label, hlabels, hline⟩ : ∃ label,
      (Diagnostic.ofFailure failure name).labels = [label] ∧ label.span.line = failure.line := by
    rw [Diagnostic.ofFailure, Failure.span?, Failure.line, h.location]
    exact ⟨_, rfl, rfl⟩
  have hsource (lines : List (List Char)) :
      Diagnostic.sourceLine? lines label.span.line = lines[before.count '\n']? := by
    rw [Diagnostic.sourceLine?, hline, h.line, if_neg (by omega)]
    congr 1
    omega
  refine ⟨label, (Diagnostic.rows_eq_framed hlabels source).trans ?_⟩
  rw [Diagnostic.labelRows, hsource, hline]
  cases (Text.breakLines source.toList)[before.count '\n']? <;> rfl

/-- **Down to the line of the failure only plain lines**: then the diagnostic of a failed run shows
the line of the failure, unless this is the empty line at the end of the text. -/
theorem run_failure_showsLine_iff {source : String} {file : Option String} {failure : Failure}
    (hfail : (run source file).outcome.failure? = some failure)
    (hplain : ∀ line ∈ (Text.splitLines source.toList).take failure.line.toNat, Text.IsPlain line)
    (name : Option String) :
    failure.ShowsLine source name ↔
      ¬ (failure.line = (Text.splitLines source.toList).length ∧
        Text.lastLine source.toList = []) := by
  obtain ⟨before, marked, behind, htext, hmarks⟩ := run_failure_marks hfail
  have hnumber := hmarks.line
  obtain ⟨label, hrows⟩ := hmarks.rows_ofFailure source name
  have hlength := Text.length_splitLines source.toList
  have hcount : source.toList.count '\n' = before.count '\n' + (marked ++ behind).count '\n' := by
    rw [htext, List.count_append]
  -- the line of the failure, by the rule of the scanner
  obtain ⟨line, hline⟩ : ∃ line,
      (Text.splitLines source.toList)[before.count '\n']? = some line :=
    ⟨_, List.getElem?_eq_getElem (by omega)⟩
  have hbreak := Text.getElem?_breakLines (n := before.count '\n')
    (by rwa [hnumber, show (1 + (before.count '\n' : Int)).toNat = before.count '\n' + 1 by omega]
      at hplain) hline
  -- it is the empty one at the end exactly if the other rule has no such line
  have hend : (line = [] ∧ before.count '\n' + 1 = (Text.splitLines source.toList).length) ↔
      (failure.line = (Text.splitLines source.toList).length ∧
        Text.lastLine source.toList = []) := by
    have hlast := Text.getElem?_splitLines_count source.toList
    constructor
    · rintro ⟨hempty, hlen⟩
      rw [show source.toList.count '\n' = before.count '\n' by omega, hline] at hlast
      exact ⟨by omega, (Option.some.inj hlast).symm.trans hempty⟩
    · rintro ⟨hlen, hempty⟩
      rw [show source.toList.count '\n' = before.count '\n' by omega, hline] at hlast
      exact ⟨(Option.some.inj hlast).trans hempty, by omega⟩
  rw [hbreak] at hrows
  rw [← hend]
  constructor
  · rintro ⟨label', line', shown, hshown, -⟩ hmissing
    -- without a line there are two rows less
    rw [if_pos hmissing] at hrows
    have hlengths := congrArg List.length (hrows.symm.trans hshown)
    rw [Diagnostic.length_framed, Diagnostic.length_framed] at hlengths
    simp at hlengths
  · intro hthere
    rw [if_neg hthere] at hrows
    refine ⟨label, line, Text.dropCr line, hrows, by omega, ?_, Text.eq_dropCr line⟩
    rwa [hnumber, show (1 + (before.count '\n' : Int) - 1).toNat = before.count '\n' by omega]

/-- A line that ends in CR and LF, an error on the next line, and below it a form feed. -/
theorem run_failure_showsLine_iff_closed_group :
    let failure :=
      Failure.parse "Expected expression." (.ofLexeme .rightParen [')'] ⟨2, 1, 6, none⟩)
    (run "(1 +\r\n) //\n//\x0c" none).outcome.failure? = some failure ∧
      (∀ line ∈ (Text.splitLines "(1 +\r\n) //\n//\x0c".toList).take failure.line.toNat,
        Text.IsPlain line) ∧
      failure.ShowsLine "(1 +\r\n) //\n//\x0c" none := by
  intro failure
  have hscan : tokensOf "(1 +\r\n) //\n//\x0c" none =
      .ok [.ofLexeme .leftParen ['('] ⟨1, 1, 0, none⟩, .ofLexeme .number ['1'] ⟨1, 2, 1, none⟩,
        .ofLexeme .plus ['+'] ⟨1, 4, 3, none⟩, .ofLexeme .rightParen [')'] ⟨2, 1, 6, none⟩,
        .endOfText ⟨3, 4, 14, none⟩] :=
    tokensOf_eq_scanWithin _ _
  have hfail : (run "(1 +\r\n) //\n//\x0c" none).outcome.failure? = some failure := by
    rw [run, hscan]
    rfl
  have hplain : ∀ line ∈ (Text.splitLines "(1 +\r\n) //\n//\x0c".toList).take failure.line.toNat,
      Text.IsPlain line := by decide
  exact ⟨hfail, hplain, (run_failure_showsLine_iff hfail hplain none).mpr (by decide)⟩

/-- **A form feed above the failure makes it another line**: the expression on the second line has
no second operand, and the second line is shown as `b`, the end of the comment above it. -/
theorem run_failure_shows_other_line :
    let failure := Failure.parse "Expected expression." (.endOfText ⟨2, 4, 10, none⟩)
    let diagnostic := Diagnostic.ofFailure failure none
    (run "// a\x0cb\n1 +" none).outcome.failure? = some failure ∧ failure.line = 2 ∧
      (Text.splitLines "// a\x0cb\n1 +".toList)[1]? = some "1 +".toList ∧
      (∃ label, diagnostic.rows "// a\x0cb\n1 +" = diagnostic.framed label
        [[Diagnostic.numberGutter 2, .plain " b"], Diagnostic.markRow .error label]) ∧
      ¬ failure.ShowsLine "// a\x0cb\n1 +" none := by
  intro failure diagnostic
  have hscan : tokensOf "// a\x0cb\n1 +" none =
      .ok [.ofLexeme .number ['1'] ⟨2, 1, 7, none⟩, .ofLexeme .plus ['+'] ⟨2, 3, 9, none⟩,
        .endOfText ⟨2, 4, 10, none⟩] :=
    tokensOf_eq_scanWithin _ _
  have hfail : (run "// a\x0cb\n1 +" none).outcome.failure? = some failure := by
    rw [run, hscan]
    rfl
  have hline : (Text.splitLines "// a\x0cb\n1 +".toList)[1]? = some "1 +".toList := by decide
  have hlabels : diagnostic.labels = [⟨⟨2, 4, 5, "<input>"⟩, "at end", true⟩] := rfl
  have hrows : diagnostic.rows "// a\x0cb\n1 +" =
      diagnostic.framed ⟨⟨2, 4, 5, "<input>"⟩, "at end", true⟩
        [[Diagnostic.numberGutter 2, .plain " b"],
          Diagnostic.markRow .error ⟨⟨2, 4, 5, "<input>"⟩, "at end", true⟩] :=
    Diagnostic.rows_eq_framed hlabels _
  refine ⟨hfail, rfl, hline, ⟨_, hrows⟩, ?_⟩
  rintro ⟨label, line, shown, hshown, -, hline', hcr⟩
  -- the row with the number is the fourth one
  have hrow : Fragment.plain " b" = .plain (" " ++ String.ofList shown) :=
    (List.cons.inj (List.cons.inj
      (Option.some.inj (congrArg (·[3]?) (hrows.symm.trans hshown)))).2).1
  have hb : shown = ['b'] := by
    have htext := congrArg (fun fragment => fragment.text.toList) hrow
    simpa [Fragment.plain] using htext.symm
  have hother := Option.some.inj (hline'.symm.trans hline)
  subst hb hother
  revert hcr
  decide

end Lox
