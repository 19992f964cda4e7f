import Lox.Proofs.Run.Layout
import Lox.Proofs.Run.Marking
import Lox.Proofs.Token.Continuation

/-!
# Blanks at the ends of a program

Spaces, tabs and CRs around a program leave its outcome as it is, apart from locations, whether the
program runs or not. In front of the program they are pieces of their own. Behind it they are so as
well, or belong to a last comment, or stand where the scan does not come; a quote that is not closed
is not closed by them. In a program of one line the reports are the same too.

## Main definitions

* `IsMargin`: spaces, tabs and CRs

## Main results

* `exists_munch_margins`: the pieces of a text with margins
* `run_agrees`: the outcome of a text in another file
* `run_margins`: the outcome of a program with margins
* `report_run_margins`: the report of a program of one line with margins
-/

namespace Lox

/-- The text consists of spaces, tabs and CRs. -/
def IsMargin (text : List Char) : Prop :=
  ∀ c ∈ text, c ∈ [' ', '\t', '\r']

namespace IsMargin

variable {margin : List Char} {c : Char}

theorem mem_layout (h : IsMargin margin) (hc : c ∈ margin) : c ∈ [' ', '\t', '\r', '\n'] :=
  List.mem_append_left ['\n'] (h c hc)

theorem ne_quote (h : IsMargin margin) (hc : c ∈ margin) : c ≠ '"' := by
  rintro rfl
  exact absurd (h _ hc) (by decide)

theorem layout (h : IsMargin margin) : Layout margin := by
  induction margin with
  | nil => exact .nil
  | cons c rest ih =>
    exact .blank (h.mem_layout List.mem_cons_self) (ih fun d hd => h d (List.mem_cons_of_mem c hd))

end IsMargin

/-! ## Scanning with margins -/

/-- **Blanks behind a text**: its pieces stay, but for a last comment, and the scan ends where it did. -/
theorem exists_munch_margin {text final margin : List Char} {pieces : List Piece}
    (h : Munch text pieces final) (hnone : NoLexeme final) (hmargin : IsMargin margin) :
    ∃ pieces' final', Munch (text ++ margin) pieces' final' ∧ NoLexeme final' ∧
      final'.head? = final.head? ∧ Piece.contents pieces' = Piece.contents pieces := by
  cases margin with
  | nil => exact ⟨pieces, final, by rwa [List.append_nil], hnone, rfl, rfl⟩
  | cons c margin =>
    have hc := hmargin.mem_layout List.mem_cons_self
    cases final with
    | nil =>
      -- the text is scanned to its end, where a comment may go on
      have hspacing : IsSpacing (c :: margin) :=
        ⟨c, margin, hc, IsMargin.layout fun d hd => hmargin d (List.mem_cons_of_mem c hd), rfl⟩
      have hback : Munch text (pieces ++ []) [] := by rwa [List.append_nil]
      obtain ⟨pieces', hmunch, hcontents⟩ := exists_munch_insert hback hspacing
      have htext : text = Piece.spelling pieces := by simpa using h.text_eq
      rw [List.append_nil] at hcontents
      exact ⟨pieces', [], by simpa [htext] using hmunch, hnone, rfl, hcontents⟩
    | cons d rest =>
      -- the scan does not come to the margin
      have hmunch := h.append (isLayout_iff_mem.mpr hc) (fun hnil => by cases hnil) margin
      exact ⟨pieces, _, hmunch, hnone.append fun _ hd => hmargin.ne_quote hd, rfl, rfl⟩

/-- **The pieces of a text with margins** have the contents of its pieces, and the scan ends at the
same character. -/
theorem exists_munch_margins {text final lead margin : List Char} {pieces : List Piece}
    (h : Munch text pieces final) (hnone : NoLexeme final) (hlead : IsMargin lead)
    (hmargin : IsMargin margin) :
    ∃ pieces' final', Munch (lead ++ (text ++ margin)) pieces' final' ∧ NoLexeme final' ∧
      final'.head? = final.head? ∧ Piece.contents pieces' = Piece.contents pieces := by
  obtain ⟨silent, hsilent, hfront⟩ := hlead.layout.exists_munch
  obtain ⟨pieces', final', hmunch, hnone', hhead, hcontents⟩ :=
    exists_munch_margin h hnone hmargin
  refine ⟨silent ++ pieces', final', (hfront _).trans hmunch, hnone', hhead, ?_⟩
  rw [Piece.contents_append, Piece.contents_eq_nil hsilent, List.nil_append, hcontents]

/-! ## Running with margins -/

/-- The file is for the log only. -/
theorem outcome_runTokens (file file' : Option String) (tokens : List Token) :
    (runTokens file' tokens).outcome = (runTokens file tokens).outcome := by
  simp only [runTokens]
  split
  · simp only [runTree]
    split <;> rfl
  · rfl
  · rfl

/-- Texts whose pieces have the same contents, and whose scans end at the same character, have the
same outcome apart from locations, whatever files they are said to be in. -/
theorem run_agrees_of_munch {source source' : String} {pieces pieces' : List Piece}
    {final final' : List Char} {file' : Option String} (h : Munch source.toList pieces final)
    (hnone : NoLexeme final) (h' : Munch source'.toList pieces' final')
    (hnone' : NoLexeme final') (hhead : final'.head? = final.head?)
    (hcontents : Piece.contents pieces' = Piece.contents pieces) (file : Option String) :
    (run source' file').outcome.Agrees (run source file).outcome := by
  apply Outcome.Agrees.of_relocate
  cases final with
  | nil =>
    obtain rfl : final' = [] := List.head?_eq_none_iff.mp hhead
    simp only [run, tokensOf_of_munch h, tokensOf_of_munch h']
    rw [outcome_runTokens file file', ← runTokens_relocate, ← runTokens_relocate,
      Token.map_relocate_endOfText, Token.map_relocate_endOfText, Piece.map_relocate_listing,
      Piece.map_relocate_listing, hcontents]
  | cons c rest =>
    -- the fault of a scan depends on the first character of what is left
    obtain ⟨rest', rfl⟩ : ∃ rest', final' = c :: rest' := List.head?_eq_some_iff.mp hhead
    simp only [run, tokensOf_of_noLexeme h hnone, tokensOf_of_noLexeme h' hnone']
    rfl

/-- **The outcome of a program with margins** is that of the program, apart from locations. -/
theorem run_margins {source source' : String} {lead margin : List Char}
    (htext : source'.toList = lead ++ (source.toList ++ margin)) (hlead : IsMargin lead)
    (hmargin : IsMargin margin) (file : Option String) :
    (run source' file).outcome.Agrees (run source file).outcome := by
  obtain ⟨pieces, final, hmunch, hnone⟩ := exists_munch source.toList
  obtain ⟨pieces', final', hmunch', hnone', hhead, hcontents⟩ :=
    exists_munch_margins hmunch hnone hlead hmargin
  rw [← htext] at hmunch'
  exact run_agrees_of_munch hmunch hnone hmunch' hnone' hhead hcontents file

/-! ## Reports of one line -/

/-- Failures that are the same apart from their locations, on one line, have the same report. -/
theorem report_of_content_eq {first second : Failure} (h : first.content = second.content)
    (hline : first.line = second.line) : first.report = second.report := by
  obtain ⟨-, hmessage, hplace⟩ : first.stage = second.stage ∧ first.message = second.message ∧
      first.place? = second.place? := by
    simpa [Failure.content] using h
  simp only [Failure.report, Failure.reportWith, Failure.shownPlace?, Failure.header, hline,
    hmessage, hplace]

/-- A program without an LF fails on line one. -/
theorem line_of_run_failure {source : String} {file : Option String} {failure : Failure}
    (h : '\n' ∉ source.toList) (hfail : (run source file).outcome.failure? = some failure) :
    failure.line = 1 := by
  obtain ⟨before, marked, behind, htext, hmarks⟩ := run_failure_marks hfail
  have hbefore : '\n' ∉ before := fun hmem => h (htext ▸ List.mem_append_left _ hmem)
  rw [hmarks.line, List.count_eq_zero_of_not_mem hbefore]
  rfl

/-- **The report of a program of one line with margins** is that of the program. -/
theorem report_run_margins {source source' : String} {lead margin : List Char}
    (htext : source'.toList = lead ++ (source.toList ++ margin)) (hlead : IsMargin lead)
    (hmargin : IsMargin margin) (hline : '\n' ∉ source'.toList) (file : Option String) :
    (run source' file).outcome.failure?.map Failure.report =
      (run source file).outcome.failure?.map Failure.report := by
  have hinside : '\n' ∉ source.toList := fun hmem =>
    hline (htext ▸ List.mem_append_right _ (List.mem_append_left _ hmem))
  have hmap := (run_margins htext hlead hmargin file).failure
  cases hfailure : (run source file).outcome.failure? with
  | none =>
    rw [hfailure, Option.map_none, Option.map_eq_none_iff] at hmap
    rw [hmap]
  | some failure =>
    rw [hfailure, Option.map_some, Option.map_eq_some_iff] at hmap
    obtain ⟨failure', hfailure', hcontent⟩ := hmap
    -- the contents leave the line open, but both failures are on the only line there is
    rw [hfailure', Option.map_some, Option.map_some]
    exact congrArg some <| report_of_content_eq hcontent
      ((line_of_run_failure hline hfailure').trans (line_of_run_failure hinside hfailure).symm)

end Lox
