import Lox.Diagnostic.Basic
import Lox.Editor.Range
import Lox.Proofs.Run.Quotation

/-!
# What a failure marks

A failed run is about one piece of its text: the character where the scan stopped, the lexeme of a
token, or nothing, which is the case only at the end. The failure has the location in front of this
piece. The piece does not start with an LF, so that it has a first line, but a text in quotes may go
on below. The mark of a diagnostic is as long as the piece, and the range in an editor is as long as
its first line.

## Main definitions

* `Failure.Marks`: the piece of a text that a failure is about

## Main results

* `Failure.Marks.markLength`, `Failure.Marks.range`: the lengths of the mark and of the range
* `run_failure_marks`: a failed run is about a piece of its text
-/

namespace Lox

/-- **The piece of a text that a failure is about**: it stands behind the text `before` and in front
of the text `behind`. Without a token it is one character. -/
structure Failure.Marks (file : Option String) (failure : Failure)
    (before marked behind : List Char) : Prop where
  location : failure.location? = some (.endOf file before)
  lexeme : ∀ token, failure.token? = some token → token.lexemeText = String.ofList marked
  character : failure.token? = none → ∃ c, marked = [c]
  head : marked.head? ≠ some '\n'
  ends : marked = [] → behind = []

namespace Failure.Marks

variable {file : Option String} {failure : Failure} {before marked behind : List Char}

theorem line (h : failure.Marks file before marked behind) :
    failure.line = 1 + before.count '\n' := by
  rw [Failure.line, h.location]
  rfl

/-- **The mark is as long as the piece**, and at least one character. -/
theorem markLength (h : failure.Marks file before marked behind) :
    failure.markLength = max 1 marked.length := by
  unfold Failure.markLength
  cases htoken : failure.token? with
  | none =>
    obtain ⟨c, rfl⟩ := h.character htoken
    rfl
  | some token =>
    rw [Option.map_some, Option.getD_some, h.lexeme token htoken, String.length_ofList]

/-- **The range is as long as the first line of the piece**, and at least one character. -/
theorem range (h : failure.Marks file before marked behind) :
    failure.range =
      .at (Location.endOf file before).line (Location.endOf file before).column
        (max 1 (Text.firstLine marked).length) := by
  have hnone : LineRange.at failure.line ((failure.location?.map (·.column)).getD 1) 1 =
      .at (Location.endOf file before).line (Location.endOf file before).column 1 := by
    rw [Failure.line, h.location]
    rfl
  unfold Failure.range
  cases htoken : failure.token? with
  | none =>
    obtain ⟨c, rfl⟩ := h.character htoken
    have hc : c ≠ '\n' := by simpa using h.head
    have hone : (Text.firstLine [c]).length = 1 := by simp [Text.firstLine, hc]
    rw [hone]
    exact hnone
  | some token =>
    have htext := h.lexeme token htoken
    have hplace : token.location = .endOf file before :=
      Option.some.inj ((location?_of_token? htoken).symm.trans h.location)
    by_cases hempty : marked = []
    · -- at the end of the text the range is that of a failure without a lexeme
      rw [Option.filter_some, if_neg (by simp [htext, hempty])]
      subst hempty
      exact hnone
    · rw [Option.filter_some, if_pos (by simpa [htext] using hempty)]
      simp only [Token.range, Token.firstLine, htext, hplace, String.toList_ofList,
        Text.firstLine]

end Failure.Marks

/-! ## The failures of runs -/

/-- No lexeme of a token starts with an LF. -/
theorem Lexical.head?_ne_lf {lexeme : List Char} {kind : TokenKind} {value : Value}
    (h : Lexical lexeme (some (kind, value))) : lexeme.head? ≠ some '\n' := by
  have hsymbols : ∀ entry ∈ symbols, entry.1.head? ≠ some '\n' := by decide
  cases h with
  | symbol hentry => exact hsymbols _ hentry
  | number h =>
    obtain ⟨c, tail, rfl, hc⟩ := h.head
    rintro ⟨⟩
    exact absurd hc (by decide)
  | string => simp
  | word hc =>
    rintro ⟨⟩
    exact absurd hc (by decide)

/-- A scan does not stop at an LF, which would be layout. -/
theorem NoLexeme.ne_lf {c : Char} {rest : List Char} (h : NoLexeme (c :: rest)) : c ≠ '\n' := by
  rintro rfl
  exact h ['\n'] none (.layout (by decide)) (List.prefix_append _ _)

/-- A failed run reports the error of the scan, or it fails at a token of the text. -/
theorem run_failure_cases {source : String} {file : Option String} {failure : Failure}
    (hfail : (run source file).outcome.failure? = some failure) :
    (∃ error, tokensOf source file = .error error ∧ failure = error.failure) ∨
      ∃ tokens token, tokensOf source file = .ok tokens ∧ failure.token? = some token ∧
        token ∈ tokens := by
  have hcourse := run_course source file
  generalize run source file = result at hcourse hfail
  cases hcourse with
  | @unscanned error hscan =>
    cases hfail
    exact .inl ⟨error, hscan, rfl⟩
  | @unparsed tokens parser error hscan _ _ _ htoken =>
    cases hfail
    exact .inr ⟨tokens, error.token, hscan, rfl, List.mem_of_getElem? htoken⟩
  | @parsed tokens parser tree hscan _ _ htree =>
    obtain ⟨v, hv⟩ | ⟨cause, op, hfault⟩ := Expr.evaluate_cases htree.exists_kinds
    · rw [runTree_finished hv] at hfail
      cases hfail
    · rw [runTree_failed hfault] at hfail
      cases hfail
      -- the operator is one that the tree was read from
      obtain ⟨path, hpath⟩ := Expr.result_eq_fault_iff.mp hfault
      obtain ⟨hop, -⟩ := htree.builtFrom.of_failsAt hpath
      exact .inr ⟨tokens, op, hscan, rfl, List.mem_of_mem_take hop⟩

/-- **A failed run is about a piece of its text.** -/
theorem run_failure_marks {source : String} {file : Option String} {failure : Failure}
    (hfail : (run source file).outcome.failure? = some failure) :
    ∃ before marked behind, source.toList = before ++ (marked ++ behind) ∧
      failure.Marks file before marked behind := by
  obtain ⟨error, hscan, rfl⟩ | ⟨tokens, token, hscan, htoken, hmem⟩ := run_failure_cases hfail
  · obtain ⟨pieces, c, rest, hmunch, hnone, rfl⟩ := exists_munch_of_tokensOf_error hscan
    have hc := hnone.ne_lf
    exact ⟨Piece.spelling pieces, [c], rest, hmunch.text_eq, {
      location := rfl
      lexeme := by
        intro token htoken
        cases htoken
      character := fun _ => ⟨c, rfl⟩
      head := by simpa using hc
      ends := by simp }⟩
  · have hlocation := Failure.location?_of_token? htoken
    obtain ⟨pieces, hmunch, rfl⟩ := exists_munch_of_tokensOf hscan
    rcases List.mem_append.mp hmem with hlist | hlast
    · obtain ⟨before, lexeme, behind, htext, hlexical, hlexeme, hplace⟩ :=
        hmunch.exists_lexeme file hlist
      refine ⟨before, lexeme, behind, htext, by rw [hlocation, hplace], ?_, ?_,
        hlexical.head?_ne_lf, fun hnil => absurd hnil hlexical.ne_nil⟩
      · intro token' htoken'
        obtain rfl := Option.some.inj (htoken.symm.trans htoken')
        rw [Token.lexemeText, hlexeme, Option.getD_some]
      · intro hnone
        cases htoken.symm.trans hnone
    · -- the token at the end has no lexeme
      obtain rfl := List.mem_singleton.mp hlast
      refine ⟨source.toList, [], [], by simp, hlocation, ?_, ?_, by simp, fun _ => rfl⟩
      · intro token' htoken'
        obtain rfl := Option.some.inj (htoken.symm.trans htoken')
        rfl
      · intro hnone
        cases htoken.symm.trans hnone

end Lox
