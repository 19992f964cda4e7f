import Lox.Prompt.Session
import Lox.Proofs.Prompt.Entries
import Lox.Proofs.Run.Shapes
import Lox.Proofs.Token.Bounded

/-!
# Programs and commands at the prompt

A program can be typed as it is, to see its value, or behind a command, to see its tokens or its tree.
All three go through the same stages. What cannot be scanned has one report, and what cannot be parsed
has one report for the value and for the tree. The tree that is shown is the one that is evaluated.

## Main definitions

* `AnswersAgree`: three answers agree stage by stage

## Main results

* `answersAgree`: the answers to a text agree
* `answerLine_agree`: the answers to a line agree with those to the line behind a command
-/

namespace Lox

/-- **The answers to a text agree**: the one with its value, the one that lists its tokens and the one
that shows its tree. The text is not scanned, and the three have one report; or it is not parsed, and
two have one report while the tokens are listed; or a tree is shown, and the value or the fault of
this tree is given. -/
inductive AnswersAgree (settings : Settings) (source : String) (value tokens tree : Answer) : Prop
  | unscanned {error} :
      tokensOf source none = .error error →
      value.output = some (settings.report error.failure) →
      tokens.output = value.output → tree.output = value.output →
      AnswersAgree settings source value tokens tree
  | unparsed {found parser error} :
      tokensOf source none = .ok found →
      parseTokens found = .ok (none, parser) → parser.errors = [error] →
      value.output = some (settings.report error.failure) →
      tokens.output = some (String.intercalate "\n" (found.map Token.text)) →
      tree.output = value.output →
      AnswersAgree settings source value tokens tree
  | parsed {found parser expr text} :
      tokensOf source none = .ok found →
      parseTokens found = .ok (some expr, parser) → expr.parenthesized = .ok text →
      ((∃ v, expr.evaluate.result = .ok v ∧ value.output = some v.display) ∨
        ∃ cause op, expr.evaluate.result = .error (.fault cause op) ∧
          value.output = some (settings.report (.runtime cause.message op))) →
      tokens.output = some (String.intercalate "\n" (found.map Token.text)) →
      tree.output = some text →
      AnswersAgree settings source value tokens tree

/-- **The answers to a text agree.** -/
theorem answersAgree (settings : Settings) (source : String) :
    AnswersAgree settings source (answerProgram settings source) (answerTokens settings source)
      (answerTree settings source) := by
  have hvalue : (answerProgram settings source).output =
      ((run source none).outcome.failure?.map settings.report).or
        (run source none).outcome.display? := rfl
  -- by the stage at which the run ends: the commands make a start of it
  have hcourse := run_course source none
  generalize run source none = result at hcourse hvalue
  cases hcourse with
  | unscanned hscan =>
    refine .unscanned hscan hvalue ?_ ?_
    · rw [answerTokens, hscan, hvalue]
      rfl
    · rw [answerTree, hscan, hvalue]
      rfl
  | @unparsed found parser error hscan _ hparse herrors _ =>
    refine .unparsed hscan hparse herrors hvalue ?_ ?_
    · rw [answerTokens, hscan]
    · obtain ⟨_, _⟩ := parser
      cases herrors
      rw [answerTree, hscan, hvalue]
      simp only [hparse]
      rfl
  | @parsed found parser expr hscan _ hparse hderives =>
    obtain ⟨text, htext⟩ := hderives.builtFrom.exists_parenthesized
    refine .parsed hscan hparse htext ?_ ?_ ?_
    · obtain ⟨v, hv⟩ | ⟨cause, op, hfault⟩ := Expr.evaluate_cases hderives.exists_kinds
      · rw [runTree_finished hv] at hvalue
        exact .inl ⟨v, hv, hvalue⟩
      · rw [runTree_failed hfault] at hvalue
        exact .inr ⟨cause, op, hfault, hvalue⟩
    · rw [answerTokens, hscan]
    · rw [answerTree, hscan]
      simp only [hparse, htext]
      rfl

/-! ## Typed lines -/

/-- A line that is a program is answered by its value. -/
theorem answerLine_program (settings : Settings) {line : String}
    (h : Entry.IsProgram (Text.trim line.toList)) :
    answerLine settings line =
      answerProgram settings (String.ofList (Text.trim line.toList)) := by
  rw [answerLine, Entry.ofLine_of_isProgram h]

/-- The command that lists tokens lists those of its argument. -/
theorem answerLine_tokens (settings : Settings) {source : String} (hne : source ≠ "")
    (htrim : Text.trim source.toList = source.toList) :
    answerLine settings (":tokens " ++ source) = answerTokens settings source := by
  have hname : "tokens" ∈ Command.tokens.names := by decide
  have hentry := Entry.ofLine_command hname hne htrim
  have hspelling : ":" ++ "tokens" ++ " " = ":tokens " := by decide
  rw [hspelling] at hentry
  rw [answerLine, hentry]
  exact if_neg (by simpa using hne)

/-- The command that shows a tree shows that of its argument. -/
theorem answerLine_tree (settings : Settings) {source : String} (hne : source ≠ "")
    (htrim : Text.trim source.toList = source.toList) :
    answerLine settings (":ast " ++ source) = answerTree settings source := by
  have hname : "ast" ∈ Command.tree.names := by decide
  have hentry := Entry.ofLine_command hname hne htrim
  have hspelling : ":" ++ "ast" ++ " " = ":ast " := by decide
  rw [hspelling] at hentry
  rw [answerLine, hentry]
  exact if_neg (by simpa using hne)

theorem leaves_answerTokens (settings : Settings) (source : String) :
    (answerTokens settings source).leaves = false := by
  rw [answerTokens]
  split <;> rfl

theorem leaves_answerTree (settings : Settings) (source : String) :
    (answerTree settings source).leaves = false := by
  rw [answerTree]
  split
  · rfl
  · split <;> rfl

/-- **The commands agree with the value.** A trimmed line that is a program, and the commands that
list its tokens and show its tree, have answers that agree, however reports are written; and none of
the three ends a session. -/
theorem answerLine_agree (settings : Settings) {line : String} (h : Entry.IsProgram line.toList)
    (htrim : Text.trim line.toList = line.toList) :
    AnswersAgree settings line (answerLine settings line) (answerLine settings (":tokens " ++ line))
        (answerLine settings (":ast " ++ line)) ∧
      ∀ typed ∈ [line, ":tokens " ++ line, ":ast " ++ line], ∀ session : Session,
        (session.enter typed (answerLine settings typed)).running = session.running := by
  have hne : line ≠ "" := fun heq => h.nonempty (by simp [heq])
  have hvalue : answerLine settings line = answerProgram settings line := by
    rw [answerLine_program settings (htrim.symm ▸ h), htrim, String.ofList_toList]
  have htokens := answerLine_tokens settings hne htrim
  have htree := answerLine_tree settings hne htrim
  have hstays {typed : String} (hleaves : (answerLine settings typed).leaves = false)
      (session : Session) :
      (session.enter typed (answerLine settings typed)).running = session.running := by
    rw [Session.enter, hleaves]
    exact Bool.and_true _
  constructor
  · rw [hvalue, htokens, htree]
    exact answersAgree settings line
  · simp only [List.forall_mem_cons]
    refine ⟨hstays ?_, hstays ?_, hstays ?_, by simp⟩
    · rw [hvalue]
      rfl
    · rw [htokens]
      exact leaves_answerTokens settings line
    · rw [htree]
      exact leaves_answerTree settings line

/-- A parenthesis that is not closed, around a string with a colon and an ideographic space. -/
theorem answerLine_agree_unclosed :
    let settings : Settings := ⟨true, false⟩
    let line := "(\"a:\u3000b\""
    let report := "[line 1; column 8] Error at end: Expected ')' after expression."
    Entry.IsProgram line.toList ∧ Text.trim line.toList = line.toList ∧
      (answerLine settings line).output = some report ∧
      (answerLine settings (":tokens " ++ line)).output =
        some "LEFT_PAREN (\nSTRING \"a:\u3000b\" 'a:\\u3000b'\nEOF" ∧
      (answerLine settings (":ast " ++ line)).output = some report ∧
      (({} : Session).enter line (answerLine settings line)).running = true := by
  intro settings line report
  have hprogram : Entry.IsProgram line.toList := ⟨by decide, by decide, by decide⟩
  have htrim : Text.trim line.toList = line.toList := by decide
  have hscan : tokensOf "(\"a:\u3000b\"" none =
      .ok [.ofLexeme .leftParen ['('] ⟨1, 1, 0, none⟩,
        .ofLexeme .string ['"', 'a', ':', '\u3000', 'b', '"'] ⟨1, 2, 1, none⟩,
        .endOfText ⟨1, 8, 7, none⟩] :=
    tokensOf_eq_scanWithin _ _
  have hreport : settings.report
      (.parse "Expected ')' after expression." (.endOfText ⟨1, 8, 7, none⟩)) = report := by
    decide +kernel
  have hlisting : String.intercalate "\n"
      ([.ofLexeme .leftParen ['('] ⟨1, 1, 0, none⟩,
        .ofLexeme .string ['"', 'a', ':', '\u3000', 'b', '"'] ⟨1, 2, 1, none⟩,
        .endOfText ⟨1, 8, 7, none⟩].map Token.text) =
      "LEFT_PAREN (\nSTRING \"a:\u3000b\" 'a:\\u3000b'\nEOF" := by
    decide +kernel
  obtain ⟨hagree, hstays⟩ := answerLine_agree settings hprogram htrim
  have hrunning := hstays line List.mem_cons_self {}
  cases hagree with
  | unscanned hscan' => cases hscan.symm.trans hscan'
  | unparsed hscan' hparse herrors hvalue htokens htree =>
    cases hscan.symm.trans hscan'
    cases hparse
    cases herrors
    have hfailed := hvalue.trans (congrArg some hreport)
    exact ⟨hprogram, htrim, hfailed, htokens.trans (congrArg some hlisting),
      htree.trans hfailed, hrunning⟩
  | parsed hscan' hparse =>
    cases hscan.symm.trans hscan'
    cases hparse

end Lox
