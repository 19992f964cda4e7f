import Lox.Proofs.Expr.Rules
import Lox.Proofs.Run.Ending
import Lox.Proofs.Text.Lines
import Lox.Proofs.Token.Bounded
import Lox.Proofs.Token.Position

/-!
# Reports quote the text

When a program fails after its scan, the report names the place of a token: by the lexeme of the
token, or as the end of the text. The lexeme stands in the text where the report says. For a parse
error the token is the one that the parser stands at, and for a failed evaluation the operator of the
operation that failed, which never is the end of the text.

## Main definitions

* `Failure.Quotes`: the report of a failure says the truth about a token

## Main results

* `Failure.quotes_of_mem`: it does so for every token of the text
* `run_failure_quotes`: what the report of a run quotes
-/

namespace Lox

/-- **The report of a failure quotes the text at its token**: it names the line and the column of the
token, and the token as the end of the text exactly if it is that. Any other token is named by a
lexeme, and the text that is read from the line and the column on starts with this lexeme. -/
structure Failure.Quotes (source : String) (file : Option String) (failure : Failure)
    (token : Token) : Prop where
  location : failure.location? = some token.location
  report : ∃ place, failure.place? = some place ∧
    failure.reportWith true =
      s!"[line {token.location.line}; column {token.location.column}]" ++
        s!" Error {place}: {failure.message}"
  atEnd_iff : failure.place? = some "at end" ↔ token.kind = .eof
  ends : token.kind = .eof → token.location = .endOf file source.toList
  named : token.kind ≠ .eof → ∃ lexeme, failure.place? = some ("at '" ++ lexeme ++ "'")
  quoted : ∀ lexeme, failure.place? = some ("at '" ++ lexeme ++ "'") →
    lexeme ≠ "" ∧ lexeme.toList <+: token.location.textFrom source.toList

/-! ## Places -/

theorem quote_ne_atEnd (lexeme : String) : "at '" ++ lexeme ++ "'" ≠ "at end" := by
  intro h
  have hchars := congrArg String.toList h
  simp at hchars

theorem quote_inj {lexeme lexeme' : String}
    (h : "at '" ++ lexeme ++ "'" = "at '" ++ lexeme' ++ "'") : lexeme = lexeme' := by
  simpa using h

namespace Failure

/-- A failure at a token has the location of the token. -/
theorem location?_of_token? {failure : Failure} {token : Token}
    (h : failure.token? = some token) : failure.location? = some token.location := by
  cases failure <;> cases h <;> rfl

/-- A failure at a token has the place of the token. -/
theorem place?_of_token? {failure : Failure} {token : Token} (h : failure.token? = some token) :
    failure.place? = some token.placeText := by
  cases failure <;> cases h <;> rfl

/-- The report of a failure that has a location and a place. -/
theorem reportWith_true {failure : Failure} {location : Location} {place : String}
    (hlocation : failure.location? = some location) (hplace : failure.place? = some place)
    (hne : place ≠ "") :
    failure.reportWith true =
      s!"[line {location.line}; column {location.column}]" ++
        s!" Error {place}: {failure.message}" := by
  have hshown : failure.shownPlace? = some place := by
    rw [shownPlace?, hplace, Option.filter_some, if_pos (decide_eq_true hne)]
  simp only [reportWith, hshown, header, hlocation, toString, String.append_assoc]

/-- **A failure at a token of the text quotes the text there.** -/
theorem quotes_of_mem {source : String} {file : Option String} {tokens : List Token}
    {failure : Failure} {token : Token} (hscan : tokensOf source file = .ok tokens)
    (htoken : failure.token? = some token) (hmem : token ∈ tokens) :
    failure.Quotes source file token := by
  have hlocation := location?_of_token? htoken
  have hplace := place?_of_token? htoken
  obtain rfl | ⟨hkind, before, lexeme, behind, htext, hne, hlexeme, hat⟩ :=
    token_cases_of_tokensOf hscan hmem
  · -- the end of the text is named as such, and by no lexeme
    have hend : failure.place? = some "at end" := hplace
    exact {
      location := hlocation
      report := ⟨_, hend, reportWith_true hlocation hend (by decide)⟩
      atEnd_iff := iff_of_true hend rfl
      ends := fun _ => rfl
      named := fun hkind => absurd rfl hkind
      quoted := by
        intro lexeme hquoted
        rw [hend] at hquoted
        exact absurd (Option.some.inj hquoted).symm (quote_ne_atEnd lexeme) }
  · -- any other token is named by its lexeme, and its location is behind the text before it
    have hquote : failure.place? = some ("at '" ++ String.ofList lexeme ++ "'") := by
      rw [hplace, Token.placeText, if_neg hkind, hlexeme, Option.getD_some]
    exact {
      location := hlocation
      report := ⟨_, hquote, reportWith_true hlocation hquote (by simp)⟩
      atEnd_iff := by
        rw [hquote]
        exact iff_of_false (fun h => quote_ne_atEnd _ (Option.some.inj h)) hkind
      ends := fun heof => absurd heof hkind
      named := fun _ => ⟨_, hquote⟩
      quoted := by
        intro quoted hquoted
        obtain rfl := quote_inj (Option.some.inj (hquote.symm.trans hquoted))
        refine ⟨fun hempty => hne (by simpa using congrArg String.toList hempty), ?_⟩
        rw [htext, hat, Location.textFrom_endOf, String.toList_ofList]
        exact List.prefix_append _ _ }

end Failure

/-! ## What a run quotes -/

/-- **A report quotes the text at the token it is about.** A run that fails after its scan fails at
one of its tokens, and the report quotes the text there. After a parse error the token is the one
that the parser stands at; after a failed evaluation it is the operator of the operation that failed,
and the report never says that this is the end of the text. -/
theorem run_failure_quotes {source : String} {file : Option String} {failure : Failure}
    (hfail : (run source file).outcome.failure? = some failure) (hstage : failure.stage ≠ .scan) :
    ∃ token ∈ (run source file).outcome.tokens,
      failure.token? = some token ∧ failure.Quotes source file token ∧
        ((failure.stage = .parse ∧ ∃ parser,
            parseTokens (run source file).outcome.tokens = .ok (none, parser) ∧
            (run source file).outcome.tokens[parser.position]? = some token) ∨
          (failure.stage = .runtime ∧ failure.place? ≠ some "at end" ∧ ∃ tree path cause,
            (run source file).outcome.tree? = some tree ∧ tree.FailsAt path cause token)) := by
  have hcourse := run_course source file
  generalize run source file = result at hcourse hfail ⊢
  cases hcourse with
  | unscanned =>
    cases hfail
    exact absurd rfl hstage
  | @unparsed tokens parser error hscan _ hparse _ htoken =>
    cases hfail
    have hmem : error.token ∈ tokens := List.mem_of_getElem? htoken
    exact ⟨error.token, hmem, rfl, Failure.quotes_of_mem hscan rfl hmem,
      .inl ⟨rfl, parser, hparse, htoken⟩⟩
  | @parsed tokens parser tree hscan _ _ htree =>
    obtain ⟨v, hv⟩ | ⟨cause, op, hfault⟩ := Expr.evaluate_cases htree.exists_kinds
    · rw [runTree_finished hv] at hfail
      cases hfail
    · rw [runTree_failed hfault] at hfail ⊢
      cases hfail
      obtain ⟨path, hpath⟩ := Expr.result_eq_fault_iff.mp hfault
      -- the operator is one that the tree was read from
      obtain ⟨hop, hkind⟩ := htree.builtFrom.of_failsAt hpath
      have hmem : op ∈ tokens := List.mem_of_mem_take hop
      have hquotes : (Failure.runtime cause.message op).Quotes source file op :=
        Failure.quotes_of_mem hscan rfl hmem
      exact ⟨op, hmem, rfl, hquotes,
        .inr ⟨rfl, mt hquotes.atEnd_iff.mp hkind, tree, path, cause, rfl, hpath⟩⟩

/-- A parenthesis that is not closed behind a string over two lines, and a negated string. -/
theorem run_failure_quotes_second_operand :
    let number := Token.ofLexeme .number ['1'] ⟨3, 4, 8, none⟩
    let minus := Token.ofLexeme .minus ['-'] ⟨2, 1, 4, none⟩
    let unclosed := Failure.parse "Expected ')' after expression." number
    let negation := Failure.runtime "Operand must be a number" minus
    ((run "(\n\"a\nb\" 1" none).outcome.failure? = some unclosed ∧ unclosed.stage ≠ .scan ∧
        unclosed.Quotes "(\n\"a\nb\" 1" none number) ∧
      (run "1 +\n-\"x\"" none).outcome.failure? = some negation ∧ negation.stage ≠ .scan ∧
        negation.Quotes "1 +\n-\"x\"" none minus := by
  intro number minus unclosed negation
  have hunclosed : (run "(\n\"a\nb\" 1" none).outcome.failure? = some unclosed := by
    have hscan : tokensOf "(\n\"a\nb\" 1" none =
        .ok [.ofLexeme .leftParen ['('] ⟨1, 1, 0, none⟩,
          .ofLexeme .string ['"', 'a', '\n', 'b', '"'] ⟨2, 1, 2, none⟩, number,
          .endOfText ⟨3, 5, 9, none⟩] :=
      tokensOf_eq_scanWithin _ _
    rw [run, hscan]
    rfl
  have hnegation : (run "1 +\n-\"x\"" none).outcome.failure? = some negation := by
    have hscan : tokensOf "1 +\n-\"x\"" none =
        .ok [.ofLexeme .number ['1'] ⟨1, 1, 0, none⟩, .ofLexeme .plus ['+'] ⟨1, 3, 2, none⟩, minus,
          .ofLexeme .string ['"', 'x', '"'] ⟨2, 2, 5, none⟩, .endOfText ⟨2, 5, 8, none⟩] :=
      tokensOf_eq_scanWithin _ _
    rw [run, hscan]
    rfl
  have hstages : unclosed.stage ≠ .scan ∧ negation.stage ≠ .scan := by decide
  obtain ⟨token, -, htoken, hquotes, -⟩ := run_failure_quotes hunclosed hstages.1
  obtain ⟨token', -, htoken', hquotes', -⟩ := run_failure_quotes hnegation hstages.2
  cases htoken
  cases htoken'
  exact ⟨⟨hunclosed, hstages.1, hquotes⟩, hnegation, hstages.2, hquotes'⟩

end Lox
