import Lox.Proofs.Grammar.Reading

/-!
# Parse errors and viable prefixes

A parse error is reported at the first token that cannot go on: whatever follows that token, the
error stays, and without it the tokens before can be completed to an expression. The message says
what is missing. Where it is an operand, a literal stands for it; in both cases the parentheses that
are still open have to be closed.

The reader knows how many they are, since it keeps a pending construct for each of them.

## Main definitions

* `unmatchedParens`: the left parentheses of tokens that no later right one matches
* `IsClosing`: right parentheses and the end of the text
* `ParsesWholly`: all tokens before the end of the text are one expression
* `openGroups`: the parentheses that pending constructs hold open

## Main results

* `ReaderState.Consumes.openGroups_eq`: what a reader holds open are the unmatched parentheses
* `ReaderState.Consumes.parsesWholly`: a reader with an operand only needs its parentheses closed
* `parse_error_viable`: a parse error is at the first token that cannot go on
-/

namespace Lox

/-! ## Unmatched parentheses -/

/-- The number of unmatched left parentheses behind a token, from the number before it. -/
def Token.parenDepth (depth : Nat) (token : Token) : Nat :=
  if token.kind = .leftParen then depth + 1
  else if token.kind = .rightParen then depth - 1
  else depth

/-- The left parentheses among the tokens that no later right parenthesis matches. -/
def unmatchedParens (tokens : List Token) : Nat :=
  tokens.foldl Token.parenDepth 0

theorem Token.parenDepth_of_ne {token : Token} (hl : token.kind ≠ .leftParen)
    (hr : token.kind ≠ .rightParen) (depth : Nat) : token.parenDepth depth = depth := by
  rw [parenDepth, if_neg hl, if_neg hr]

/-- Right parentheses, as many as `count`, and the end of the text. -/
def IsClosing (count : Nat) (tokens : List Token) : Prop :=
  ∃ closings eof, tokens = closings ++ [eof] ∧ closings.length = count ∧
    (∀ closing ∈ closings, closing.kind = .rightParen) ∧ eof.kind = .eof

/-- The parser reads an expression that takes all tokens but the last. -/
def ParsesWholly (tokens : List Token) : Prop :=
  ∃ tree parser, parseTokens tokens = .ok (some tree, parser) ∧
    parser.position + 1 = tokens.length

/-! ## Open parentheses of the reader -/

/-- The number of parentheses that pending constructs hold open. -/
def openGroups : List Pending → Nat
  | [] => 0
  | .unary _ :: rest => openGroups rest
  | .binary .. :: rest => openGroups rest
  | .group :: rest => openGroups rest + 1

/-- What an operand collapses to is closed off by the innermost open parenthesis, if there is
one. -/
theorem collapse_zero_cases (operand : Expr) (pending : List Pending) :
    (∃ tree, collapse 0 operand pending = (tree, []) ∧ openGroups pending = 0) ∨
      ∃ tree rest, collapse 0 operand pending = (tree, .group :: rest) ∧
        openGroups pending = openGroups rest + 1 := by
  induction pending generalizing operand with
  | nil => exact .inl ⟨operand, rfl, rfl⟩
  | cons construct rest ih =>
    cases construct with
    | unary op => exact ih (.unary op operand)
    | binary left op rank =>
      rw [collapse, if_pos (Nat.zero_le _)]
      exact ih (.binary left op operand)
    | group => exact .inr ⟨operand, rest, rfl, rfl⟩

/-- Collapsing leaves the open parentheses. -/
theorem openGroups_collapse (rank : Nat) (operand : Expr) (pending : List Pending) :
    openGroups (collapse rank operand pending).2 = openGroups pending := by
  induction pending generalizing operand with
  | nil => rfl
  | cons construct rest ih =>
    cases construct with
    | unary op => exact ih (.unary op operand)
    | binary left op own =>
      rw [collapse]
      split
      · exact ih (.binary left op operand)
      · rfl
    | group => rfl

namespace ReaderState

/-- The pending constructs of a state. -/
def pending : ReaderState → List Pending
  | needsOperand pending => pending
  | hasOperand _ pending => pending

/-- **A step counts its parenthesis.** -/
theorem openGroups_step {state next : ReaderState} {token : Token}
    (h : state.step token = .consume next) :
    openGroups next.pending = token.parenDepth (openGroups state.pending) := by
  cases state with
  | needsOperand pending =>
    -- a prefix operator, an opening parenthesis, or an operand by itself
    simp only [step] at h
    split at h
    · next hprefix =>
      cases h
      refine (Token.parenDepth_of_ne ?_ ?_ _).symm <;> intro hkind <;>
        rw [hkind] at hprefix <;> cases hprefix
    · split at h
      · next hopen =>
        cases h
        rw [Token.parenDepth, if_pos hopen]
        rfl
      · next hl =>
        split at h
        · next value hvalue =>
          cases h
          refine (Token.parenDepth_of_ne hl ?_ _).symm
          intro hkind
          rw [Token.operand?, hkind] at hvalue
          cases hvalue
        · cases h
  | hasOperand operand pending =>
    cases hrank : token.kind.rank? with
    | some rank =>
      -- an infix operator takes no parenthesis
      simp only [step, hrank] at h
      cases h
      refine (openGroups_collapse rank operand pending).trans (Token.parenDepth_of_ne ?_ ?_ _).symm
        <;> intro hkind <;> rw [hkind] at hrank <;> cases hrank
    | none =>
      -- anything else is consumed only if it closes the innermost open parenthesis
      obtain ⟨tree, hc, -⟩ | ⟨tree, rest, hc, hopen⟩ := collapse_zero_cases operand pending
      · simp [step, hrank, hc] at h
      · simp only [step, hrank, hc] at h
        split at h
        · next hclose =>
          cases h
          have hl : token.kind ≠ .leftParen := by rw [hclose]; decide
          show openGroups rest = token.parenDepth (openGroups pending)
          rw [Token.parenDepth, if_neg hl, if_pos hclose, hopen, Nat.add_sub_cancel]
        · cases h

/-- **What a reader holds open are the unmatched parentheses** of the tokens it has consumed. -/
theorem Consumes.openGroups_eq {first last : ReaderState} {tokens : List Token}
    (h : Consumes first tokens last) :
    openGroups last.pending = tokens.foldl Token.parenDepth (openGroups first.pending) := by
  induction h with
  | refl => rfl
  | step hstep _ ih => rw [ih, List.foldl_cons, openGroups_step hstep]

/-! ## Completing what has been read -/

/-- A closing parenthesis is consumed while one is open. -/
theorem step_closing {pending : List Pending} {closing : Token}
    (hkind : closing.kind = .rightParen) (hopen : 0 < openGroups pending) (operand : Expr) :
    ∃ tree rest, (hasOperand operand pending).step closing = .consume (.hasOperand tree rest) ∧
      openGroups pending = openGroups rest + 1 := by
  obtain ⟨tree, -, hnone⟩ | ⟨tree, rest, hc, hcount⟩ := collapse_zero_cases operand pending
  · omega
  · exact ⟨.grouping tree, rest, by simp [step, hkind, TokenKind.rank?, hc], hcount⟩

/-- Behind the closing parentheses of all open ones, nothing is open. -/
theorem consumes_closings {pending : List Pending} {closings : List Token}
    (hkinds : ∀ closing ∈ closings, closing.kind = .rightParen)
    (hcount : closings.length = openGroups pending) (operand : Expr) :
    ∃ tree rest, Consumes (.hasOperand operand pending) closings (.hasOperand tree rest) ∧
      openGroups rest = 0 := by
  induction closings generalizing operand pending with
  | nil => exact ⟨operand, pending, .refl _, hcount.symm⟩
  | cons closing closings ih =>
    obtain ⟨hkind, hkinds⟩ := List.forall_mem_cons.mp hkinds
    rw [List.length_cons] at hcount
    have hpos : 0 < openGroups pending := by omega
    obtain ⟨tree, rest, hstep, hopen⟩ := step_closing hkind hpos operand
    have hrest : closings.length = openGroups rest := by omega
    obtain ⟨last, final, hrun, hnone⟩ := ih hkinds hrest tree
    exact ⟨last, final, .step hstep hrun, hnone⟩

/-- Where nothing is open, the reader accepts at the end of the text. -/
theorem step_eof {pending : List Pending} {eof : Token} (hkind : eof.kind = .eof)
    (hnone : openGroups pending = 0) (operand : Expr) :
    ∃ tree, (hasOperand operand pending).step eof = .accept tree := by
  obtain ⟨tree, hc, -⟩ | ⟨tree, rest, -, hcount⟩ := collapse_zero_cases operand pending
  · exact ⟨tree, by simp [step, hkind, TokenKind.rank?, hc]⟩
  · omega

/-- **A reader with an operand only needs its parentheses closed**: with closing ones for all of
them, the tokens are an expression. -/
theorem Consumes.parsesWholly {tokens tail : List Token} {operand : Expr} {pending : List Pending}
    (h : Consumes .start tokens (.hasOperand operand pending))
    (htail : IsClosing (openGroups pending) tail) : ParsesWholly (tokens ++ tail) := by
  obtain ⟨closings, eof, rfl, hcount, hkinds, heof⟩ := htail
  obtain ⟨tree, rest, hrun, hnone⟩ := consumes_closings hkinds hcount operand
  obtain ⟨result, haccept⟩ := step_eof heof hnone tree
  -- the reading runs over the tokens and the closing parentheses, and accepts at the end
  have hstop : ((hasOperand tree rest).step eof).reading? eof = some (.accepted result) :=
    ReaderStep.reading?_eq_accepted_iff.mpr haccept
  have hread := (h.trans hrun).read_append [eof]
  rw [read_cons_of_stop [] hstop, Nat.zero_add, List.append_assoc] at hread
  have hends : EndsInEof (tokens ++ (closings ++ [eof])) := ⟨eof, by simp, heof⟩
  refine ⟨result, _, (parseTokens_eq_some_iff hends).mpr ⟨_, hread, rfl⟩, ?_⟩
  simp [Nat.add_assoc]

/-- Why a token cannot go on: an operand is missing, or a parenthesis is open. -/
theorem step_eq_reject {state : ReaderState} {token : Token} {fault : ParseFault}
    (h : state.step token = .reject fault) :
    (∃ pending, state = .needsOperand pending ∧ fault = .expectedExpression) ∨
      ∃ operand pending, state = .hasOperand operand pending ∧ fault = .unclosedGroup ∧
        0 < openGroups pending := by
  cases state with
  | needsOperand pending =>
    refine .inl ⟨pending, rfl, ?_⟩
    simp only [step] at h
    split at h
    · cases h
    · split at h
      · cases h
      · split at h <;> cases h
        rfl
  | hasOperand operand pending =>
    -- behind an operand only an open parenthesis is in the way of accepting
    refine .inr ⟨operand, pending, rfl, ?_⟩
    cases hrank : token.kind.rank? with
    | some rank => simp [step, hrank] at h
    | none =>
      obtain ⟨tree, hc, -⟩ | ⟨tree, rest, hc, hopen⟩ := collapse_zero_cases operand pending
      · simp [step, hrank, hc] at h
      · simp only [step, hrank, hc] at h
        split at h <;> cases h
        exact ⟨rfl, hopen ▸ Nat.succ_pos _⟩

/-- **A reading that is rejected** is a run to a state that the next token cannot go on from. -/
theorem read_start_eq_rejected_iff {tokens : List Token} {count : Nat} {fault : ParseFault}
    {token : Token} :
    ReaderState.start.read tokens = (count, .rejected fault token) ↔
      ∃ last, Consumes .start (tokens.take count) last ∧ tokens[count]? = some token ∧
        last.step token = .reject fault := by
  rw [read_eq_iff (by simp)]
  constructor
  · rintro ⟨last, next, hrun, hnext, hstop⟩
    obtain ⟨hstep, rfl⟩ := ReaderStep.reading?_eq_rejected_iff.mp hstop
    exact ⟨last, hrun, hnext, hstep⟩
  · rintro ⟨last, hrun, hnext, hstep⟩
    exact ⟨last, token, hrun, hnext, ReaderStep.reading?_eq_rejected_iff.mpr ⟨hstep, rfl⟩⟩

end ReaderState

/-! ## Parse errors -/

/-- **A parse error is at the first token that cannot go on.** It is recorded with the token at the
position of the parser. Other tokens that agree up to and with that token have the same error. The
tokens before it are viable: a literal, if an operand is missing, and closing parentheses for the
unmatched ones make them an expression; a parenthesis is missing only if one is unmatched. -/
theorem parse_error_viable {tokens : List Token} {parser : Parser} (hends : EndsInEof tokens)
    (hfail : parseTokens tokens = .ok (none, parser)) :
    ∃ fault token, parser.errors = [⟨fault, token⟩] ∧ tokens[parser.position]? = some token ∧
      (∀ other, EndsInEof other →
        other.take (parser.position + 1) = tokens.take (parser.position + 1) →
        ∃ parser', parseTokens other = .ok (none, parser') ∧ parser'.errors = [⟨fault, token⟩] ∧
          parser'.position = parser.position) ∧
      (fault.message = "Expected expression." → ∀ number tail, number.kind = .number →
        IsClosing (unmatchedParens (tokens.take parser.position)) tail →
        ParsesWholly (tokens.take parser.position ++ number :: tail)) ∧
      (fault.message = "Expected ')' after expression." →
        0 < unmatchedParens (tokens.take parser.position) ∧ ∀ tail,
          IsClosing (unmatchedParens (tokens.take parser.position)) tail →
          ParsesWholly (tokens.take parser.position ++ tail)) := by
  obtain ⟨count, fault, token, hread, rfl⟩ := (parseTokens_eq_none_iff hends).mp hfail
  obtain ⟨last, hrun, htoken, hstep⟩ := ReaderState.read_start_eq_rejected_iff.mp hread
  have hopen : openGroups last.pending = unmatchedParens (tokens.take count) := hrun.openGroups_eq
  refine ⟨fault, token, rfl, htoken, ?_, ?_, ?_⟩
  · -- the other tokens lead to the same state and the same token
    intro other hother hsame
    have htake : other.take count = tokens.take count := by
      have h := congrArg (List.take count) hsame
      simpa [List.take_take] using h
    have hnext : other[count]? = some token := by
      have h := congrArg (·[count]?) hsame
      simpa [List.getElem?_take, htoken] using h
    have hread' : ReaderState.start.read other = (count, .rejected fault token) :=
      ReaderState.read_start_eq_rejected_iff.mpr ⟨last, htake ▸ hrun, hnext, hstep⟩
    exact ⟨_, (parseTokens_eq_none_iff hother).mpr ⟨count, fault, token, hread', rfl⟩, rfl, rfl⟩
  · -- an operand is missing: after the number the reader has one
    intro hmessage number tail hnumber htail
    obtain ⟨pending, rfl, -⟩ | ⟨operand, pending, -, rfl, -⟩ := ReaderState.step_eq_reject hstep
    · have hstep' : (ReaderState.needsOperand pending).step number =
          .consume (.hasOperand (.literal number.literal) pending) := by
        simp [ReaderState.step, hnumber, TokenKind.isPrefixOp, Token.operand?]
      have hwhole := (hrun.trans (.single hstep')).parsesWholly (hopen ▸ htail)
      simpa using hwhole
    · exact absurd hmessage (by decide)
  · -- a parenthesis is missing: the reader has an operand already
    intro hmessage
    obtain ⟨pending, -, rfl⟩ | ⟨operand, pending, rfl, -, hpos⟩ := ReaderState.step_eq_reject hstep
    · exact absurd hmessage (by decide)
    · exact ⟨hopen ▸ hpos, fun tail htail => hrun.parsesWholly (hopen ▸ htail)⟩

/-- In `( ( 1 * ;` an operand is missing at the semicolon, with two parentheses open, and in
`! ( nil true` a parenthesis is missing at the second operand. -/
theorem parse_error_viable_semicolon :
    let token (kind : TokenKind) : Token := { kind := kind, location := Location.start none }
    let product := [token .leftParen, token .leftParen, token .number, token .star]
    let negation := [token .bang, token .leftParen, token .kwNil]
    let closing := [token .rightParen, token .eof]
    (∃ parser, parseTokens (product ++ [token .semicolon, token .eof]) = .ok (none, parser) ∧
        parser.errors = [⟨.expectedExpression, token .semicolon⟩]) ∧
      ParsesWholly (product ++ token .number :: token .rightParen :: closing) ∧
      (∃ parser, parseTokens (negation ++ [token .kwTrue, token .eof]) = .ok (none, parser) ∧
        parser.errors = [⟨.unclosedGroup, token .kwTrue⟩]) ∧
      ParsesWholly (negation ++ closing) := by
  intro token product negation closing
  have heof (tokens : List Token) : EndsInEof (tokens ++ [token .eof]) :=
    ⟨token .eof, by simp, rfl⟩
  refine ⟨⟨_, rfl, rfl⟩, ?_, ⟨_, rfl, rfl⟩, ?_⟩
  · obtain ⟨fault, offender, herrors, -, -, hviable, -⟩ :=
      parse_error_viable (heof (product ++ [token .semicolon])) rfl
    cases herrors
    have hclosing : IsClosing 2 (token .rightParen :: closing) :=
      ⟨[token .rightParen, token .rightParen], _, rfl, rfl, by simp [token], rfl⟩
    exact hviable rfl (token .number) _ rfl hclosing
  · obtain ⟨fault, offender, herrors, -, -, -, hviable⟩ :=
      parse_error_viable (heof (negation ++ [token .kwTrue])) rfl
    cases herrors
    have hclosing : IsClosing 1 closing :=
      ⟨[token .rightParen], _, rfl, rfl, by simp [token], rfl⟩
    exact (hviable rfl).2 _ hclosing

end Lox
