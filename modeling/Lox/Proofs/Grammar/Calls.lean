import Lox.Proofs.Grammar.Reading

/-!
# Calls of a parser

A parser can be asked for expressions and told to skip in any order, as often as its caller likes,
also after errors and at the end of the text. It never passes the first end of the text among its
tokens, and every call passes a token, or adds an error, or finds the parser at that end.

The caller can therefore recover from errors in rounds: a round reads an expression, and skips to
the next statement boundary when there is none. Each round gets ahead, so that the end of the text
is reached within as many rounds as there are tokens.

## Main definitions

* `firstEnd`: where the first end of the text stands
* `Parser.InRange`: a parser at or before the first end of the text
* `Parser.Passes`, `Parser.Records`: the two effects of a call that is not at the end
* `Parser.Answers`: what reading an expression does to the parser and to its caller
* `performAll`: the calls of a caller, in order
* `recover`: rounds of recovery

## Main results

* `Parser.InRange.parseReporting`, `Parser.InRange.synchronize`: what a call does in range
* `Parser.InRange.performAll`: any calls succeed, stay in range and do not go back
* `Parser.InRange.recover`: each round of recovery gets ahead
* `parser_calls`: a parser stays in range and makes progress, whatever the calls
-/

namespace Lox

/-! ## The first end of the text -/

/-- The position of the first end of the text. -/
def firstEnd (tokens : List Token) : Nat :=
  tokens.findIdx (·.kind = .eof)

theorem firstEnd_cons_of_eof {token : Token} (h : token.kind = .eof) (rest : List Token) :
    firstEnd (token :: rest) = 0 := by
  simp [firstEnd, List.findIdx_cons, h]

theorem firstEnd_cons_of_ne {token : Token} (h : token.kind ≠ .eof) (rest : List Token) :
    firstEnd (token :: rest) = firstEnd rest + 1 := by
  simp [firstEnd, List.findIdx_cons, h]

/-- Where no end of the text has been passed, the first one is still ahead. -/
theorem firstEnd_drop {tokens : List Token} {n : Nat} (h : n ≤ firstEnd tokens) :
    n + firstEnd (tokens.drop n) = firstEnd tokens := by
  induction n generalizing tokens with
  | zero => rw [List.drop_zero, Nat.zero_add]
  | succ n ih =>
    cases tokens with
    | nil => cases h
    | cons token rest =>
      by_cases heof : token.kind = .eof
      · rw [firstEnd_cons_of_eof heof] at h
        cases h
      · rw [firstEnd_cons_of_ne heof] at h ⊢
        have hrest := ih (Nat.le_of_succ_le_succ h)
        rw [List.drop_succ_cons]
        omega

theorem EndsInEof.firstEnd_lt {tokens : List Token} (h : EndsInEof tokens) :
    firstEnd tokens < tokens.length := by
  obtain ⟨token, hmem, heof⟩ := h.exists_eof
  exact List.findIdx_lt_length_of_exists ⟨token, hmem, by simpa using heof⟩

/-! ## Readings and skips before the first end -/

/-- No reading passes the end of the text. -/
theorem ReaderState.read_le_firstEnd (state : ReaderState) (tokens : List Token) :
    (state.read tokens).1 ≤ firstEnd tokens := by
  induction tokens generalizing state with
  | nil => exact Nat.le_refl 0
  | cons token rest ih =>
    cases hstep : state.step token with
    | consume next =>
      have hne : token.kind ≠ .eof := fun heof => step_ne_consume_of_eof heof hstep
      rw [read_cons_of_consume rest hstep, firstEnd_cons_of_ne hne]
      exact Nat.succ_le_succ (ih next)
    | accept | reject => simp [read, hstep]

/-- An expression is not accepted where an operand is needed. -/
theorem ReaderState.step_needsOperand_ne_accept {pending : List Pending} {token : Token}
    {tree : Expr} : (needsOperand pending).step token ≠ .accept tree := by
  simp only [step]
  split
  · simp
  · split
    · simp
    · split <;> simp

/-- No expression is empty. -/
theorem ReaderState.pos_of_read_start {tokens : List Token} {count : Nat} {tree : Expr}
    (h : ReaderState.start.read tokens = (count, .accepted tree)) : 0 < count := by
  cases tokens with
  | nil => cases h
  | cons token rest =>
    cases hstep : ReaderState.start.step token with
    | consume next =>
      rw [read_cons_of_consume rest hstep] at h
      obtain ⟨rfl, -⟩ := Prod.mk.inj h
      exact Nat.succ_pos _
    | accept => exact absurd hstep step_needsOperand_ne_accept
    | reject =>
      rw [read, hstep] at h
      cases h

/-- Before an end of the text, tokens are discarded up to a boundary, and the end is not passed. -/
theorem Parser.discard_of_eof {tokens : List Token} (h : ∃ token ∈ tokens, token.kind = .eof)
    (previous : Token) : ∃ count ≤ firstEnd tokens, discard previous tokens = .ok count := by
  induction tokens generalizing previous with
  | nil =>
    obtain ⟨_, hmem, -⟩ := h
    cases hmem
  | cons token rest ih =>
    rw [discard]
    split
    · exact ⟨0, Nat.zero_le _, rfl⟩
    · next hboundary =>
      have hne : token.kind ≠ .eof := fun heof => hboundary (by simp [heof])
      -- the token is no end of the text, and so there is one among the rest
      obtain ⟨_, hmem, heof⟩ := h
      rcases List.mem_cons.mp hmem with rfl | hmem
      · exact absurd heof hne
      obtain ⟨count, hle, hcount⟩ := ih ⟨_, hmem, heof⟩ token
      refine ⟨count + 1, ?_, by rw [hcount]; rfl⟩
      rw [firstEnd_cons_of_ne hne]
      exact Nat.succ_le_succ hle

/-! ## The effects of a call -/

namespace Parser

/-- The parser is at or before the first end of the text among the tokens. -/
structure InRange (tokens : List Token) (parser : Parser) : Prop where
  tokens_eq : parser.tokens = tokens
  position_le : parser.position ≤ firstEnd tokens

/-- At least one token has been passed, and nothing else has changed. -/
structure Passes (before after : Parser) : Prop where
  tokens_eq : after.tokens = before.tokens
  position_lt : before.position < after.position
  errors_eq : after.errors = before.errors

/-- One error has been added, at the token where the parser now stands. -/
structure Records (error : ParseError) (before after : Parser) : Prop where
  tokens_eq : after.tokens = before.tokens
  position_le : before.position ≤ after.position
  errors_eq : after.errors = before.errors ++ [error]
  token_eq : after.tokens[after.position]? = some error.token

/-- An expression has been read for a caller: a tree is answered behind its tokens, and the caller
hears nothing, or one error is recorded, and reported to the caller once. -/
inductive Answers {σ : Type} (report : ParseError → σ → σ) :
    Parser × σ → Option Expr → Parser × σ → Prop
  | tree {before after : Parser} {state : σ} {tree : Expr} :
      before.Passes after → Answers report (before, state) (some tree) (after, state)
  | error {before after : Parser} {state : σ} {error : ParseError} :
      before.Records error after → Answers report (before, state) none (after, report error state)

theorem Answers.position_le {σ : Type} {report : ParseError → σ → σ} {before after : Parser × σ}
    {answer : Option Expr} (h : Answers report before answer after) :
    before.1.position ≤ after.1.position := by
  cases h with
  | tree hpasses => exact Nat.le_of_lt hpasses.position_lt
  | error hrecords => exact hrecords.position_le

namespace InRange

variable {tokens : List Token} {parser : Parser}

/-- A fresh parser is in range. -/
theorem fresh (tokens : List Token) : InRange tokens { tokens := tokens } :=
  ⟨rfl, Nat.zero_le _⟩

/-- **Reading in range**: an expression is answered or an error recorded, and the end of the text is
not passed. -/
theorem parseReporting {σ : Type} (h : parser.InRange tokens) (hends : EndsInEof tokens)
    (report : ParseError → σ → σ) (state : σ) :
    ∃ answer next heard, parser.parseReporting report state = .ok (answer, next, heard) ∧
      next.InRange tokens ∧ Answers report (parser, state) answer (next, heard) := by
  obtain ⟨rfl, hle⟩ := h
  have hp : parser.position < parser.tokens.length := Nat.lt_of_le_of_lt hle hends.firstEnd_lt
  have hparse := parse_eq_afterReading hends hp
  -- what is read from the position on ends before the first end of the text
  have hcount := ReaderState.read_le_firstEnd .start (parser.tokens.drop parser.position)
  have hend := firstEnd_drop hle
  obtain ⟨count, tree, hread⟩ | ⟨count, fault, token, hread⟩ :=
    (hends.drop hp).read_cases .start <;> rw [hread] at hparse hcount
  · have hpos := ReaderState.pos_of_read_start hread
    refine ⟨some tree, { parser with position := parser.position + count }, state, ?_,
      ⟨rfl, ?_⟩, .tree ⟨rfl, ?_, rfl⟩⟩
    · rw [Parser.parseReporting, hparse]
      rfl
    · exact hend ▸ Nat.add_le_add_left hcount _
    · exact Nat.lt_add_of_pos_right hpos
  · have htoken := ReaderState.getElem?_of_read_rejected hread
    rw [List.getElem?_drop] at htoken
    refine ⟨none, { parser with
      position := parser.position + count
      errors := parser.errors ++ [⟨fault, token⟩] }, report ⟨fault, token⟩ state, ?_,
      ⟨rfl, ?_⟩, .error ⟨rfl, Nat.le_add_right _ _, rfl, htoken⟩⟩
    · rw [Parser.parseReporting, hparse]
      show Except.ok (_, _, (parser.errors ++ [_]).getLast?.elim state (report · state)) = _
      rw [List.getLast?_concat]
      rfl
    · exact hend ▸ Nat.add_le_add_left hcount _

/-- **Skipping in range**: tokens are passed, but not the end of the text, and at that end nothing
changes. -/
theorem synchronize (h : parser.InRange tokens) (hends : EndsInEof tokens) :
    ∃ next, parser.synchronize = .ok next ∧ next.InRange tokens ∧
      (parser.position = firstEnd tokens ∧ next = parser ∨
        parser.position < firstEnd tokens ∧ parser.Passes next) := by
  obtain ⟨rfl, hle⟩ := h
  have hp : parser.position < parser.tokens.length := Nat.lt_of_le_of_lt hle hends.firstEnd_lt
  have hend := firstEnd_drop hle
  have hdrop := hends.drop hp
  rw [Parser.synchronize]
  cases hrest : parser.tokens.drop parser.position with
  | nil => exact absurd (List.drop_eq_nil_iff.mp hrest) (Nat.not_le_of_lt hp)
  | cons token rest =>
    rw [hrest] at hend hdrop
    by_cases heof : token.kind = .eof
    · rw [firstEnd_cons_of_eof heof] at hend
      exact ⟨parser, if_pos heof, ⟨rfl, hle⟩, .inl ⟨hend, rfl⟩⟩
    · -- the end of the text is among the tokens behind the one that is always passed
      obtain ⟨eof, hmem, hkind⟩ := hdrop.exists_eof
      have hmem : eof ∈ rest :=
        (List.mem_cons.mp hmem).resolve_left fun heq => heof (heq ▸ hkind)
      obtain ⟨count, hcount, hdiscard⟩ := discard_of_eof ⟨eof, hmem, hkind⟩ token
      rw [firstEnd_cons_of_ne heof] at hend
      refine ⟨{ parser with position := parser.position + 1 + count }, ?_, ⟨rfl, ?_⟩,
        .inr ⟨by omega, rfl, ?_, rfl⟩⟩
      · simp only [if_neg heof, hdiscard]
        rfl
      · show parser.position + 1 + count ≤ firstEnd parser.tokens
        omega
      · show parser.position < parser.position + 1 + count
        omega

end InRange

end Parser

/-! ## Calls in any order -/

/-- The calls that move a parser. -/
inductive ParserCall where
  | parse
  | synchronize
deriving DecidableEq, Repr

section Callers

variable {σ : Type} (report : ParseError → σ → σ)

/-- A call, by a caller with a state of its own. -/
def ParserCall.perform (held : Parser × σ) : ParserCall → Except PastInput (Parser × σ)
  | parse => do
    let (_, next, heard) ← held.1.parseReporting report held.2
    return (next, heard)
  | synchronize => do
    let next ← held.1.synchronize
    return (next, held.2)

/-- Calls, one after the other. -/
def performAll (calls : List ParserCall) (held : Parser × σ) : Except PastInput (Parser × σ) :=
  calls.foldlM (ParserCall.perform report) held

/-- One round of recovery: an expression is read, and when there is none, the parser skips to the
next statement boundary. -/
def recoverOnce (held : Parser × σ) : Except PastInput (Parser × σ) := do
  match ← held.1.parseReporting report held.2 with
  | (some _, next, heard) => return (next, heard)
  | (none, next, heard) =>
    let next ← next.synchronize
    return (next, heard)

/-- Rounds of recovery. -/
def recover : (rounds : Nat) → Parser × σ → Except PastInput (Parser × σ)
  | 0, held => .ok held
  | rounds + 1, held => do
    let held ← recoverOnce report held
    recover rounds held

variable {tokens : List Token} (hends : EndsInEof tokens) {held : Parser × σ}
include hends

/-- A call succeeds, stays in range and does not go back. -/
theorem Parser.InRange.perform (h : held.1.InRange tokens) (call : ParserCall) :
    ∃ next, call.perform report held = .ok next ∧ next.1.InRange tokens ∧
      held.1.position ≤ next.1.position := by
  cases call with
  | parse =>
    obtain ⟨answer, next, heard, hparse, hnext, hanswer⟩ := h.parseReporting hends report held.2
    exact ⟨(next, heard), by rw [ParserCall.perform, hparse]; rfl, hnext, hanswer.position_le⟩
  | synchronize =>
    obtain ⟨next, hskip, hnext, hmove⟩ := h.synchronize hends
    refine ⟨(next, held.2), by rw [ParserCall.perform, hskip]; rfl, hnext, ?_⟩
    obtain ⟨-, rfl⟩ | ⟨-, hpasses⟩ := hmove
    · exact Nat.le_refl _
    · exact Nat.le_of_lt hpasses.position_lt

/-- **Any calls succeed, stay in range and do not go back.** -/
theorem Parser.InRange.performAll (h : held.1.InRange tokens) (calls : List ParserCall) :
    ∃ last, performAll report calls held = .ok last ∧ last.1.InRange tokens ∧
      held.1.position ≤ last.1.position := by
  induction calls generalizing held with
  | nil => exact ⟨held, rfl, h, Nat.le_refl _⟩
  | cons call calls ih =>
    obtain ⟨next, hcall, hnext, hle⟩ := h.perform report hends call
    obtain ⟨last, hcalls, hlast, hle'⟩ := ih hnext
    refine ⟨last, ?_, hlast, Nat.le_trans hle hle'⟩
    rw [Lox.performAll, List.foldlM_cons, hcall]
    exact hcalls

/-- A round of recovery gets ahead, or ends at the end of the text. -/
theorem Parser.InRange.recoverOnce (h : held.1.InRange tokens) :
    ∃ next, recoverOnce report held = .ok next ∧ next.1.InRange tokens ∧
      (held.1.position < next.1.position ∨ next.1.position = firstEnd tokens) := by
  obtain ⟨answer, next, heard, hparse, hnext, hanswer⟩ := h.parseReporting hends report held.2
  rw [Lox.recoverOnce, hparse]
  cases hanswer with
  | tree hpasses => exact ⟨(next, held.2), rfl, hnext, .inl hpasses.position_lt⟩
  | @error _ _ _ error hrecords =>
    obtain ⟨last, hskip, hlast, hmove⟩ := hnext.synchronize hends
    refine ⟨(last, report error held.2), ?_, hlast, ?_⟩
    · show (do let next ← next.synchronize; return (next, _)) = _
      rw [hskip]
      rfl
    · rcases hmove with ⟨hend, rfl⟩ | ⟨-, hpasses⟩
      · exact .inr hend
      · exact .inl (Nat.lt_of_le_of_lt hrecords.position_le hpasses.position_lt)

/-- **Every round of recovery gets ahead**, until the end of the text is reached. -/
theorem Parser.InRange.recover (h : held.1.InRange tokens) (rounds : Nat) :
    ∃ last, recover report rounds held = .ok last ∧ last.1.InRange tokens ∧
      (held.1.position + rounds ≤ last.1.position ∨ last.1.position = firstEnd tokens) := by
  induction rounds generalizing held with
  | zero => exact ⟨held, rfl, h, .inl (Nat.le_refl _)⟩
  | succ rounds ih =>
    obtain ⟨next, honce, hnext, hmove⟩ := h.recoverOnce report hends
    obtain ⟨last, hrounds, hlast, hahead⟩ := ih hnext
    refine ⟨last, by rw [Lox.recover, honce]; exact hrounds, hlast, ?_⟩
    -- a parser that has reached the end stays there, as it cannot get ahead in range
    have hbound := hlast.position_le
    omega

end Callers

/-- **A parser stays in range and makes progress, whatever the calls.** On tokens that end in the
end of the text, any sequence of calls succeeds, and leaves the parser at or before the first end of
the text. The next expression is then answered behind at least one token, or one error is recorded
where the parser stands and reported once; a skip passes tokens and records nothing, except that it
changes nothing at the end of the text; and recovery reaches that end within as many rounds as there
are tokens. -/
theorem parser_calls {σ : Type} (report : ParseError → σ → σ) {tokens : List Token}
    (hends : EndsInEof tokens) (calls : List ParserCall) (start : σ) :
    ∃ parser state,
      performAll report calls ({ tokens := tokens }, start) = .ok (parser, state) ∧
      parser.InRange tokens ∧
      (∃ answer next heard, parser.parseReporting report state = .ok (answer, next, heard) ∧
        next.InRange tokens ∧ Parser.Answers report (parser, state) answer (next, heard)) ∧
      (∃ next, parser.synchronize = .ok next ∧ next.InRange tokens ∧
        (parser.position = firstEnd tokens ∧ next = parser ∨
          parser.position < firstEnd tokens ∧ parser.Passes next)) ∧
      ∃ rounds ≤ tokens.length, ∃ last, recover report rounds (parser, state) = .ok last ∧
        last.1.position = firstEnd tokens := by
  have hfresh : (({ tokens := tokens } : Parser), start).1.InRange tokens := .fresh tokens
  obtain ⟨⟨parser, state⟩, hcalls, hrange, -⟩ := hfresh.performAll report hends calls
  refine ⟨parser, state, hcalls, hrange, hrange.parseReporting hends report state,
    hrange.synchronize hends, tokens.length, Nat.le_refl _, ?_⟩
  obtain ⟨last, hrounds, hlast, hahead⟩ := hrange.recover report hends tokens.length
  -- there are fewer positions before the end of the text than tokens
  have hbound := hlast.position_le
  have hlt := hends.firstEnd_lt
  exact ⟨last, hrounds, hahead.resolve_left (by omega)⟩

/-- The first end of the text stands behind `* ; nil`, and another `nil` and a second end follow it.
An error at the star and a skip bring the parser to the first `nil`, with one error reported. From
there it can skip, and recovery ends at the first end of the text. -/
theorem parser_calls_two_ends :
    let place := Location.start none
    let token (kind : TokenKind) : Token := { kind := kind, location := place }
    let tokens := [token .star, token .semicolon, token .kwNil, token .eof, token .kwNil,
      token .eof]
    let count (_ : ParseError) (reports : Nat) := reports + 1
    EndsInEof tokens ∧ firstEnd tokens = 3 ∧
      ∃ parser,
        performAll count [.parse, .synchronize] ({ tokens := tokens }, 0) = .ok (parser, 1) ∧
        parser.position = 2 ∧ parser.InRange tokens ∧
        (∃ next, parser.synchronize = .ok next ∧ next.InRange tokens ∧ parser.Passes next) ∧
        ∃ rounds ≤ 6, ∃ last, recover count rounds (parser, 1) = .ok last ∧
          last.1.position = 3 := by
  intro place token tokens count
  have hends : EndsInEof tokens := ⟨token .eof, rfl, rfl⟩
  obtain ⟨parser, state, hcalls, hrange, -, ⟨next, hskip, hnext, hmove⟩, hrecover⟩ :=
    parser_calls count hends [.parse, .synchronize] 0
  cases hcalls
  obtain ⟨hend, -⟩ | ⟨-, hpasses⟩ := hmove
  · cases hend
  · exact ⟨hends, rfl, _, rfl, rfl, hrange, ⟨next, hskip, hnext, hpasses⟩, hrecover⟩

end Lox
