import Lox.Grammar.Parser

/-!
# Runs of the reader

A reading is a run of consuming steps and one last step, at a token that stops it. On tokens that
end in the end of the text some token stops the reader, so that a parser never looks past its
input, and what it answers is what the reader answers.

## Main definitions

* `ReaderState.Consumes`: the runs of consuming steps
* `ReaderStep.reading?`: how a reading ends at a token that stops it
* `EndsInEof`: the last token is the end of the text
* `Parser.afterReading`: the answer of a parser to a reading

## Main results

* `ReaderState.read_eq_iff`: a reading is a run and the step that stops it
* `EndsInEof.read_cases`: on tokens that end in the end of the text a reading stops
* `Parser.parse_eq_afterReading`: a parser answers as its reader does
* `parseTokens_eq_some_iff`, `parseTokens_eq_none_iff`: the two answers of a fresh parser
-/

namespace Lox

/-! ## The step that stops a reading -/

/-- How a reading ends at a token, unless the token is consumed. -/
def ReaderStep.reading? (token : Token) : ReaderStep → Option Reading
  | consume _ => none
  | accept tree => some (.accepted tree)
  | reject fault => some (.rejected fault token)

theorem ReaderStep.reading?_eq_accepted_iff {token : Token} {step : ReaderStep} {tree : Expr} :
    step.reading? token = some (.accepted tree) ↔ step = .accept tree := by
  cases step <;> simp [reading?]

theorem ReaderStep.reading?_eq_rejected_iff {token at_ : Token} {step : ReaderStep}
    {fault : ParseFault} :
    step.reading? token = some (.rejected fault at_) ↔ step = .reject fault ∧ token = at_ := by
  cases step <;> simp [reading?]

theorem ReaderStep.reading?_ne_unfinished {token : Token} {step : ReaderStep}
    {state : ReaderState} : step.reading? token ≠ some (.unfinished state) := by
  cases step <;> simp [reading?]

namespace ReaderState

/-! ## Runs -/

/-- The reader consumes the tokens and gets from the first state to the last. -/
inductive Consumes : ReaderState → List Token → ReaderState → Prop
  | refl (state : ReaderState) : Consumes state [] state
  | step {first next last : ReaderState} {token : Token} {tokens : List Token} :
      first.step token = .consume next → Consumes next tokens last →
      Consumes first (token :: tokens) last

theorem Consumes.single {first last : ReaderState} {token : Token}
    (h : first.step token = .consume last) : Consumes first [token] last :=
  .step h (.refl last)

theorem Consumes.trans {first middle last : ReaderState} {before after : List Token}
    (h : Consumes first before middle) (h' : Consumes middle after last) :
    Consumes first (before ++ after) last := by
  induction h with
  | refl => exact h'
  | step hstep _ ih => exact .step hstep (ih h')

/-- What follows a consumed token is read from the next state. -/
theorem read_cons_of_consume {state next : ReaderState} {token : Token} (rest : List Token)
    (h : state.step token = .consume next) :
    state.read (token :: rest) = ((next.read rest).1 + 1, (next.read rest).2) := by
  rw [read, h]

/-- A reading ends at a token that is not consumed. -/
theorem read_cons_of_stop {state : ReaderState} {token : Token} {reading : Reading}
    (rest : List Token) (h : (state.step token).reading? token = some reading) :
    state.read (token :: rest) = (0, reading) := by
  rw [read]
  cases hstep : state.step token <;> rw [hstep] at h <;> cases h <;> rfl

/-- **A run is a prefix of a reading**: the reading goes on in the last state of the run. -/
theorem Consumes.read_append {first last : ReaderState} {before : List Token}
    (h : Consumes first before last) (after : List Token) :
    first.read (before ++ after) =
      ((last.read after).1 + before.length, (last.read after).2) := by
  induction h with
  | refl => simp
  | step hstep _ ih =>
    rw [List.cons_append, read_cons_of_consume _ hstep, ih, List.length_cons, Nat.add_assoc]

/-- Every reading is a run, either over all tokens or up to the token that stops it. -/
theorem consumes_of_read {state : ReaderState} {tokens : List Token} {count : Nat}
    {reading : Reading} (h : state.read tokens = (count, reading)) :
    ∃ last, Consumes state (tokens.take count) last ∧
      ((reading = .unfinished last ∧ tokens.length = count) ∨
        ∃ token, tokens[count]? = some token ∧
          (last.step token).reading? token = some reading) := by
  induction tokens generalizing state count with
  | nil =>
    obtain ⟨rfl, rfl⟩ := Prod.mk.inj h
    exact ⟨state, .refl state, .inl ⟨rfl, rfl⟩⟩
  | cons token rest ih =>
    -- the token is consumed, and the run goes on behind it, or it stops the reading
    cases hstop : (state.step token).reading? token with
    | none =>
      obtain ⟨next, hstep⟩ : ∃ next, state.step token = .consume next := by
        cases hstep : state.step token <;> simp_all [ReaderStep.reading?]
      rw [read_cons_of_consume rest hstep] at h
      obtain ⟨rfl, hreading⟩ := Prod.mk.inj h
      obtain ⟨last, hrun, hlast⟩ := ih (Prod.ext rfl hreading)
      refine ⟨last, .step hstep hrun, ?_⟩
      simpa using hlast
    | some ending =>
      rw [read_cons_of_stop rest hstop] at h
      obtain ⟨rfl, rfl⟩ := Prod.mk.inj h
      exact ⟨state, .refl state, .inr ⟨token, rfl, hstop⟩⟩

/-- **A reading that stops** is a run to a state that the next token stops. -/
theorem read_eq_iff {state : ReaderState} {tokens : List Token} {count : Nat} {reading : Reading}
    (hr : ∀ last, reading ≠ .unfinished last) :
    state.read tokens = (count, reading) ↔
      ∃ last token, Consumes state (tokens.take count) last ∧ tokens[count]? = some token ∧
        (last.step token).reading? token = some reading := by
  constructor
  · intro h
    obtain ⟨last, hrun, ⟨hlast, -⟩ | ⟨token, htoken, hstop⟩⟩ := consumes_of_read h
    · exact absurd hlast (hr last)
    · exact ⟨last, token, hrun, htoken, hstop⟩
  · rintro ⟨last, token, hrun, htoken, hstop⟩
    obtain ⟨hlt, rfl⟩ := List.getElem?_eq_some_iff.mp htoken
    -- read the run first, and then the token behind it
    have h := hrun.read_append (tokens.drop count)
    rw [List.take_append_drop, List.drop_eq_getElem_cons hlt, read_cons_of_stop _ hstop,
      List.length_take_of_le (Nat.le_of_lt hlt), Nat.zero_add] at h
    exact h

/-- A reading is rejected at the token behind those it consumed. -/
theorem getElem?_of_read_rejected {state : ReaderState} {tokens : List Token} {count : Nat}
    {fault : ParseFault} {token : Token} (h : state.read tokens = (count, .rejected fault token)) :
    tokens[count]? = some token := by
  obtain ⟨last, next, -, hnext, hstop⟩ := (read_eq_iff (by simp)).mp h
  obtain ⟨-, rfl⟩ := ReaderStep.reading?_eq_rejected_iff.mp hstop
  exact hnext

/-! ## The end of the text -/

theorem step_ne_consume_of_eof {state next : ReaderState} {token : Token}
    (h : token.kind = .eof) : state.step token ≠ .consume next := by
  cases state with
  | needsOperand pending => simp [step, h, TokenKind.isPrefixOp, Token.operand?]
  | hasOperand operand pending =>
    simp only [step, h, TokenKind.rank?]
    split <;> simp

theorem Consumes.kind_ne_eof {first last : ReaderState} {tokens : List Token}
    (h : Consumes first tokens last) : ∀ token ∈ tokens, token.kind ≠ .eof := by
  induction h with
  | refl => simp
  | step hstep _ ih =>
    intro token htoken
    rcases List.mem_cons.mp htoken with rfl | htoken
    · exact fun heof => step_ne_consume_of_eof heof hstep
    · exact ih token htoken

end ReaderState

/-- The tokens end in the end of the text. -/
def EndsInEof (tokens : List Token) : Prop :=
  ∃ last ∈ tokens.getLast?, last.kind = .eof

theorem EndsInEof.exists_eof {tokens : List Token} (h : EndsInEof tokens) :
    ∃ token ∈ tokens, token.kind = .eof :=
  let ⟨last, hlast, heof⟩ := h
  ⟨last, List.mem_of_mem_getLast? hlast, heof⟩

theorem EndsInEof.length_pos {tokens : List Token} (h : EndsInEof tokens) : 0 < tokens.length :=
  let ⟨_, hmem, _⟩ := h.exists_eof
  List.length_pos_of_mem hmem

theorem EndsInEof.drop {tokens : List Token} (h : EndsInEof tokens) {n : Nat}
    (hn : n < tokens.length) : EndsInEof (tokens.drop n) := by
  obtain ⟨last, hlast, heof⟩ := h
  refine ⟨last, ?_, heof⟩
  rw [List.getLast?_drop, if_neg (Nat.not_le_of_lt hn)]
  exact hlast

/-- Some token stops a reader of tokens that end in the end of the text. -/
theorem ReaderState.read_of_endsInEof {state : ReaderState} {tokens : List Token}
    (h : EndsInEof tokens) (last : ReaderState) :
    (state.read tokens).2 ≠ .unfinished last := by
  intro hlast
  -- an unfinished reading has consumed all tokens, the end of the text among them
  obtain ⟨final, hrun, ⟨-, hlength⟩ | ⟨token, -, hstop⟩⟩ :=
    consumes_of_read (Prod.ext rfl hlast : state.read tokens = (_, .unfinished last))
  · obtain ⟨eof, hmem, hkind⟩ := h.exists_eof
    rw [← hlength, List.take_length] at hrun
    exact hrun.kind_ne_eof eof hmem hkind
  · exact ReaderStep.reading?_ne_unfinished hstop

/-- A reading of such tokens is accepted or rejected. -/
theorem EndsInEof.read_cases {tokens : List Token} (h : EndsInEof tokens) (state : ReaderState) :
    (∃ count tree, state.read tokens = (count, .accepted tree)) ∨
      ∃ count fault token, state.read tokens = (count, .rejected fault token) := by
  rcases hread : state.read tokens with ⟨count, tree | ⟨fault, token⟩ | last⟩
  · exact .inl ⟨count, tree, rfl⟩
  · exact .inr ⟨count, fault, token, rfl⟩
  · exact absurd (congrArg Prod.snd hread) (ReaderState.read_of_endsInEof h last)

namespace Parser

/-- The answer of a parser to a reading of its tokens, and the parser after it. -/
def afterReading (parser : Parser) : Nat × Reading → Option Expr × Parser
  | (count, .accepted tree) => (some tree, { parser with position := parser.position + count })
  | (count, .rejected fault token) =>
    (none, { parser with
      position := parser.position + count
      errors := parser.errors ++ [⟨fault, token⟩] })
  | (_, .unfinished _) => (none, parser)

/-- **A parser answers as its reader does**, when its tokens end in the end of the text. -/
theorem parse_eq_afterReading {parser : Parser} (h : EndsInEof parser.tokens)
    (hp : parser.position < parser.tokens.length) :
    parser.parse =
      .ok (parser.afterReading
        (ReaderState.start.read (parser.tokens.drop parser.position))) := by
  obtain ⟨count, tree, hread⟩ | ⟨count, fault, token, hread⟩ := (h.drop hp).read_cases .start
  · simp only [parse, read, hread]
    rfl
  · simp only [parse, read, hread]
    rfl

end Parser

/-- A fresh parser answers as its reader does. -/
theorem parseTokens_eq_afterReading {tokens : List Token} (h : EndsInEof tokens) :
    parseTokens tokens =
      .ok (({ tokens := tokens } : Parser).afterReading (ReaderState.start.read tokens)) :=
  Parser.parse_eq_afterReading h h.length_pos

/-- A fresh parser returns the tree that its reading is accepted with, and has no error. -/
theorem parseTokens_eq_some_iff {tokens : List Token} {tree : Expr} {parser : Parser}
    (h : EndsInEof tokens) :
    parseTokens tokens = .ok (some tree, parser) ↔
      ∃ count, ReaderState.start.read tokens = (count, .accepted tree) ∧
        parser = { tokens := tokens, position := count } := by
  rw [parseTokens_eq_afterReading h]
  obtain ⟨count, found, hread⟩ | ⟨count, fault, token, hread⟩ := h.read_cases .start <;> rw [hread]
  · constructor
    · intro hparse
      cases hparse
      exact ⟨count, rfl, by simp⟩
    · rintro ⟨_, hother, rfl⟩
      cases hother
      simp [Parser.afterReading]
  · constructor
    · intro hparse
      cases hparse
    · rintro ⟨_, hother, -⟩
      cases hother

/-- A fresh parser that returns no tree has one error, the one its reading is rejected with. -/
theorem parseTokens_eq_none_iff {tokens : List Token} {parser : Parser} (h : EndsInEof tokens) :
    parseTokens tokens = .ok (none, parser) ↔
      ∃ count fault token, ReaderState.start.read tokens = (count, .rejected fault token) ∧
        parser = { tokens := tokens, position := count, errors := [⟨fault, token⟩] } := by
  rw [parseTokens_eq_afterReading h]
  obtain ⟨count, tree, hread⟩ | ⟨count, fault, token, hread⟩ := h.read_cases .start <;> rw [hread]
  · constructor
    · intro hparse
      cases hparse
    · rintro ⟨_, _, _, hother, -⟩
      cases hother
  · constructor
    · intro hparse
      cases hparse
      exact ⟨count, fault, token, rfl, by simp⟩
    · rintro ⟨_, _, _, hother, rfl⟩
      cases hother
      simp [Parser.afterReading]

end Lox
