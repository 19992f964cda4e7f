import Lox.Proofs.Grammar.Derivation
import Lox.Proofs.Grammar.Reading

/-!
# What the reader has read

The pending constructs of a reader spell the tokens it has consumed: a prefix operator spells
itself, an infix operator its left operand and itself, an open parenthesis itself. The invariant
`ReaderState.Spells` says so, and that each left operand binds as tight as its operator asks.
Collapsing keeps the spelling, hence what the reader accepts is derived by the grammar.

## Main definitions

* `Fits`: an operand of a rank belongs to the innermost pending construct
* `Opens`: pending constructs and the tokens they spell
* `ReaderState.Spells`: a state of the reader and the tokens it has consumed

## Main results

* `Opens.collapse`: a collapsed operand is derived from the tokens it takes
* `ReaderState.Spells.consumes`: the invariant holds along every run
* `ReaderState.Spells.accepts`: an accepted tree is derived from the consumed tokens
-/

namespace Lox

/-! ## Operands and pending constructs -/

/-- An operand of the rank can stand behind the innermost pending construct: behind a prefix
operator a unary expression, and behind an infix operator one that binds tighter. -/
def Fits (rank : Nat) : List Pending → Prop
  | .unary _ :: _ => Nonterminal.unary.rank ≤ rank
  | .binary _ _ own :: _ => own < rank
  | _ => True

theorem Fits.mono {rank rank' : Nat} {pending : List Pending} (h : Fits rank pending)
    (hr : rank ≤ rank') : Fits rank' pending := by
  match pending, h with
  | [], _ => trivial
  | .group :: _, _ => trivial
  | .unary _ :: _, h => exact Nat.le_trans h hr
  | .binary _ _ _ :: _, h => exact Nat.lt_of_lt_of_le h hr

/-- An operator takes nothing from a pending construct that its chain fits behind. -/
theorem collapse_of_fits {level : InfixLevel} {pending : List Pending}
    (h : Fits level.rank pending) (operand : Expr) :
    collapse level.rank operand pending = (operand, pending) := by
  match pending, h with
  | [], _ => rfl
  | .group :: _, _ => rfl
  | .unary _ :: _, h => exact absurd h (Nat.not_le_of_lt level.rank_lt_unary)
  | .binary _ _ _ :: _, h => rw [collapse, if_neg (Nat.not_le_of_lt h)]

/-- **The pending constructs and their tokens**, the innermost construct first. The left operand of
a pending operator is a chain of the operator's level, and nothing outside can take it. -/
inductive Opens : List Pending → List Token → Prop
  | nil : Opens [] []
  | unary {pending tokens op} :
      Opens pending tokens → op.kind ∈ prefixOperators →
      Opens (.unary op :: pending) (tokens ++ [op])
  | binary {pending tokens own left op} (level : InfixLevel) :
      Opens pending tokens → Fits level.rank pending →
      Derives (.chain level) own left → op.kind ∈ level.operators →
      Opens (.binary left op level.rank :: pending) (tokens ++ own ++ [op])
  | group {pending tokens opening} :
      Opens pending tokens → opening.kind = .leftParen →
      Opens (.group :: pending) (tokens ++ [opening])

/-- A unary expression fits behind every pending construct. -/
theorem Opens.fits_unary {pending : List Pending} {tokens : List Token} (h : Opens pending tokens) :
    Fits Nonterminal.unary.rank pending := by
  cases h with
  | nil | group => trivial
  | unary => exact Nat.le_refl _
  | binary level => exact level.rank_lt_unary

/-- **Collapsing keeps the spelling.** An operand collapsed at a rank that takes the levels from
`level` on is a chain of `level`; it is derived from the last tokens, and the constructs that
remain spell the tokens before. -/
theorem Opens.collapse {pending : List Pending} {before : List Token} (h : Opens pending before)
    (level : InfixLevel) (rank : Nat)
    (hrank : ∀ other : InfixLevel, rank ≤ other.rank ↔ level.rank ≤ other.rank) :
    ∀ {n : Nonterminal} {own : List Token} {operand : Expr},
      Derives n own operand → Fits n.rank pending → level.rank ≤ n.rank →
      ∃ tree rest outer inner, Lox.collapse rank operand pending = (tree, rest) ∧
        before ++ own = outer ++ inner ∧ Opens rest outer ∧
        Derives (.chain level) inner tree ∧ Fits level.rank rest := by
  induction h with
  | nil =>
    intro n own operand hd _ hl
    exact ⟨operand, [], [], own, rfl, rfl, .nil, hd.loosen hl, trivial⟩
  | @unary pending tokens op h hop ih =>
    intro n own operand hd hf _
    -- a prefix operator always takes its operand, and the two are a unary expression
    have hu : Derives .unary (op :: own) (.unary op operand) := .unary hop (hd.toUnary hf)
    obtain ⟨tree, rest, outer, inner, hc, happ, hrest⟩ :=
      ih hu h.fits_unary (Nat.le_of_lt level.rank_lt_unary)
    exact ⟨tree, rest, outer, inner, hc, by simpa using happ, hrest⟩
  | @binary pending tokens first left op inside h hfits hleft hop ih =>
    intro n own operand hd hf hl
    by_cases hle : rank ≤ inside.rank
    · -- the operand belongs to the pending operator, and the chain of that operator goes on
      have hb : Derives (.chain inside) (first ++ op :: own) (.binary left op operand) :=
        hleft.snoc hop (hd.toOperand hf)
      obtain ⟨tree, rest, outer, inner, hc, happ, hrest⟩ := ih hb hfits ((hrank inside).mp hle)
      refine ⟨tree, rest, outer, inner, ?_, by simpa using happ, hrest⟩
      rw [Lox.collapse, if_pos hle, hc]
    · refine ⟨operand, _, _, own, ?_, rfl, .binary inside h hfits hleft hop, hd.loosen hl, ?_⟩
      · rw [Lox.collapse, if_neg hle]
      · exact Nat.lt_of_not_le fun hlt => hle ((hrank inside).mpr hlt)
  | group h hop =>
    intro n own operand hd _ hl
    exact ⟨operand, _, _, own, rfl, rfl, .group h hop, hd.loosen hl, trivial⟩

/-- Only an open parenthesis can remain when everything that binds is collapsed. -/
theorem Opens.eq_nil_or_group {rest : List Pending} {outer : List Token} (h : Opens rest outer)
    (hf : Fits InfixLevel.equality.rank rest) :
    (rest = [] ∧ outer = []) ∨
      ∃ pending tokens opening, rest = .group :: pending ∧ outer = tokens ++ [opening] ∧
        Opens pending tokens ∧ opening.kind = .leftParen := by
  cases h with
  | nil => exact .inl ⟨rfl, rfl⟩
  | unary => exact absurd hf (Nat.not_le_of_lt InfixLevel.equality.rank_lt_unary)
  | binary level => exact absurd hf (Nat.not_lt_of_le level.one_le_rank)
  | group h hop => exact .inr ⟨_, _, _, rfl, rfl, h, hop⟩

/-! ## The invariant of the reader -/

namespace ReaderState

/-- **The invariant**: the tokens consumed are those that the pending constructs spell, followed by
those of the operand if there is one. -/
inductive Spells : ReaderState → List Token → Prop
  | needsOperand {pending tokens} : Opens pending tokens → Spells (.needsOperand pending) tokens
  | hasOperand {pending before own operand} :
      Opens pending before → Derives .primary own operand →
      Spells (.hasOperand operand pending) (before ++ own)

theorem spells_start : Spells .start [] :=
  .needsOperand .nil

/-- What a token without a rank finds: an expression over the last tokens, either the whole of them
or behind an open parenthesis. -/
theorem Spells.close {operand : Expr} {pending : List Pending} {tokens : List Token}
    (h : Spells (.hasOperand operand pending) tokens) :
    ∃ tree rest outer inner, collapse 0 operand pending = (tree, rest) ∧ tokens = outer ++ inner ∧
      Derives .expression inner tree ∧ Opens rest outer ∧ Fits InfixLevel.equality.rank rest := by
  cases h with
  | hasOperand h hd =>
    obtain ⟨tree, rest, outer, inner, hc, happ, hrest, htree, hfits⟩ :=
      h.collapse .equality 0
        (fun other => iff_of_true (Nat.zero_le _) other.one_le_rank) hd
        (h.fits_unary.mono (by decide)) (by decide)
    exact ⟨tree, rest, outer, inner, hc, happ, .expression htree, hrest, hfits⟩

/-- **One step keeps the invariant.** -/
theorem Spells.consume {state next : ReaderState} {tokens : List Token} {token : Token}
    (h : Spells state tokens) (hstep : state.step token = .consume next) :
    Spells next (tokens ++ [token]) := by
  cases h with
  | needsOperand h =>
    -- a prefix operator and an open parenthesis become pending, a literal becomes the operand
    simp only [step] at hstep
    split at hstep
    · next hprefix =>
      cases hstep
      exact .needsOperand (.unary h (isPrefixOp_iff.mp hprefix))
    · split at hstep
      · next hopen =>
        cases hstep
        exact .needsOperand (.group h hopen)
      · split at hstep
        · next value hvalue =>
          cases hstep
          exact .hasOperand h (.of_operand? hvalue)
        · cases hstep
  | @hasOperand pending before own operand h hd =>
    cases hrank : token.kind.rank? with
    | some rank =>
      -- an operator of a level takes the chain of that level as its left operand
      obtain ⟨level, rfl, hop⟩ := rank?_eq_some_iff.mp hrank
      obtain ⟨tree, rest, outer, inner, hc, happ, hrest, htree, hfits⟩ :=
        h.collapse level level.rank (fun _ => Iff.rfl) hd (h.fits_unary.mono (by decide))
          (Nat.le_of_lt (Nat.lt_succ_of_lt level.rank_lt_unary))
      simp only [step, hrank, hc] at hstep
      cases hstep
      rw [happ]
      exact .needsOperand (.binary level hrest hfits htree hop)
    | none =>
      obtain ⟨tree, rest, outer, inner, hc, happ, htree, hrest, hfits⟩ :=
        (Spells.hasOperand h hd).close
      -- only a closing parenthesis behind an open one is consumed
      obtain ⟨rfl, rfl⟩ | ⟨pending, front, opening, rfl, rfl, hopens, hopening⟩ :=
        hrest.eq_nil_or_group hfits
      · simp [step, hrank, hc] at hstep
      · simp only [step, hrank, hc] at hstep
        split at hstep
        · next hclose =>
          cases hstep
          have hgroup := Derives.group hopening htree hclose
          rw [happ]
          simpa using Spells.hasOperand hopens hgroup
        · cases hstep

/-- The invariant holds along every run. -/
theorem Spells.consumes {first last : ReaderState} {before after : List Token}
    (h : Spells first before) (hrun : Consumes first after last) :
    Spells last (before ++ after) := by
  induction hrun generalizing before with
  | refl => simpa using h
  | step hstep _ ih => simpa using ih (h.consume hstep)

/-- **What the reader accepts is an expression**, over all tokens consumed. -/
theorem Spells.accepts {state : ReaderState} {tokens : List Token} {token : Token} {tree : Expr}
    (h : Spells state tokens) (hstep : state.step token = .accept tree) :
    Derives .expression tokens tree ∧ token.kind.rank? = none := by
  cases state with
  | needsOperand pending =>
    simp only [step] at hstep
    split at hstep
    · cases hstep
    · split at hstep
      · cases hstep
      · split at hstep <;> cases hstep
  | hasOperand operand pending =>
    cases hrank : token.kind.rank? with
    | some rank => simp [step, hrank] at hstep
    | none =>
      obtain ⟨found, rest, outer, inner, hc, rfl, htree, hrest, hfits⟩ := h.close
      obtain ⟨rfl, rfl⟩ | ⟨pending, front, opening, rfl, rfl, -⟩ := hrest.eq_nil_or_group hfits
      · simp only [step, hrank, hc] at hstep
        cases hstep
        exact ⟨htree, rfl⟩
      · simp only [step, hrank, hc] at hstep
        split at hstep <;> cases hstep

end ReaderState

end Lox
