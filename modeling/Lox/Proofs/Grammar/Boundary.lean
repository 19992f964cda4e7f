import Lox.Proofs.Grammar.Reading
import Mathlib.Order.Bounds.Defs

/-!
# Statement boundaries

A statement can end behind a semicolon, before a keyword that opens a statement, and at the end of the
text. A parser that skips passes the token where it stands, whatever that is, and goes on to the next
such place. A boundary in front of the first token does not count, but one directly behind it does.

## Main definitions

* `IsStatementBoundary`: the places among tokens where a statement can end

## Main results

* `isStatementBoundary_drop`: boundaries among the tokens from a place on
* `Parser.discard_isLeast`: tokens are discarded up to the least boundary
* `Parser.synchronize_isLeast`: a skip leads to the least boundary behind the parser
-/

namespace Lox

/-! ## Boundaries -/

/-- **A statement boundary** among tokens: the place before the end of the text, behind a semicolon,
or before a keyword that opens a statement. -/
inductive IsStatementBoundary (tokens : List Token) : Nat → Prop
  | eof {j : Nat} {token : Token} :
      tokens[j]? = some token → token.kind = .eof → IsStatementBoundary tokens j
  | semicolon {j : Nat} {token : Token} :
      tokens[j]? = some token → token.kind = .semicolon → IsStatementBoundary tokens (j + 1)
  | keyword {j : Nat} {token : Token} :
      tokens[j]? = some token →
      token.kind ∈ [.kwClass, .kwFun, .kwVar, .kwFor, .kwIf, .kwWhile, .kwPrint, .kwReturn] →
      IsStatementBoundary tokens j

/-- A place behind some token is a boundary by that token or by the next one. -/
theorem isStatementBoundary_succ_iff {tokens : List Token} {j : Nat} :
    IsStatementBoundary tokens (j + 1) ↔
      (∃ token, tokens[j]? = some token ∧ token.kind = .semicolon) ∨
        ∃ token, tokens[j + 1]? = some token ∧
          (token.kind = .eof ∨ token.kind.startsStatement = true) := by
  constructor
  · intro h
    cases h with
    | eof htoken hkind => exact .inr ⟨_, htoken, .inl hkind⟩
    | semicolon htoken hkind => exact .inl ⟨_, htoken, hkind⟩
    | keyword htoken hkind => exact .inr ⟨_, htoken, .inr (decide_eq_true hkind)⟩
  · rintro (⟨token, htoken, hkind⟩ | ⟨token, htoken, hkind | hkind⟩)
    · exact .semicolon htoken hkind
    · exact .eof htoken hkind
    · exact .keyword htoken (of_decide_eq_true hkind)

/-- Behind the first token from a place on, the boundaries are those among all tokens. -/
theorem isStatementBoundary_drop {tokens : List Token} {n k : Nat} :
    IsStatementBoundary (tokens.drop n) (k + 1) ↔ IsStatementBoundary tokens (n + k + 1) := by
  rw [isStatementBoundary_succ_iff, isStatementBoundary_succ_iff, List.getElem?_drop,
    List.getElem?_drop, Nat.add_assoc]

/-- The place between the first two tokens is a boundary where a skip stops at once. -/
theorem isStatementBoundary_one_iff {previous token : Token} {rest : List Token} :
    IsStatementBoundary (previous :: token :: rest) 1 ↔
      (token.kind = .eof || previous.kind = .semicolon || token.kind.startsStatement) = true := by
  rw [← Nat.zero_add 1, isStatementBoundary_succ_iff]
  simp only [List.getElem?_cons_zero, List.getElem?_cons_succ, Option.some.injEq, exists_eq_left',
    Bool.or_eq_true, decide_eq_true_eq]
  rw [or_left_comm, or_assoc]

/-! ## Skipping -/

namespace Parser

/-- **Tokens are discarded up to the least boundary** behind the one before them. -/
theorem discard_isLeast {rest : List Token} (h : ∃ token ∈ rest, token.kind = .eof)
    (previous : Token) :
    ∃ count, discard previous rest = .ok count ∧
      IsLeast {k | IsStatementBoundary (previous :: rest) (k + 1)} count := by
  induction rest generalizing previous with
  | nil =>
    obtain ⟨_, hmem, -⟩ := h
    cases hmem
  | cons token rest ih =>
    rw [discard]
    by_cases hboundary : IsStatementBoundary (previous :: token :: rest) 1
    · -- the loop stops at once
      refine ⟨0, ?_, hboundary, fun k _ => Nat.zero_le k⟩
      rw [if_pos (isStatementBoundary_one_iff.mp hboundary)]
    · have hgo := mt isStatementBoundary_one_iff.mpr hboundary
      have hne : token.kind ≠ .eof := fun heof => hgo (by simp [heof])
      -- the token is no end of the text, and so there is one among the rest
      obtain ⟨eof, hmem, heof⟩ := h
      have hrest : eof ∈ rest := (List.mem_cons.mp hmem).resolve_left fun heq => hne (heq ▸ heof)
      obtain ⟨count, hcount, hboundaryCount, hleast⟩ := ih ⟨eof, hrest, heof⟩ token
      have hshift (k : Nat) : IsStatementBoundary (token :: rest) (k + 1) ↔
          IsStatementBoundary (previous :: token :: rest) (k + 1 + 1) := by
        have hdrop := @isStatementBoundary_drop (previous :: token :: rest) 1 k
        rwa [Nat.add_comm 1 k] at hdrop
      refine ⟨count + 1, ?_, (hshift count).mp hboundaryCount, ?_⟩
      · rw [if_neg hgo, hcount]
        rfl
      · intro k hk
        cases k with
        | zero => exact absurd hk hboundary
        | succ k => exact Nat.succ_le_succ (hleast ((hshift k).mpr hk))

/-- **A skip leads to the least boundary behind the parser**, from any position whose token is not the
end of the text, and changes nothing else. -/
theorem synchronize_isLeast {parser : Parser} (hends : EndsInEof parser.tokens) {token : Token}
    (htoken : parser.tokens[parser.position]? = some token) (hkind : token.kind ≠ .eof) :
    ∃ j, parser.synchronize = .ok { parser with position := j } ∧
      IsLeast {j | parser.position < j ∧ IsStatementBoundary parser.tokens j} j := by
  obtain ⟨hp, hget⟩ := List.getElem?_eq_some_iff.mp htoken
  have hdrop : parser.tokens.drop parser.position =
      token :: parser.tokens.drop (parser.position + 1) := by
    rw [List.drop_eq_getElem_cons hp, hget]
  -- the end of the text is among the tokens behind the one that is always passed
  obtain ⟨eof, hmem, heof⟩ := (hends.drop hp).exists_eof
  rw [hdrop] at hmem
  have hrest := (List.mem_cons.mp hmem).resolve_left fun heq => hkind (heq ▸ heof)
  obtain ⟨count, hcount, hboundary, hleast⟩ := discard_isLeast ⟨eof, hrest, heof⟩ token
  rw [← hdrop] at hboundary hleast
  refine ⟨parser.position + count + 1, ?_, ⟨by omega, isStatementBoundary_drop.mp hboundary⟩, ?_⟩
  · rw [synchronize, hdrop]
    simp only [if_neg hkind, hcount, Nat.add_right_comm parser.position count 1]
    rfl
  · rintro j ⟨hlt, hj⟩
    obtain ⟨k, rfl⟩ := Nat.exists_eq_add_of_lt hlt
    exact Nat.succ_le_succ (Nat.add_le_add_left (hleast (isStatementBoundary_drop.mpr hj)) _)

/-- The parser stands at a keyword, and two semicolons stand next to each other behind it: the skip
passes the keyword and one semicolon. From there it passes the other one. -/
theorem synchronize_isLeast_semicolons :
    let token (kind : TokenKind) : Token := { kind := kind, location := .start none }
    let tokens := [token .kwPrint, token .semicolon, token .semicolon, token .kwNil, token .eof]
    let parser (position : Nat) : Parser := { tokens := tokens, position := position }
    EndsInEof tokens ∧
      (parser 0).synchronize = .ok (parser 2) ∧
      IsLeast {j | 0 < j ∧ IsStatementBoundary tokens j} 2 ∧
      (parser 2).synchronize = .ok (parser 3) ∧
      IsLeast {j | 2 < j ∧ IsStatementBoundary tokens j} 3 := by
  intro token tokens parser
  have hends : EndsInEof tokens := ⟨token .eof, rfl, rfl⟩
  have hprint : (token .kwPrint).kind ≠ .eof := by simp [token]
  have hsemicolon : (token .semicolon).kind ≠ .eof := by simp [token]
  obtain ⟨j, hskip, hleast⟩ := @synchronize_isLeast (parser 0) hends _ rfl hprint
  obtain ⟨j', hskip', hleast'⟩ := @synchronize_isLeast (parser 2) hends _ rfl hsemicolon
  have htwo : j = 2 := by cases hskip; rfl
  have hthree : j' = 3 := by cases hskip'; rfl
  rw [htwo] at hskip hleast
  rw [hthree] at hskip' hleast'
  exact ⟨hends, hskip, hleast, hskip', hleast'⟩

end Parser

end Lox
