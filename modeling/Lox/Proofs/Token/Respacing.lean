import Lox.Proofs.Run.Layout
import Lox.Proofs.Token.Adjacency
import Lox.Proofs.Token.Bounded

/-!
# Respaced texts

The lexemes of the tokens of a text can be written anew with single blanks between them, whatever
layout and comments stood there. A blank ends every lexeme of a token, also one that the next
character would have continued in the text or that a slash would have made a comment. So the respaced
text has the tokens of the text, apart from their locations, and respacing it again changes nothing.

## Main definitions

* `Token.respaced`: the lexemes of tokens with single blanks between them

## Main results

* `exists_munch_spaced`: lexemes of tokens between blanks are munched one by one
* `tokensOf_lexeme`: the lexeme of a token, alone, has that token
* `tokensOf_respaced`: respacing is a round trip
-/

namespace Lox

/-! ## Lexemes between blanks -/

/-- The lexeme of a token is munched as a whole where nothing follows it. -/
theorem Lexical.munch {lexeme : List Char} {token : TokenKind × Value}
    (h : Lexical lexeme (some token)) : Munch lexeme [⟨lexeme, some token⟩] [] := by
  have hmunch := Munch.cons (h.longest isDelimited_nil) (.done [])
  rwa [List.append_nil] at hmunch

/-- **Lexemes of tokens with single blanks between them** are munched one by one, whatever the
lexemes are. -/
theorem exists_munch_spaced {contents : List (List Char × TokenKind × Value)}
    (h : ∀ content ∈ contents, Lexical content.1 (some content.2)) :
    ∃ pieces, Munch ([' '].intercalate (contents.map (·.1))) pieces [] ∧
      Piece.contents pieces = contents := by
  induction contents with
  | nil => exact ⟨[], .done [], rfl⟩
  | cons content contents ih =>
    obtain ⟨lexeme, token⟩ := content
    obtain ⟨hlexeme, hothers⟩ := List.forall_mem_cons.mp h
    cases contents with
    | nil =>
      refine ⟨[⟨lexeme, some token⟩], ?_, rfl⟩
      rw [List.map_singleton, List.intercalate_singleton]
      exact hlexeme.munch
    | cons next others =>
      obtain ⟨pieces, hmunch, hcontents⟩ := ih hothers
      refine ⟨⟨lexeme, some token⟩ :: ⟨[' '], none⟩ :: pieces, ?_, ?_⟩
      · -- the blank ends the lexeme, and is a piece of its own
        rw [List.map_cons, List.map_cons, List.intercalate_cons_cons, List.append_assoc]
        have hdelimited := isDelimited_cons (c := ' ') (by simp)
        exact .cons (hlexeme.longest (hdelimited _))
          (.cons (longest_layout (by simp) _) hmunch)
      · rw [← hcontents]
        rfl

/-- **The lexeme of a token, alone**, has that token and the end of the text. -/
theorem tokensOf_lexeme {lexeme : List Char} {kind : TokenKind} {value : Value}
    (h : Lexical lexeme (some (kind, value))) (file : Option String) :
    tokensOf (String.ofList lexeme) file =
      .ok [{ kind := kind, lexeme := some (String.ofList lexeme), literal := value,
             location := .start file },
        .endOfText (.endOf file lexeme)] := by
  have hmunch : Munch (String.ofList lexeme).toList [⟨lexeme, some (kind, value)⟩] [] := by
    rw [String.toList_ofList]
    exact h.munch
  rw [tokensOf_of_munch hmunch, String.toList_ofList]
  rfl

/-! ## Respacing -/

/-- The lexemes of tokens with single blanks between them; the end of the text has none. -/
def Token.respaced (tokens : List Token) : String :=
  String.intercalate " " ((tokens.filter (·.kind ≠ .eof)).map lexemeText)

/-- Respacing does not look at locations. -/
theorem Token.respaced_eq_of_content {tokens tokens' : List Token}
    (h : tokens.map content = tokens'.map content) : respaced tokens = respaced tokens' := by
  have hlexemes (tokens : List Token) : (tokens.filter (·.kind ≠ .eof)).map lexemeText =
      ((tokens.map content).filter (·.1 ≠ .eof)).map (·.2.1.getD "") := by
    rw [List.filter_map, List.map_map]
    rfl
  rw [respaced, respaced, hlexemes, hlexemes, h]

/-- The contents of pieces are those of their tokens. -/
theorem Piece.map_content_listing (file : Option String) (before : List Char)
    (pieces : List Piece) :
    (listing file before pieces).map Token.content =
      (contents pieces).map fun (lexeme, kind, value) =>
        (kind, some (String.ofList lexeme), value) := by
  rw [← Token.map_content_relocate .forget, map_relocate_listing, List.map_map]
  rfl

theorem Piece.lexical_of_mem_contents {text final : List Char} {pieces : List Piece}
    (h : Munch text pieces final) :
    ∀ content ∈ contents pieces, Lexical content.1 (some content.2) := by
  intro content hcontent
  obtain ⟨piece, hpiece, hmap⟩ := List.mem_filterMap.mp hcontent
  obtain ⟨token, htoken, rfl⟩ := Option.map_eq_some_iff.mp hmap
  rw [← htoken]
  exact h.lexical piece hpiece

/-- The tokens of a text, respaced, are the lexemes of its pieces between blanks. -/
theorem Munch.toList_respaced {text final : List Char} {pieces : List Piece}
    (h : Munch text pieces final) (file : Option String) (place : Location) :
    (Token.respaced (Piece.listing file [] pieces ++ [.endOfText place])).toList =
      [' '].intercalate ((Piece.contents pieces).map (·.1)) := by
  have hkept : (Piece.listing file [] pieces).filter (·.kind ≠ .eof) =
      Piece.listing file [] pieces := by
    apply List.filter_eq_self.mpr
    intro token htoken
    simpa using h.listing_kind_ne_eof file [] token htoken
  have hlexemes : (Piece.listing file [] pieces).map Token.lexemeText =
      (Piece.contents pieces).map (String.ofList ·.1) := by
    have hcontent := congrArg (List.map (·.2.1.getD "")) (Piece.map_content_listing file [] pieces)
    rw [List.map_map, List.map_map] at hcontent
    exact hcontent
  have hend : [Token.endOfText place].filter (·.kind ≠ .eof) = [] := rfl
  rw [Token.respaced, List.filter_append, hkept, hend, List.append_nil, hlexemes,
    String.toList_intercalate, List.map_map]
  simp [Function.comp_def]

/-- **Respacing is a round trip.** The lexemes of the tokens of a text, with single blanks between
them, have the same tokens and the end of the text, apart from locations, and are respaced as they
are. And the lexeme of each of these tokens, alone, has that one token and the end of the text. -/
theorem tokensOf_respaced {source : String} {file : Option String} {tokens : List Token}
    (h : tokensOf source file = .ok tokens) (file' : Option String) :
    (∃ tokens', tokensOf (Token.respaced tokens) file' = .ok tokens' ∧
        tokens'.map Token.content = tokens.map Token.content ∧
        Token.respaced tokens' = Token.respaced tokens) ∧
      ∀ token ∈ tokens, token.kind ≠ .eof →
        tokensOf token.lexemeText file' =
          .ok [{ token with location := .start file' },
            .endOfText (.endOf file' token.lexemeText.toList)] := by
  obtain ⟨pieces, hmunch, rfl⟩ := exists_munch_of_tokensOf h
  constructor
  · obtain ⟨pieces', hmunch', hcontents⟩ :=
      exists_munch_spaced (Piece.lexical_of_mem_contents hmunch)
    rw [← hmunch.toList_respaced file (.endOf file source.toList)] at hmunch'
    have hcontent : (Piece.listing file' [] pieces').map Token.content =
        (Piece.listing file [] pieces).map Token.content := by
      rw [Piece.map_content_listing, Piece.map_content_listing, hcontents]
    refine ⟨_, tokensOf_of_munch hmunch' file', ?_, Token.respaced_eq_of_content ?_⟩
    all_goals rw [List.map_append, List.map_append, hcontent]; rfl
  · intro token htoken hkind
    rcases List.mem_append.mp htoken with htoken | htoken
    · obtain ⟨before, lexeme, behind, -, hlexical, hlexeme, -⟩ := hmunch.exists_lexeme file htoken
      have hscan := tokensOf_lexeme hlexical file'
      rw [Token.lexemeText, hlexeme, Option.getD_some, hscan, String.toList_ofList, ← hlexeme]
    · obtain rfl := List.mem_singleton.mp htoken
      exact absurd rfl hkind

/-- Signs that would be read as one, a point behind a number, and a comment: the signs stay apart, the
point stays a token, and the comment is gone. -/
theorem tokensOf_respaced_signs :
    let place (column : Int) : Location := ⟨1, column, column - 1, none⟩
    let tokens : List Token :=
      [.ofLexeme .bang ['!'] (place 1), .ofLexeme .equal ['='] (place 3),
        .ofLexeme .number ['1'] (place 4), .ofLexeme .dot ['.'] (place 5), .endOfText (place 9)]
    tokensOf "!\t=1. //" none = .ok tokens ∧ Token.respaced tokens = "! = 1 ." ∧
      (∃ tokens', tokensOf "! = 1 ." none = .ok tokens' ∧
        tokens'.map Token.content = tokens.map Token.content ∧
        Token.respaced tokens' = "! = 1 .") ∧
      tokensOf "1" none = .ok [.ofLexeme .number ['1'] (place 1), .endOfText (place 2)] := by
  intro place tokens
  have hscan : tokensOf "!\t=1. //" none = .ok tokens := tokensOf_eq_scanWithin _ _
  have hrespaced : Token.respaced tokens = "! = 1 ." := by rfl
  obtain ⟨hround, halone⟩ := tokensOf_respaced hscan none
  rw [hrespaced] at hround
  have hmem : Token.ofLexeme .number ['1'] (place 4) ∈ tokens :=
    .tail _ (.tail _ (.head _))
  have htext : (Token.ofLexeme .number ['1'] (place 4)).lexemeText = "1" := by rfl
  have hnumber := halone _ hmem (by simp [Token.ofLexeme])
  rw [htext] at hnumber
  exact ⟨hscan, hrespaced, hround, hnumber⟩

end Lox
