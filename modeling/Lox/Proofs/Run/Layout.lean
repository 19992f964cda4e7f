import Lox.Proofs.Run.Relocation
import Lox.Proofs.Token.Layout
import Lox.Proofs.Token.Position

/-!
# Layout and the run of a program

Spacing at the boundary of a token changes nothing but locations: the tokens keep their kinds,
lexemes and values, and the run its tree, value and display, or the stage, the message and the
place of its failure.

## Main definitions

* `IsBoundary`: the offsets where a token starts or ends, and the ends of the text
* `insertText`: a text with another one inserted
* `Outcome.Agrees`: two outcomes are the same apart from locations

## Main results

* `exists_split_of_isBoundary`: pieces can be split at the boundary of a token
* `insertText_spacing`: spacing at a boundary changes nothing but locations
-/

namespace Lox

/-! ## The same apart from locations -/

/-- What a token holds besides its location. -/
def Token.content (token : Token) : TokenKind × Option String × Value :=
  (token.kind, token.lexeme, token.literal)

/-- One location in place of all. -/
def Location.forget (_ : Location) : Location :=
  .start none

/-- What a failure reports besides its location. -/
def Failure.content (failure : Failure) : Stage × String × Option String :=
  (failure.stage, failure.message, failure.place?)

/-- **Two outcomes are the same apart from locations.** -/
structure Outcome.Agrees (first second : Outcome) : Prop where
  tokens : first.tokens.map Token.content = second.tokens.map Token.content
  tree : first.tree?.map (Expr.relocate .forget) = second.tree?.map (Expr.relocate .forget)
  value : first.value? = second.value?
  display : first.display? = second.display?
  failure : first.failure?.map Failure.content = second.failure?.map Failure.content

theorem Token.map_content_relocate (f : Location → Location) (tokens : List Token) :
    (tokens.map (relocate f)).map content = tokens.map content := by
  rw [List.map_map]
  rfl

namespace Outcome

variable (f : Location → Location) (outcome : Outcome)

theorem tokens_relocate : (outcome.relocate f).tokens = outcome.tokens.map (Token.relocate f) := by
  cases outcome <;> rfl

theorem tree?_relocate : (outcome.relocate f).tree? = outcome.tree?.map (Expr.relocate f) := by
  cases outcome <;> rfl

theorem value?_relocate : (outcome.relocate f).value? = outcome.value? := by
  cases outcome <;> rfl

theorem failure?_relocate :
    (outcome.relocate f).failure?.map Failure.content =
      outcome.failure?.map Failure.content := by
  cases outcome <;> rfl

/-- Outcomes that are equal without their locations agree. -/
theorem Agrees.of_relocate {first second : Outcome}
    (h : first.relocate .forget = second.relocate .forget) : first.Agrees second where
  tokens := by
    rw [← Token.map_content_relocate .forget, ← tokens_relocate, h, tokens_relocate,
      Token.map_content_relocate]
  tree := by rw [← tree?_relocate, h, tree?_relocate]
  value := by rw [← value?_relocate .forget, h, value?_relocate]
  display := by rw [display?, display?, ← value?_relocate .forget, h, value?_relocate]
  failure := by rw [← failure?_relocate .forget, h, failure?_relocate]

end Outcome

/-! ## Boundaries -/

/-- The offset is the start or the end of a token, or an end of the text. -/
def IsBoundary (source : String) (tokens : List Token) (offset : Nat) : Prop :=
  offset = 0 ∨ offset = source.length ∨
    ∃ token ∈ tokens, (offset : Int) = token.location.offset ∨ (offset : Int) = token.stop

/-- Pieces can be split at the boundary of a token. -/
theorem exists_split_of_isBoundary {source : String} {file : Option String} {pieces : List Piece}
    {offset : Nat} (h : Munch source.toList pieces [])
    (hoffset : IsBoundary source
      (Piece.listing file [] pieces ++ [.endOfText (.endOf file source.toList)]) offset) :
    ∃ front back, pieces = front ++ back ∧ offset = (Piece.spelling front).length := by
  have hwhole : source.length = (Piece.spelling pieces).length := by
    rw [← String.length_toList, h.text_eq, List.append_nil]
  rcases hoffset with rfl | rfl | ⟨token, htoken, hplace⟩
  · exact ⟨[], pieces, rfl, rfl⟩
  · exact ⟨pieces, [], by simp, hwhole⟩
  rcases List.mem_append.mp htoken with htoken | htoken
  · obtain ⟨front, piece, back, rfl, hpiece⟩ := Piece.mem_listing_iff.mp htoken
    obtain ⟨-, hlexeme, hlocation⟩ := Piece.token?_eq_some_iff.mp hpiece
    simp only [Token.stop, Token.lexemeText, hlexeme, hlocation, Location.endOf_offset,
      List.nil_append, Option.getD_some, String.length_ofList] at hplace
    rcases hplace with hstart | hend
    · exact ⟨front, piece :: back, rfl, by omega⟩
    · refine ⟨front ++ [piece], back, by simp, ?_⟩
      simp only [Piece.spelling_append, Piece.spelling_cons, Piece.spelling_nil, List.append_nil,
        List.length_append]
      omega
  · -- the end of the text is empty, and stands at the end
    obtain rfl := List.mem_singleton.mp htoken
    have hend : offset = source.length := by
      simp only [Token.stop, Token.lexemeText, Token.endOfText, Location.endOf_offset,
        String.length_toList, Option.getD_none, String.length_empty] at hplace
      omega
    exact ⟨pieces, [], by simp, hend.trans hwhole⟩

/-! ## Spacing -/

/-- The text with another one inserted at an offset. -/
def insertText (source : String) (offset : Nat) (inserted : String) : String :=
  String.ofList (source.toList.take offset ++ inserted.toList ++ source.toList.drop offset)

/-- Without their locations, the tokens of pieces are the contents of the pieces. -/
theorem Piece.map_relocate_listing (file : Option String) (before : List Char)
    (pieces : List Piece) :
    (listing file before pieces).map (Token.relocate .forget) =
      (contents pieces).map fun (lexeme, kind, value) =>
        { kind := kind, lexeme := some (String.ofList lexeme), literal := value,
          location := .start none } := by
  induction pieces generalizing before with
  | nil => rfl
  | cons piece pieces ih =>
    rw [listing, List.map_append, ih]
    rcases hcontent : piece.content with _ | ⟨kind, value⟩
    · simp [token?, hcontent, contents_cons_of_none piece hcontent]
    · simp [token?, hcontent, contents, Token.relocate, Location.forget]

theorem Token.map_relocate_endOfText (tokens : List Token) (place : Location) :
    (tokens ++ [endOfText place]).map (relocate .forget) =
      tokens.map (relocate .forget) ++ [endOfText (.start none)] := by
  rw [List.map_append]
  rfl

/-- A text with spacing at a boundary has the tokens of the text, apart from their locations. -/
theorem exists_tokensOf_insertText {source spacing : String} {file : Option String}
    {tokens : List Token} {offset : Nat} (hscan : tokensOf source file = .ok tokens)
    (hoffset : IsBoundary source tokens offset) (hspacing : IsSpacing spacing.toList) :
    ∃ tokens', tokensOf (insertText source offset spacing) file = .ok tokens' ∧
      tokens'.map (Token.relocate .forget) = tokens.map (Token.relocate .forget) := by
  obtain ⟨pieces, hmunch, rfl⟩ := exists_munch_of_tokensOf hscan
  obtain ⟨front, back, rfl, rfl⟩ := exists_split_of_isBoundary hmunch hoffset
  have hsource : source.toList = Piece.spelling front ++ Piece.spelling back := by
    rw [hmunch.text_eq, Piece.spelling_append, List.append_nil]
  have hinsert : (insertText source (Piece.spelling front).length spacing).toList =
      Piece.spelling front ++ (spacing.toList ++ (Piece.spelling back ++ [])) := by
    simp [insertText, hsource]
  obtain ⟨pieces', hmunch', hcontents⟩ := exists_munch_insert hmunch hspacing
  rw [← hinsert] at hmunch'
  refine ⟨_, tokensOf_of_munch hmunch' file, ?_⟩
  rw [Token.map_relocate_endOfText, Token.map_relocate_endOfText, Piece.map_relocate_listing,
    Piece.map_relocate_listing, hcontents]

/-- **Layout never changes meaning.** Spacing where a token of a text starts or ends, or at an end
of the text, leaves the tokens as they are apart from their locations, and the outcome of the run as
it is apart from locations. -/
theorem insertText_spacing {source spacing : String} {file : Option String} {tokens : List Token}
    {offset : Nat} (hscan : tokensOf source file = .ok tokens)
    (hoffset : IsBoundary source tokens offset) (hspacing : IsSpacing spacing.toList) :
    (∃ tokens', tokensOf (insertText source offset spacing) file = .ok tokens' ∧
        tokens'.map Token.content = tokens.map Token.content) ∧
      (run (insertText source offset spacing) file).outcome.Agrees (run source file).outcome := by
  obtain ⟨tokens', hscan', htokens⟩ := exists_tokensOf_insertText hscan hoffset hspacing
  refine ⟨⟨tokens', hscan', ?_⟩, .of_relocate ?_⟩
  · rw [← Token.map_content_relocate .forget, htokens, Token.map_content_relocate]
  · -- forget the locations of the tokens, and not only those of the outcome
    simp only [run, hscan, hscan']
    rw [← runTokens_relocate, htokens, runTokens_relocate]

/-- A tab and a comment between an operator and its operand. -/
theorem insertText_spacing_negation :
    tokensOf "!nil" none =
        .ok [.ofLexeme .bang ['!'] ⟨1, 1, 0, none⟩,
          .ofLexeme .kwNil ['n', 'i', 'l'] ⟨1, 2, 1, none⟩, .endOfText ⟨1, 5, 4, none⟩] ∧
      IsSpacing "\t//c\n".toList ∧
      (run (insertText "!nil" 1 "\t//c\n") none).outcome.value? = some (.bool true) := by
  have hscan : tokensOf "!nil" none =
      .ok [.ofLexeme .bang ['!'] ⟨1, 1, 0, none⟩,
        .ofLexeme .kwNil ['n', 'i', 'l'] ⟨1, 2, 1, none⟩, .endOfText ⟨1, 5, 4, none⟩] := by
    have hbang : headLexeme '!' ['n', 'i', 'l'] = .ok ⟨some .bang, 0⟩ := by decide
    have hnil : headLexeme 'n' ['i', 'l'] = .ok ⟨some .kwNil, 2⟩ := by decide
    have htext : "!nil".toList = ['!', 'n', 'i', 'l'] := rfl
    rw [tokensOf, scanText, htext, scanFrom_ok hbang]
    simp only [List.drop_zero, scanFrom_ok hnil, List.drop_succ_cons, scanFrom_nil]
    rfl
  have hspacing : IsSpacing "\t//c\n".toList :=
    ⟨'\t', _, by decide, .comment ⟨['c'], by simp, rfl⟩ .nil, rfl⟩
  have hvalue : (run "!nil" none).outcome.value? = some (.bool true) := by
    rw [run, hscan]
    rfl
  have h := insertText_spacing hscan (.inr (.inr ⟨_, List.mem_cons_self, .inr rfl⟩)) hspacing
  exact ⟨hscan, hspacing, h.2.value.trans hvalue⟩

end Lox
