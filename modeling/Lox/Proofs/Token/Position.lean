import Lox.Proofs.Token.Munch
import Lox.Token.Scanner

/-!
# Positions

Every location that a scanner reports is that of the character it speaks of: the line and the
column count the characters before it, the lexeme of a token stands there in the text, and no two
tokens share a character. This holds of what a failed scan leaves as well.

## Main definitions

* `Location.IsIn`: the location is the true one of a place in a text
* `Token.stop`, `Token.SpelledIn`: the offset behind a token, and its lexeme as a slice of a text
* `Positioned`: what holds of the positions of tokens

## Main results

* `Piece.mem_listing_iff`: the tokens of pieces stand behind the pieces before them
* `Munch.positioned`: the tokens of a munch are positioned
* `scan_positions`: the positions of a scan, failed or not
-/

namespace Lox

/-! ## True positions -/

/-- The location is the true one of a place in the text. -/
def Location.IsIn (file : Option String) (text : List Char) (place : Location) : Prop :=
  ∃ before behind, text = before ++ behind ∧ place = .endOf file before

/-- The offset behind a token. -/
def Token.stop (token : Token) : Int :=
  token.location.offset + token.lexemeText.length

/-- The lexeme of the token is not empty, and it is the slice of the text at the token's offset. -/
def Token.SpelledIn (text : List Char) (token : Token) : Prop :=
  ∃ lexeme, token.lexeme = some lexeme ∧ lexeme ≠ "" ∧
    lexeme.toList = (text.drop token.location.offset.toNat).take lexeme.length

/-- **Positioned tokens.** Each token has the true location of its place in the text, spells the
text there or stands at its end, and starts behind the tokens before it. -/
structure Positioned (file : Option String) (text : List Char) (tokens : List Token) : Prop where
  places : ∀ token ∈ tokens, token.location.IsIn file text
  spelled : ∀ token ∈ tokens, token.kind ≠ .eof → token.SpelledIn text
  ends : ∀ token ∈ tokens, token.kind = .eof → token.location.offset = text.length
  apart : tokens.Pairwise fun token next => token.stop ≤ next.location.offset

theorem Positioned.concat {file : Option String} {text : List Char} {tokens : List Token}
    (h : Positioned file text tokens) (hstop : ∀ token ∈ tokens, token.stop ≤ text.length) :
    Positioned file text (tokens ++ [.endOfText (.endOf file text)]) where
  places := by
    intro token htoken
    rcases List.mem_append.mp htoken with htoken | htoken
    · exact h.places token htoken
    · obtain rfl := List.mem_singleton.mp htoken
      exact ⟨text, [], by simp, rfl⟩
  spelled := by
    intro token htoken hkind
    rcases List.mem_append.mp htoken with htoken | htoken
    · exact h.spelled token htoken hkind
    · obtain rfl := List.mem_singleton.mp htoken
      exact absurd rfl hkind
  ends := by
    intro token htoken hkind
    rcases List.mem_append.mp htoken with htoken | htoken
    · exact h.ends token htoken hkind
    · obtain rfl := List.mem_singleton.mp htoken
      rfl
  apart := by
    refine List.pairwise_append.mpr ⟨h.apart, List.pairwise_singleton _ _, ?_⟩
    intro token htoken next hnext
    obtain rfl := List.mem_singleton.mp hnext
    exact hstop token htoken

/-! ## The tokens of pieces -/

namespace Piece

/-- **The token of a piece stands behind the pieces before it.** -/
theorem mem_listing_iff {file : Option String} {before : List Char} {pieces : List Piece}
    {token : Token} :
    token ∈ listing file before pieces ↔
      ∃ front piece back, pieces = front ++ piece :: back ∧
        piece.token? (.endOf file (before ++ spelling front)) = some token := by
  induction pieces generalizing before with
  | nil => simp
  | cons piece pieces ih =>
    rw [listing, List.mem_append, Option.mem_toList, ih]
    constructor
    · rintro (h | ⟨front, next, back, rfl, h⟩)
      · exact ⟨[], piece, pieces, rfl, by simpa using h⟩
      · exact ⟨piece :: front, next, back, rfl, by simpa using h⟩
    · rintro ⟨_ | ⟨first, front⟩, next, back, heq, h⟩
      · obtain ⟨rfl, rfl⟩ := List.cons.inj heq
        exact .inl (by simpa using h)
      · obtain ⟨rfl, rfl⟩ := List.cons.inj heq
        exact .inr ⟨front, next, back, rfl, by simpa using h⟩

theorem token?_eq_some_iff {piece : Piece} {place : Location} {token : Token} :
    piece.token? place = some token ↔
      piece.content = some (token.kind, token.literal) ∧
        token.lexeme = some (String.ofList piece.lexeme) ∧ token.location = place := by
  cases token
  simp only [token?, Option.map_eq_some_iff, Prod.exists, Token.mk.injEq]
  constructor
  · rintro ⟨kind, value, h, rfl, rfl, rfl, rfl⟩
    exact ⟨h, rfl, rfl⟩
  · rintro ⟨h, rfl, rfl⟩
    exact ⟨_, _, h, rfl, rfl, rfl, rfl⟩

/-- The tokens of pieces do not overlap. -/
theorem pairwise_listing (file : Option String) (before : List Char) (pieces : List Piece) :
    (listing file before pieces).Pairwise fun token next => token.stop ≤ next.location.offset := by
  induction pieces generalizing before with
  | nil => exact .nil
  | cons piece pieces ih =>
    rw [listing, List.pairwise_append]
    refine ⟨?_, ih _, ?_⟩
    · cases piece.token? (.endOf file before) <;> simp
    · intro token htoken next hnext
      obtain ⟨-, hlexeme, hplace⟩ := token?_eq_some_iff.mp (Option.mem_toList.mp htoken)
      obtain ⟨front, piece', back, -, hnext⟩ := mem_listing_iff.mp hnext
      obtain ⟨-, -, hplace'⟩ := token?_eq_some_iff.mp hnext
      simp only [Token.stop, Token.lexemeText, hlexeme, hplace, hplace', Location.endOf_offset,
        Option.getD_some, String.length_ofList, List.length_append]
      omega

end Piece

/-! ## The tokens of a scan -/

namespace Munch

variable {text final : List Char} {pieces : List Piece}

/-- The lexeme of a token of a munch, and where it stands in the text. -/
theorem exists_lexeme (h : Munch text pieces final) (file : Option String) {token : Token}
    (htoken : token ∈ Piece.listing file [] pieces) :
    ∃ before lexeme behind, text = before ++ (lexeme ++ behind) ∧
      Lexical lexeme (some (token.kind, token.literal)) ∧
      token.lexeme = some (String.ofList lexeme) ∧ token.location = .endOf file before := by
  obtain ⟨front, piece, back, rfl, hpiece⟩ := Piece.mem_listing_iff.mp htoken
  obtain ⟨hcontent, hlexeme, hplace⟩ := Piece.token?_eq_some_iff.mp hpiece
  refine ⟨Piece.spelling front, piece.lexeme, Piece.spelling back ++ final, ?_, ?_, hlexeme, hplace⟩
  · rw [h.text_eq, Piece.spelling_append, Piece.spelling_cons]
    simp only [List.append_assoc]
  · rw [← hcontent]
    exact h.lexical piece (by simp)

/-- Where a token of a munch stands in the text. -/
theorem exists_slice (h : Munch text pieces final) (file : Option String) {token : Token}
    (htoken : token ∈ Piece.listing file [] pieces) :
    ∃ before lexeme behind, text = before ++ (lexeme ++ behind) ∧ lexeme ≠ [] ∧
      token.lexeme = some (String.ofList lexeme) ∧ token.location = .endOf file before := by
  obtain ⟨before, lexeme, behind, htext, hlexical, hlexeme⟩ := h.exists_lexeme file htoken
  exact ⟨before, lexeme, behind, htext, hlexical.ne_nil, hlexeme⟩

theorem stop_le (h : Munch text pieces final) (file : Option String) :
    ∀ token ∈ Piece.listing file [] pieces, token.stop ≤ text.length := by
  intro token htoken
  obtain ⟨before, lexeme, behind, rfl, -, hlexeme, hplace⟩ := h.exists_slice file htoken
  simp only [Token.stop, Token.lexemeText, hlexeme, hplace, Location.endOf_offset,
    Option.getD_some, String.length_ofList, List.length_append]
  omega

/-- **The tokens of a munch are positioned.** -/
theorem positioned (h : Munch text pieces final) (file : Option String) :
    Positioned file text (Piece.listing file [] pieces) where
  places := by
    intro token htoken
    obtain ⟨before, lexeme, behind, htext, -, -, hplace⟩ := h.exists_slice file htoken
    exact ⟨before, lexeme ++ behind, htext, hplace⟩
  spelled := by
    intro token htoken _
    obtain ⟨before, lexeme, behind, rfl, hne, hlexeme, hplace⟩ := h.exists_slice file htoken
    refine ⟨String.ofList lexeme, hlexeme, ?_, ?_⟩
    · intro hempty
      exact hne (by simpa using congrArg String.toList hempty)
    · simp [hplace]
  ends := by
    intro token htoken hkind
    exact absurd hkind (h.listing_kind_ne_eof file [] token htoken)
  apart := Piece.pairwise_listing file [] pieces

end Munch

/-- **A token of a text** is its end, or the token of a lexeme that stands at its location. -/
theorem token_cases_of_tokensOf {source : String} {file : Option String} {tokens : List Token}
    {token : Token} (hscan : tokensOf source file = .ok tokens) (htoken : token ∈ tokens) :
    token = .endOfText (.endOf file source.toList) ∨
      token.kind ≠ .eof ∧ ∃ before lexeme behind,
        source.toList = before ++ (lexeme ++ behind) ∧ lexeme ≠ [] ∧
          token.lexeme = some (String.ofList lexeme) ∧ token.location = .endOf file before := by
  obtain ⟨pieces, hmunch, rfl⟩ := exists_munch_of_tokensOf hscan
  rcases List.mem_append.mp htoken with htoken | htoken
  · exact .inr ⟨hmunch.listing_kind_ne_eof file [] token htoken, hmunch.exists_slice file htoken⟩
  · exact .inl (List.mem_singleton.mp htoken)

/-- **The positions of a scan.** Whatever the scanner did before: after a scan of its text it holds
positioned tokens, whether the scan failed or not. A scan that does not fail returns the tokens the
scanner holds, and one that fails reports a true location. -/
theorem scan_positions (scanner : Scanner) :
    Positioned scanner.file scanner.source.toList scanner.scan.2.held ∧
      (∀ tokens, scanner.scan.1 = .ok tokens → tokens = scanner.scan.2.held) ∧
      ∀ error, scanner.scan.1 = .error error →
        error.location.IsIn scanner.file scanner.source.toList := by
  -- the munch ends at the end of the text, or where the scan fails
  obtain ⟨pieces, final, hmunch, hnone⟩ := exists_munch scanner.source.toList
  cases final with
  | nil =>
    have hscan := scanText_of_munch hmunch scanner.file
    simp only [Scanner.scan, hscan, Scan.error?]
    refine ⟨(hmunch.positioned _).concat (hmunch.stop_le _), ?_, ?_⟩
    · rintro tokens ⟨⟩
      rfl
    · rintro error ⟨⟩
  | cons c rest =>
    have hscan := scanText_of_noLexeme hmunch hnone scanner.file
    simp only [Scanner.scan, hscan, Scan.error?]
    refine ⟨hmunch.positioned _, ?_, ?_⟩
    · rintro tokens ⟨⟩
    · rintro error ⟨⟩
      exact ⟨Piece.spelling pieces, c :: rest, hmunch.text_eq, rfl⟩

/-- A quote that is not closed, on the second line: the scan fails there and keeps the word. -/
theorem scan_positions_open_quote :
    (Scanner.ofText "a\n\"" none).scan.1 = .error ⟨.unterminatedString, ⟨2, 1, 2, none⟩⟩ ∧
      Location.IsIn none "a\n\"".toList ⟨2, 1, 2, none⟩ ∧
      (Scanner.ofText "a\n\"" none).scan.2.held = [.ofLexeme .identifier ['a'] ⟨1, 1, 0, none⟩] ∧
      (Token.ofLexeme .identifier ['a'] ⟨1, 1, 0, none⟩).SpelledIn "a\n\"".toList := by
  have hword : headLexeme 'a' ['\n', '"'] = .ok ⟨some .identifier, 0⟩ := by decide
  have hline : headLexeme '\n' ['"'] = .ok ⟨none, 0⟩ := by decide
  have hquote : headLexeme '"' [] = .error .unterminatedString := by decide
  have hscan : scanText "a\n\"" none =
      ⟨[.ofLexeme .identifier ['a'] ⟨1, 1, 0, none⟩],
        .failed ⟨.unterminatedString, ⟨2, 1, 2, none⟩⟩ ⟨2, 2, 3, none⟩⟩ := by
    have htext : "a\n\"".toList = ['a', '\n', '"'] := rfl
    rw [scanText, htext, scanFrom_ok hword]
    simp only [List.drop_zero, scanFrom_ok hline, scanFrom_error hquote]
    rfl
  have herror : (Scanner.ofText "a\n\"" none).scan.1 =
      .error ⟨.unterminatedString, ⟨2, 1, 2, none⟩⟩ := by
    simp only [Scanner.scan, Scanner.ofText, hscan, Scan.error?]
  have hheld : (Scanner.ofText "a\n\"" none).scan.2.held =
      [.ofLexeme .identifier ['a'] ⟨1, 1, 0, none⟩] := by
    simp only [Scanner.scan, Scanner.ofText, hscan]
  obtain ⟨hpositioned, -, hplace⟩ := scan_positions (.ofText "a\n\"" none)
  rw [hheld] at hpositioned
  exact ⟨herror, hplace _ herror, hheld, hpositioned.spelled _ List.mem_cons_self (by decide)⟩

end Lox
