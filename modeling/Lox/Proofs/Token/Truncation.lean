import Lox.Proofs.Token.Calls

/-!
# Texts cut off at a fault

A scanner looks ahead of the lexeme it reads, but what it finds there only ends the lexeme. The pieces
of a text are therefore still its pieces when the text is cut off behind them. So a scan that fails
has read the text in front of the fault as if it were all, and keeps the tokens of that text without
its end. Another scan fails in the same way.

## Main definitions

* `ScanFault.standsAt`: where a scanner stands after a fault
* `Scanner.KeepsUpTo`: what a scan leaves that fails at an offset

## Main results

* `Longest.truncate`, `Munch.truncate`: lexemes and pieces of a text that is cut off behind them
* `Scanner.scan_keepsUpTo`: a scan that fails keeps the tokens of the text in front of the fault
-/

namespace Lox

/-! ## Pieces of a text that is cut off -/

/-- **A longest lexeme stays the longest** when the text is cut off somewhere behind it. -/
theorem Longest.truncate {lexeme rest kept : List Char} {token : Option (TokenKind × Value)}
    (h : Longest (lexeme ++ rest) lexeme token) (hkept : kept <+: rest) :
    Longest (lexeme ++ kept) lexeme token where
  lexical := h.lexical
  heads := List.prefix_append lexeme kept
  longest := by
    intro other token' hother hheads
    -- what heads the shorter text heads the longer one as well
    apply h.longest other token' hother
    exact hheads.trans ((List.prefix_append_right_inj lexeme).mpr hkept)

/-- **The pieces of a text that is cut off** behind them are its pieces, with nothing left. -/
theorem Munch.truncate {text final : List Char} {pieces : List Piece}
    (h : Munch text pieces final) : Munch (Piece.spelling pieces) pieces [] := by
  induction h with
  | done => exact .done []
  | bite hlongest hrest ih =>
    rw [Piece.spelling_cons]
    refine .bite (hlongest.truncate ?_) ih
    rw [hrest.text_eq]
    exact List.prefix_append _ _

/-! ## The scanner after a fault -/

/-- The offset where a scanner stands after a fault at an offset of a text: behind an unexpected
character, and at the end of the text, where the search for a closing quote ends. -/
def ScanFault.standsAt (fault : ScanFault) (offset length : Nat) : Nat :=
  match fault with
  | unexpectedCharacter => offset + 1
  | unterminatedString => length

theorem ScanFault.after_reach (fault : ScanFault) (file : Option String) (before : List Char)
    (c : Char) (rest : List Char) :
    (Location.endOf file before).after (fault.reach c rest) =
      .endOf file ((before ++ c :: rest).take
        (fault.standsAt before.length (before ++ c :: rest).length)) := by
  rw [Location.endOf_after]
  cases fault with
  | unexpectedCharacter => rw [reach, standsAt, List.take_length_add_append]; rfl
  | unterminatedString => rw [reach, standsAt, List.take_length]

theorem ScanFault.standsAt_le (fault : ScanFault) {offset length : Nat} (h : offset < length) :
    fault.standsAt offset length ≤ length := by
  cases fault with
  | unexpectedCharacter => exact h
  | unterminatedString => exact Nat.le_refl length

/-- **What a scan leaves that fails at an offset.** The error is at the character there. The tokens
the scanner holds are those of the text in front of it, the end left out. The scanner stands where
the fault has let it come, and a second scan does what the first one did. -/
structure Scanner.KeepsUpTo (scanner : Scanner) (error : ScanError) (offset : Nat) : Prop where
  inside : offset < scanner.source.length
  place : error.location = .endOf scanner.file (scanner.source.toList.take offset)
  tokens : tokensOf (String.ofList (scanner.source.toList.take offset)) scanner.file =
    .ok (scanner.scan.2.held ++ [.endOfText error.location])
  position : scanner.scan.2.position =
    .endOf scanner.file
      (scanner.source.toList.take (error.fault.standsAt offset scanner.source.length))
  stands : scanner.scan.2.position.offset = error.fault.standsAt offset scanner.source.length
  again : scanner.scan.2.scan = scanner.scan

/-- **A scan that fails keeps exactly the tokens before the fault**, whatever the scanner held. -/
theorem Scanner.scan_keepsUpTo {scanner : Scanner} {error : ScanError}
    (h : scanner.scan.1 = .error error) :
    ∃ offset : Nat, error.location.offset = offset ∧ scanner.KeepsUpTo error offset := by
  rw [(scan_eq rfl rfl).1] at h
  obtain ⟨pieces, c, rest, hmunch, hnone, rfl⟩ := exists_munch_of_tokensOf_error h
  have hscan := scanText_of_noLexeme hmunch hnone scanner.file
  have htext := hmunch.text_eq
  -- the text in front of the fault is that of the pieces
  have hfront : scanner.source.toList.take (Piece.spelling pieces).length =
      Piece.spelling pieces := by
    rw [htext, List.take_left']
    rfl
  have hinside : (Piece.spelling pieces).length < scanner.source.length := by
    rw [← String.length_toList, htext, List.length_append]
    exact Nat.lt_add_of_pos_right (Nat.succ_pos _)
  have hposition : scanner.scan.2.position = .endOf scanner.file
      (scanner.source.toList.take
        ((ScanFault.atChar c).standsAt (Piece.spelling pieces).length scanner.source.length)) := by
    rw [scan, hscan, Stop.position, ScanFault.after_reach, ← htext, String.length_toList]
  refine ⟨(Piece.spelling pieces).length, rfl, hinside, ?_, ?_, hposition, ?_, rfl⟩
  · rw [hfront]
  · have hcut : Munch (String.ofList (Piece.spelling pieces)).toList pieces [] := by
      rw [String.toList_ofList]
      exact hmunch.truncate
    rw [hfront, scan, hscan, tokensOf_of_munch hcut, String.toList_ofList]
  · rw [hposition, Location.endOf_offset, List.length_take_of_le]
    rw [String.length_toList]
    exact (ScanFault.atChar c).standsAt_le hinside

/-- A point behind a number, and then a character that is no lexeme: the number is the same without
that character. A quote that is not closed on the second line: the scanner stands at the end. -/
theorem Scanner.scan_keepsUpTo_point_and_quote :
    let point := Scanner.ofText "1.@" none
    let quote := Scanner.ofText "a\n\"b " none
    (point.scan.1 = .error ⟨.unexpectedCharacter, ⟨1, 3, 2, none⟩⟩ ∧
        tokensOf "1." none = .ok (point.scan.2.held ++ [.endOfText ⟨1, 3, 2, none⟩]) ∧
        point.scan.2.position.offset = 3) ∧
      quote.scan.1 = .error ⟨.unterminatedString, ⟨2, 1, 2, none⟩⟩ ∧
        tokensOf "a\n" none = .ok (quote.scan.2.held ++ [.endOfText ⟨2, 1, 2, none⟩]) ∧
        quote.scan.2.position.offset = 5 := by
  intro point quote
  have hpoint : point.scan.1 = .error ⟨.unexpectedCharacter, ⟨1, 3, 2, none⟩⟩ :=
    (scan_eq rfl rfl).1.trans (tokensOf_eq_scanWithin "1.@" none)
  have hquote : quote.scan.1 = .error ⟨.unterminatedString, ⟨2, 1, 2, none⟩⟩ :=
    (scan_eq rfl rfl).1.trans (tokensOf_eq_scanWithin "a\n\"b " none)
  have hpointFront : "1." = String.ofList ("1.@".toList.take 2) := by rfl
  have hquoteFront : "a\n" = String.ofList ("a\n\"b ".toList.take 2) := by rfl
  obtain ⟨offset, hoffset, hpointKeeps⟩ := scan_keepsUpTo hpoint
  obtain rfl : 2 = offset := Int.ofNat.inj hoffset
  obtain ⟨offset, hoffset, hquoteKeeps⟩ := scan_keepsUpTo hquote
  obtain rfl : 2 = offset := Int.ofNat.inj hoffset
  have hstands : ScanFault.unterminatedString.standsAt 2 "a\n\"b ".length = 5 := by rfl
  rw [hpointFront, hquoteFront, hpointKeeps.stands, hquoteKeeps.stands]
  exact ⟨⟨hpoint, hpointKeeps.tokens, rfl⟩, hquote, hquoteKeeps.tokens,
    congrArg Int.ofNat hstands⟩

end Lox
