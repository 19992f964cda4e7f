import Lox.Editor.Document
import Lox.Proofs.Editor.Selection
import Lox.Proofs.Run.Ending
import Lox.Proofs.Text.Offset
import Lox.Proofs.Token.Layout

/-!
# The token under the cursor

A cursor in an editor is at a line and a column. The token that is found for it is the one whose
first line the cursor is in: no two tokens have a place in common, so that it does not matter which
token is looked at first. A cursor in layout, in a comment, or in a lower line of a string is at no
token, and neither is one at the end of a line or outside the text.

## Main definitions

* `Token.BeginsOver`, `Token.GoesOnOver`: the first line of a token, or a lower one, has an offset
* `InLayout`: an offset in layout or in a comment
* `Document.FindsTokens`: what a document answers for a cursor

## Main results

* `LineRange.covers_onward_iff`: the places that a range covers, by their offsets
* `Token.covers_iff`: the places that the range of a token covers
* `pairwise_covers`: no place is covered by two tokens
* `Document.analyze_findsTokens`: a document finds exactly the token under the cursor
-/

namespace Lox

/-- Elements with a property are equal, if no two elements of a list have it. -/
theorem eq_of_pairwise {α : Type} {p : α → Prop} {list : List α} {x y : α}
    (h : list.Pairwise fun x y => ¬ (p x ∧ p y)) (hx : x ∈ list) (hy : y ∈ list) (hpx : p x)
    (hpy : p y) : x = y := by
  induction h with
  | nil => cases hx
  | cons hfirst _ ih =>
    rcases List.mem_cons.mp hx with rfl | hx'
    · rcases List.mem_cons.mp hy with rfl | hy'
      · rfl
      · exact absurd ⟨hpx, hpy⟩ (hfirst _ hy')
    · rcases List.mem_cons.mp hy with rfl | hy'
      · exact absurd ⟨hpy, hpx⟩ (hfirst _ hx')
      · exact ih hx' hy'

/-! ## Places of a range -/

namespace LineRange

theorem covers_iff {range : LineRange} {line column : Int} :
    range.covers line column = true ↔
      range.line = line ∧ range.start ≤ column ∧ column < range.stop := by
  simp only [covers, Bool.and_eq_true, decide_eq_true_eq, and_assoc]

/-- **A range that goes on from the end of a text covers the next places of the line**, and no others.
It may go on to the end of the line, and by one place more. -/
theorem covers_onward_iff {before behind : List Char} {length line column : Nat}
    (hlength : length ≤ (Text.firstLine behind).length + 1) :
    (onward before length).covers line column = true ↔
      Text.HasPlace (before ++ behind) line column ∧
        before.length ≤ Text.offset (before ++ behind) line column ∧
        Text.offset (before ++ behind) line column < before.length + length := by
  have hcovers : (onward before length).covers line column = true ↔
      before.count '\n' = line ∧ (Text.lastLine before).length ≤ column ∧
        column < (Text.lastLine before).length + length := by
    rw [covers_iff]
    simp only [onward]
    omega
  rw [hcovers]
  constructor
  · rintro ⟨rfl, hle, hlt⟩
    have hline := Text.getElem?_splitLines_append before behind
    have hplace : Text.HasPlace (before ++ behind) (before.count '\n') column := by
      refine ⟨_, hline, ?_⟩
      rw [List.length_append]
      omega
    -- in one line, columns differ as offsets do
    have hoffset := Text.offset_append before behind
    simp only [Text.offset] at hoffset ⊢
    exact ⟨hplace, by omega, by omega⟩
  · rintro ⟨hplace, hle, hlt⟩
    obtain ⟨front, back, htext, rfl, rfl, hoffset⟩ := hplace.exists_front
    rw [hoffset] at hle hlt
    -- what stands between the two places has no LF
    obtain ⟨between, rfl⟩ : before <+: front :=
      List.prefix_of_prefix_length_le ⟨behind, rfl⟩ ⟨back, htext.symm⟩ hle
    rw [List.append_assoc, List.append_cancel_left_eq] at htext
    rw [List.length_append] at hlt
    have hbetween : between <+: Text.firstLine behind :=
      List.prefix_of_prefix_length_le ⟨back, htext.symm⟩ (List.takeWhile_prefix _)
        (Nat.le_of_lt_succ (by omega))
    have hnone : '\n' ∉ between := by
      intro hmem
      simpa using List.mem_takeWhile_imp (hbetween.subset hmem)
    rw [List.count_append, List.count_eq_zero.mpr hnone, Text.lastLine_append_of_not_mem _ hnone,
      List.length_append]
    omega

end LineRange

/-! ## Places of tokens -/

section Tokens

variable {source : String} {file : Option String} {tokens : List Token} {token : Token}

namespace Token

/-- The number of places that the range of a token covers. -/
def width (token : Token) : Nat :=
  max 1 token.firstLine.length

theorem width_of_ne (h : token.firstLine ≠ []) : token.width = token.firstLine.length :=
  Nat.max_eq_right (List.length_pos_iff.mpr h)

/-- The range of a token goes on from its place, and by one place at least: at the end of the text
by that one. -/
theorem exists_range (hscan : tokensOf source file = .ok tokens) (hmem : token ∈ tokens) :
    ∃ before behind, source.toList = before ++ behind ∧ token.location = .endOf file before ∧
      token.range = .onward before (token.width) ∧
      token.width ≤ (Text.firstLine behind).length + 1 := by
  obtain rfl | ⟨hkind, -⟩ := token_cases_of_tokensOf hscan hmem
  · exact ⟨source.toList, [], by simp, rfl, LineRange.at_endOf file _ _, Nat.le_refl 1⟩
  · obtain ⟨before, below, behind, htext, -, hne, hplace, hrange⟩ :=
      token.exists_firstLine hscan hmem hkind
    refine ⟨before, token.firstLine ++ (below ++ behind), htext, hplace, ?_, ?_⟩
    · rw [hrange, width_of_ne hne]
    · rw [width_of_ne hne, Text.firstLine_append_of_not_mem token.not_mem_firstLine, List.length_append]
      omega

/-- **The places that the range of a token covers**, by their offsets. -/
theorem covers_iff (hscan : tokensOf source file = .ok tokens) (hmem : token ∈ tokens)
    {line column : Nat} :
    token.range.covers line column = true ↔
      Text.HasPlace source.toList line column ∧
        token.location.offset ≤ Text.offset source.toList line column ∧
        Text.offset source.toList line column <
          token.location.offset + token.width := by
  obtain ⟨before, behind, htext, hplace, hrange, hlength⟩ := token.exists_range hscan hmem
  rw [hrange, htext, LineRange.covers_onward_iff hlength, hplace, Location.endOf_offset]
  refine and_congr_right fun _ => ?_
  omega

/-- A place that a lexeme covers is in front of the end of its line. -/
theorem exists_line_of_covers (hscan : tokensOf source file = .ok tokens)
    (hmem : token ∈ tokens) (hkind : token.kind ≠ .eof) {line column : Nat}
    (hcovers : token.range.covers line column = true) :
    ∃ chars, (Text.splitLines source.toList)[line]? = some chars ∧ column < chars.length := by
  obtain ⟨before, below, behind, htext, -, -, -, hrange⟩ :=
    token.exists_firstLine hscan hmem hkind
  obtain ⟨n, left, right, hline, hselects⟩ :=
    LineRange.selects_onward token.not_mem_firstLine before (below ++ behind)
  rw [hrange, hselects, LineRange.covers_iff] at hcovers
  obtain ⟨hn, -, hlt⟩ := hcovers
  obtain rfl := Int.ofNat.inj hn
  refine ⟨_, by rw [htext, hline], ?_⟩
  simp only at hlt
  rw [List.length_append, List.length_append]
  omega

end Token

/-- The ranges of the tokens follow each other in the text. -/
theorem pairwise_range (hscan : tokensOf source file = .ok tokens) :
    tokens.Pairwise fun token next =>
      token.location.offset + (token.width : Int) ≤ next.location.offset := by
  have hfirst : ∀ token ∈ tokens, token.kind ≠ .eof →
      token.location.offset + (token.width : Int) ≤ token.stop := by
    intro token hmem hkind
    obtain ⟨-, below, -, -, hlexeme, hne, -⟩ := token.exists_firstLine hscan hmem hkind
    rw [Token.stop, ← String.length_toList, hlexeme, List.length_append,
      Token.width_of_ne hne]
    omega
  obtain ⟨pieces, hmunch, rfl⟩ := exists_munch_of_tokensOf hscan
  -- only the last token is the end of the text
  have hkind := hmunch.listing_kind_ne_eof file []
  refine List.pairwise_append.mpr ⟨?_, List.pairwise_singleton _ _, ?_⟩
  · refine (Piece.pairwise_listing file [] pieces).imp_of_mem fun {token next} hmem _ hapart => ?_
    exact Int.le_trans (hfirst token (List.mem_append_left _ hmem) (hkind token hmem)) hapart
  · intro token hmem last hlast
    obtain rfl := List.mem_singleton.mp hlast
    exact Int.le_trans (hfirst token (List.mem_append_left _ hmem) (hkind token hmem))
      (hmunch.stop_le file token hmem)

/-- **No place is covered by two tokens.** -/
theorem pairwise_covers (hscan : tokensOf source file = .ok tokens) (line column : Nat) :
    tokens.Pairwise fun token next =>
      ¬ (token.range.covers line column = true ∧ next.range.covers line column = true) := by
  refine (pairwise_range hscan).imp_of_mem fun {token next} hmem hnext hapart => ?_
  rintro ⟨hcovers, hcovers'⟩
  obtain ⟨-, -, hlt⟩ := (token.covers_iff hscan hmem).mp hcovers
  obtain ⟨-, hle, -⟩ := (next.covers_iff hscan hnext).mp hcovers'
  omega

end Tokens

/-! ## What stands at an offset -/

/-- The token stands over an offset with its lexeme. -/
def Token.StandsOver (token : Token) (offset : Nat) : Prop :=
  token.location.offset ≤ offset ∧ offset < token.stop

/-- The token stands over an offset with the first line of its lexeme. -/
def Token.BeginsOver (token : Token) (offset : Nat) : Prop :=
  token.location.offset ≤ offset ∧ offset < token.location.offset + token.firstLine.length

/-- The token stands over an offset with its lexeme, but not with the first line of it. -/
def Token.GoesOnOver (token : Token) (offset : Nat) : Prop :=
  token.location.offset + token.firstLine.length ≤ offset ∧ offset < token.stop

/-- A piece of a text stands over an offset, behind the pieces `front`. -/
structure Piece.IsAt (pieces front : List Piece) (piece : Piece) (offset : Nat) : Prop where
  pieces_eq : ∃ back, pieces = front ++ piece :: back
  le : (Piece.spelling front).length ≤ offset
  lt : offset < (Piece.spelling front).length + piece.lexeme.length

/-- **The offset is in layout or in a comment**: in a piece of the text that makes no token. -/
def InLayout (text : List Char) (offset : Nat) : Prop :=
  ∃ pieces front piece, Munch text pieces [] ∧ Piece.IsAt pieces front piece offset ∧
    piece.content = none

namespace Piece

/-- Every offset of a text is in a piece of it. -/
theorem exists_isAt {pieces : List Piece} {offset : Nat} (h : offset < (spelling pieces).length) :
    ∃ front piece, IsAt pieces front piece offset := by
  induction pieces generalizing offset with
  | nil => exact absurd h (Nat.not_lt_zero offset)
  | cons first pieces ih =>
    by_cases hlt : offset < first.lexeme.length
    · exact ⟨[], first, ⟨pieces, rfl⟩, Nat.zero_le _, by simpa using hlt⟩
    · rw [spelling_cons, List.length_append] at h
      have hrest : offset - first.lexeme.length < (spelling pieces).length := by omega
      obtain ⟨front, piece, ⟨back, rfl⟩, hle, hlt'⟩ := ih hrest
      refine ⟨first :: front, piece, ⟨back, rfl⟩, ?_, ?_⟩
      · rw [spelling_cons, List.length_append]
        omega
      · rw [spelling_cons, List.length_append]
        omega

namespace IsAt

variable {pieces front front' : List Piece} {piece piece' : Piece} {offset : Nat}

/-- A piece over the same offset does not stand further behind. -/
theorem eq_of_prefix (h : IsAt pieces front piece offset) (h' : IsAt pieces front' piece' offset)
    (hfront : front <+: front') : front = front' ∧ piece = piece' := by
  obtain ⟨back, rfl⟩ := h.pieces_eq
  obtain ⟨back', hpieces⟩ := h'.pieces_eq
  obtain ⟨between, rfl⟩ := hfront
  rw [List.append_assoc, List.append_cancel_left_eq] at hpieces
  cases between with
  | nil => exact ⟨(List.append_nil front).symm, (List.cons.inj hpieces).1⟩
  | cons next between =>
    -- otherwise the first piece ends at the offset or in front of it
    obtain ⟨rfl, -⟩ := List.cons.inj hpieces
    have hlt := h.lt
    have hle := h'.le
    rw [spelling_append, spelling_cons, List.length_append, List.length_append] at hle
    omega

/-- **One piece stands over an offset.** -/
theorem unique (h : IsAt pieces front piece offset) (h' : IsAt pieces front' piece' offset) :
    front = front' ∧ piece = piece' := by
  obtain ⟨back, hback⟩ := h.pieces_eq
  obtain ⟨back', hback'⟩ := h'.pieces_eq
  rcases List.prefix_or_prefix_of_prefix ⟨_, hback.symm⟩ ⟨_, hback'.symm⟩ with hfront | hfront'
  · exact h.eq_of_prefix h' hfront
  · exact (h'.eq_of_prefix h hfront').imp Eq.symm Eq.symm

/-- The token over an offset is that of the piece there. -/
theorem token?_eq_some_iff (h : IsAt pieces front piece offset) {file : Option String}
    {token : Token} :
    piece.token? (.endOf file (spelling front)) = some token ↔
      token ∈ listing file [] pieces ∧ token.StandsOver offset := by
  constructor
  · intro htoken
    obtain ⟨back, hback⟩ := h.pieces_eq
    obtain ⟨-, hlexeme, hplace⟩ := Piece.token?_eq_some_iff.mp htoken
    have hle := h.le
    have hlt := h.lt
    refine ⟨mem_listing_iff.mpr ⟨front, piece, back, hback, htoken⟩, ?_, ?_⟩
    · rw [hplace, Location.endOf_offset]
      omega
    · rw [Token.stop, Token.lexemeText, hlexeme, hplace, Location.endOf_offset, Option.getD_some,
        String.length_ofList]
      omega
  · rintro ⟨hmem, hle, hlt⟩
    obtain ⟨front', piece', back', hpieces, htoken⟩ := mem_listing_iff.mp hmem
    obtain ⟨-, hlexeme, hplace⟩ := Piece.token?_eq_some_iff.mp htoken
    rw [hplace, List.nil_append, Location.endOf_offset] at hle
    rw [Token.stop, Token.lexemeText, hlexeme, hplace, List.nil_append, Location.endOf_offset,
      Option.getD_some, String.length_ofList] at hlt
    have h' : IsAt pieces front' piece' offset := ⟨⟨back', hpieces⟩, by omega, by omega⟩
    obtain ⟨rfl, rfl⟩ := h.unique h'
    exact htoken

end IsAt

end Piece

section Offsets

variable {source : String} {file : Option String} {tokens : List Token} {token other : Token}
  {offset : Nat}

/-- **An offset is in layout or in a comment if and only if no token stands over it.** -/
theorem inLayout_iff (hscan : tokensOf source file = .ok tokens)
    (hoffset : offset < source.toList.length) :
    InLayout source.toList offset ↔
      ∀ token ∈ tokens, ¬ token.StandsOver offset := by
  obtain ⟨pieces, hmunch, rfl⟩ := exists_munch_of_tokensOf hscan
  constructor
  · rintro ⟨pieces', front, piece, hmunch', hat, hcontent⟩ token hmem ⟨hle, hlt⟩
    obtain rfl := hmunch.unique hmunch'
    rcases List.mem_append.mp hmem with hmem | hlast
    · have htoken := hat.token?_eq_some_iff.mpr ⟨hmem, hle, hlt⟩
      rw [Piece.token?, hcontent] at htoken
      cases htoken
    · -- nothing stands over the end of the text
      obtain rfl := List.mem_singleton.mp hlast
      have hplace : (Token.endOfText (.endOf file source.toList)).location.offset =
          source.toList.length := rfl
      omega
  · intro hnone
    have htext : source.toList = Piece.spelling pieces := by simpa using hmunch.text_eq
    rw [htext] at hoffset
    obtain ⟨front, piece, hat⟩ := Piece.exists_isAt hoffset
    refine ⟨pieces, front, piece, hmunch, hat, ?_⟩
    cases hcontent : piece.content with
    | none => rfl
    | some content =>
      have htoken : ∃ token, piece.token? (.endOf file (Piece.spelling front)) = some token :=
        ⟨_, by rw [Piece.token?, hcontent, Option.map_some]⟩
      obtain ⟨token, htoken⟩ := htoken
      obtain ⟨hmem, hstands⟩ := hat.token?_eq_some_iff.mp htoken
      exact absurd hstands (hnone token (List.mem_append_left _ hmem))

/-- **One token stands over an offset.** -/
theorem eq_of_standsOver (hscan : tokensOf source file = .ok tokens) (hmem : token ∈ tokens)
    (hmem' : other ∈ tokens) (h : token.StandsOver offset) (h' : other.StandsOver offset) :
    token = other := by
  obtain ⟨pieces, hmunch, rfl⟩ := exists_munch_of_tokensOf hscan
  have hapart := ((hmunch.positioned file).concat (hmunch.stop_le file)).apart
  have hone : (Piece.listing file [] pieces ++
      [Token.endOfText (.endOf file source.toList)]).Pairwise fun (token next : Token) =>
        ¬ (token.StandsOver offset ∧ next.StandsOver offset) := by
    refine hapart.imp fun hle hboth => ?_
    obtain ⟨⟨-, hlt⟩, hle', -⟩ := hboth
    omega
  exact eq_of_pairwise hone hmem hmem' h h'

theorem Token.length_firstLine_le (token : Token) :
    token.firstLine.length ≤ token.lexemeText.length := by
  rw [← String.length_toList]
  exact (List.takeWhile_prefix _).length_le

/-- **No token begins over an offset** exactly if it is in layout or in a comment, or in a lower line
of a token. -/
theorem not_beginsOver_iff (hscan : tokensOf source file = .ok tokens)
    (hoffset : offset < source.toList.length) :
    (∀ token ∈ tokens, ¬ token.BeginsOver offset) ↔
      InLayout source.toList offset ∨ ∃ token ∈ tokens, token.GoesOnOver offset := by
  have hstands : ∀ token : Token,
      token.BeginsOver offset ∨ token.GoesOnOver offset ↔ token.StandsOver offset := by
    intro token
    have hle := token.length_firstLine_le
    simp only [Token.BeginsOver, Token.GoesOnOver, Token.StandsOver, Token.stop]
    omega
  rw [inLayout_iff hscan hoffset]
  constructor
  · intro hnone
    by_cases hbelow : ∃ token ∈ tokens, token.GoesOnOver offset
    · exact .inr hbelow
    · refine .inl fun token hmem hover => ?_
      rcases (hstands token).mpr hover with hbegins | hgoes
      · exact hnone token hmem hbegins
      · exact hbelow ⟨token, hmem, hgoes⟩
  · rintro (hnone | ⟨other, hother, hgoes⟩) token hmem hbegins
    · exact hnone token hmem ((hstands token).mp (.inl hbegins))
    · obtain rfl := eq_of_standsOver hscan hmem hother ((hstands token).mp (.inl hbegins))
        ((hstands other).mp (.inr hgoes))
      exact absurd hbegins.2 (Int.not_lt.mpr hgoes.1)

end Offsets

/-! ## What a document answers -/

/-- The first element with a property is any one that has it, if no two have. -/
theorem find?_eq_some_iff_of_pairwise {α : Type} {p : α → Bool} {list : List α} {a : α}
    (h : list.Pairwise fun x y => ¬ (p x = true ∧ p y = true)) :
    list.find? p = some a ↔ a ∈ list ∧ p a = true := by
  constructor
  · intro hfind
    exact ⟨List.mem_of_find?_eq_some hfind, List.find?_some hfind⟩
  · rintro ⟨hmem, hp⟩
    cases hfind : list.find? p with
    | none => exact absurd hp (by simpa using List.find?_eq_none.mp hfind a hmem)
    | some b =>
      rw [eq_of_pairwise h (List.mem_of_find?_eq_some hfind) hmem (List.find?_some hfind) hp]

namespace Document

/-- **What a document finds at a position**, if the tokens of its text are `tokens`: the token that
covers the position, which is the one that begins over the offset there. -/
structure FindsTokens (document : Document) (tokens : List Token) (line column : Nat) : Prop where
  /-- Not more than one token covers the position. -/
  covered_once : tokens.Pairwise fun token next =>
    ¬ (token.range.covers line column = true ∧ next.range.covers line column = true)
  /-- The token that covers the position is found; the end of the text is not. -/
  tokenAt?_iff (token : Token) : document.tokenAt? line column = some token ↔
    token ∈ tokens ∧ token.kind ≠ .eof ∧ token.range.covers line column = true
  /-- Within a line, the token is found that has its first line over the offset. -/
  found_iff (chars : List Char) :
    (Text.splitLines document.source.toList)[line]? = some chars → column < chars.length →
      ∀ token, document.tokenAt? line column = some token ↔
        token ∈ tokens ∧ token.BeginsOver (Text.offset document.source.toList line column)
  /-- Within a line, nothing is found in layout, in a comment and in a lower line of a token. -/
  none_iff (chars : List Char) :
    (Text.splitLines document.source.toList)[line]? = some chars → column < chars.length →
      (document.tokenAt? line column = none ↔
        InLayout document.source.toList (Text.offset document.source.toList line column) ∨
          ∃ token ∈ tokens,
            token.GoesOnOver (Text.offset document.source.toList line column))
  /-- Nothing is found behind a line, and below the last one. -/
  none_of_outside :
    (∀ chars, (Text.splitLines document.source.toList)[line]? = some chars →
      chars.length ≤ column) → document.tokenAt? line column = none
  /-- There is information exactly where there is a token. -/
  hover?_eq_none_iff : document.hover? line column = none ↔ document.tokenAt? line column = none
  /-- The information is about a range that covers the position. -/
  hover?_covers (hover : Hover) :
    document.hover? line column = some hover → hover.range.covers line column = true

variable {document : Document} {tokens : List Token}

/-- The token at a position is the one with a lexeme that covers it. -/
theorem tokenAt?_eq_some_iff
    (hscan : tokensOf document.source (some document.uri) = .ok tokens) {line column : Nat}
    {token : Token} : document.analyze.tokenAt? line column = some token ↔
      token ∈ tokens ∧ token.kind ≠ .eof ∧ token.range.covers line column = true := by
  have htokens : document.analyze.tokens = tokens := tokens_run hscan
  rw [tokenAt?, htokens, find?_eq_some_iff_of_pairwise]
  · refine and_congr_right fun hmem => ?_
    rw [Bool.and_eq_true, decide_eq_true_eq, token.lexemeText_ne_empty_iff hscan hmem]
  · refine (pairwise_covers hscan line column).imp fun hboth => ?_
    simp only [Bool.and_eq_true]
    exact fun h => hboth (h.imp And.right And.right)

/-- Within a line, the token at a position has its first line over the offset. -/
theorem tokenAt?_eq_some_iff_beginsOver
    (hscan : tokensOf document.source (some document.uri) = .ok tokens) {line column : Nat}
    (hplace : Text.HasPlace document.source.toList line column) {token : Token} :
    document.analyze.tokenAt? line column = some token ↔
      token ∈ tokens ∧ token.BeginsOver (Text.offset document.source.toList line column) := by
  rw [tokenAt?_eq_some_iff hscan]
  refine and_congr_right fun hmem => ?_
  rw [token.covers_iff hscan hmem, Token.BeginsOver]
  constructor
  · rintro ⟨hkind, -, hle, hlt⟩
    rw [Token.width_of_ne ((token.firstLine_ne_nil_iff hscan hmem).mpr hkind)] at hlt
    exact ⟨hle, hlt⟩
  · rintro ⟨hle, hlt⟩
    have hne : token.firstLine ≠ [] := by
      intro hnil
      rw [hnil, List.length_nil] at hlt
      omega
    rw [Token.width_of_ne hne]
    exact ⟨(token.firstLine_ne_nil_iff hscan hmem).mp hne, hplace, hle, hlt⟩

/-- **A document finds exactly the token under the cursor**, if its text can be scanned. -/
theorem analyze_findsTokens
    (hscan : tokensOf document.source (some document.uri) = .ok tokens) (line column : Nat) :
    document.analyze.FindsTokens tokens line column where
  covered_once := pairwise_covers hscan line column
  tokenAt?_iff token := tokenAt?_eq_some_iff hscan
  found_iff chars hline hcolumn token :=
    tokenAt?_eq_some_iff_beginsOver hscan ⟨chars, hline, hcolumn.le⟩
  none_iff chars hline hcolumn := by
    have hplace : Text.HasPlace document.source.toList line column := ⟨chars, hline, hcolumn.le⟩
    have hnone : document.analyze.tokenAt? line column = none ↔ ∀ token ∈ tokens,
        ¬ token.BeginsOver (Text.offset document.source.toList line column) := by
      simp only [Option.eq_none_iff_forall_ne_some, ne_eq,
        tokenAt?_eq_some_iff_beginsOver hscan hplace, not_and]
    exact hnone.trans (not_beginsOver_iff hscan (Text.offset_lt_length hline hcolumn))
  none_of_outside houtside := by
    refine Option.eq_none_iff_forall_ne_some.mpr fun token htoken => ?_
    obtain ⟨hmem, hkind, hcovers⟩ := (tokenAt?_eq_some_iff hscan).mp htoken
    obtain ⟨chars, hline, hcolumn⟩ := token.exists_line_of_covers hscan hmem hkind hcovers
    exact absurd hcolumn (Nat.not_lt.mpr (houtside chars hline))
  hover?_eq_none_iff := Option.map_eq_none_iff
  hover?_covers hover hhover := by
    obtain ⟨token, htoken, rfl⟩ := Option.map_eq_some_iff.mp hhover
    exact ((tokenAt?_eq_some_iff hscan).mp htoken).2.2

/-- A string over two lines, and a comment behind it. -/
theorem analyze_findsTokens_comment :
    let document : Document := { source := "\"a\nb\" // c", uri := "a.lox" }
    let string : Token := ⟨.string, some "\"a\nb\"", .text "a\nb", ⟨1, 1, 0, some "a.lox"⟩⟩
    document.analyze.tokenAt? 0 1 = some string ∧ document.analyze.tokenAt? 0 2 = none ∧
      document.analyze.tokenAt? 1 1 = none ∧ document.analyze.hover? 1 4 = none ∧
      InLayout document.source.toList 7 := by
  intro document string
  have htokens : tokensOf "\"a\nb\" // c" (some "a.lox") =
      .ok [string, .endOfText ⟨2, 8, 10, some "a.lox"⟩] :=
    tokensOf_eq_scanWithin _ _
  have hscan : tokensOf document.source (some document.uri) = _ := htokens
  have habove : (Text.splitLines document.source.toList)[0]? = some ['"', 'a'] := by decide
  have hbelow : (Text.splitLines document.source.toList)[1]? =
      some ['b', '"', ' ', '/', '/', ' ', 'c'] := by decide
  have hcomment : document.analyze.tokenAt? 1 4 = none := by
    refine Option.eq_none_iff_forall_ne_some.mpr fun token htoken => ?_
    obtain ⟨hmem, hkind, hcovers⟩ := ((analyze_findsTokens hscan 1 4).tokenAt?_iff token).mp htoken
    rcases List.mem_cons.mp hmem with rfl | hlast
    · exact absurd hcovers (by decide)
    · obtain rfl := List.mem_singleton.mp hlast
      exact absurd rfl hkind
  refine ⟨?_, ?_, ?_, ?_, ?_⟩
  · exact ((analyze_findsTokens hscan 0 1).tokenAt?_iff string).mpr
      ⟨List.mem_cons_self, by decide, by decide⟩
  · refine (analyze_findsTokens hscan 0 2).none_of_outside fun chars hchars => ?_
    obtain rfl := Option.some.inj (habove.symm.trans hchars)
    exact Nat.le_refl 2
  · exact ((analyze_findsTokens hscan 1 1).none_iff _ hbelow (by decide)).mpr
      (.inr ⟨string, List.mem_cons_self, by decide, by decide⟩)
  · exact (analyze_findsTokens hscan 1 4).hover?_eq_none_iff.mpr hcomment
  · have hoffset : Text.offset document.source.toList 1 4 = 7 := by decide
    have hnone : InLayout document.source.toList (Text.offset document.source.toList 1 4) ∨ _ :=
      ((analyze_findsTokens hscan 1 4).none_iff _ hbelow (by decide)).mp hcomment
    rw [hoffset] at hnone
    -- the offset is behind the string, and in front of the end
    rcases hnone with hlayout | ⟨token, hmem, hle, hlt⟩
    · exact hlayout
    · rcases List.mem_cons.mp hmem with rfl | hlast
      · exact absurd hlt (by decide)
      · obtain rfl := List.mem_singleton.mp hlast
        exact absurd hle (by decide)

end Document

end Lox
