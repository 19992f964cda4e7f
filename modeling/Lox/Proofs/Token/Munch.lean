import Lox.Proofs.Token.HeadLexeme
import Lox.Proofs.Token.Place
import Lox.Token.Scan

/-!
# Maximal munch

A scan removes the longest lexeme from the front of the text, again and again, and lists the tokens
of the pieces. It comes to the end of the text, or to a place where no lexeme stands.

## Main definitions

* `Piece`: a lexeme cut off a text, with the content of its token
* `Munch`: longest lexemes removed from the front of a text
* `Piece.listing`: the tokens of pieces, each at the location where it stands

## Main results

* `scanFrom_of_munch`: a scan lists the pieces and goes on with the rest
* `exists_munch`: a text can be munched up to a place without a lexeme
* `tokensOf_iff_munch`: the tokens of a text are those of its maximal munch
-/

namespace Lox

/-! ## Pieces -/

/-- A lexeme cut off a text, with the kind and the value of its token if it makes one. -/
structure Piece where
  lexeme : List Char
  content : Option (TokenKind × Value)

namespace Piece

/-- The text of pieces. -/
def spelling (pieces : List Piece) : List Char :=
  pieces.flatMap (·.lexeme)

/-- The token of a piece that stands at a location. -/
def token? (piece : Piece) (place : Location) : Option Token :=
  piece.content.map fun (kind, value) =>
    { kind := kind, lexeme := some (String.ofList piece.lexeme), literal := value,
      location := place }

/-- The tokens of pieces that stand behind the text `before`. -/
def listing (file : Option String) (before : List Char) : List Piece → List Token
  | [] => []
  | piece :: pieces =>
    (piece.token? (.endOf file before)).toList ++ listing file (before ++ piece.lexeme) pieces

@[simp] theorem spelling_nil : spelling [] = [] := rfl

@[simp] theorem spelling_cons (piece : Piece) (pieces : List Piece) :
    spelling (piece :: pieces) = piece.lexeme ++ spelling pieces := List.flatMap_cons

theorem spelling_append (first second : List Piece) :
    spelling (first ++ second) = spelling first ++ spelling second := List.flatMap_append

@[simp] theorem listing_nil (file : Option String) (before : List Char) :
    listing file before [] = [] := rfl

theorem listing_append (file : Option String) (before : List Char) (first second : List Piece) :
    listing file before (first ++ second) =
      listing file before first ++ listing file (before ++ spelling first) second := by
  induction first generalizing before with
  | nil => simp
  | cons piece pieces ih => simp [listing, ih]

end Piece

/-! ## Munching -/

/-- **Maximal munch**: the pieces are removed from the front of the text one after the other, each
the longest lexeme of what is left, down to the rest. -/
inductive Munch : List Char → List Piece → List Char → Prop
  | done (text : List Char) : Munch text [] text
  | bite {piece : Piece} {pieces : List Piece} {rest final : List Char} :
      Longest (piece.lexeme ++ rest) piece.lexeme piece.content → Munch rest pieces final →
      Munch (piece.lexeme ++ rest) (piece :: pieces) final

namespace Munch

theorem cons {lexeme rest final : List Char} {content : Option (TokenKind × Value)}
    {pieces : List Piece} (h : Longest (lexeme ++ rest) lexeme content)
    (hrest : Munch rest pieces final) :
    Munch (lexeme ++ rest) (⟨lexeme, content⟩ :: pieces) final :=
  @bite ⟨lexeme, content⟩ _ _ _ h hrest

theorem text_eq {text final : List Char} {pieces : List Piece} (h : Munch text pieces final) :
    text = Piece.spelling pieces ++ final := by
  induction h with
  | done => rfl
  | bite _ _ ih => rw [Piece.spelling_cons, List.append_assoc, ← ih]

theorem trans {text middle final : List Char} {first second : List Piece}
    (h : Munch text first middle) (h' : Munch middle second final) :
    Munch text (first ++ second) final := by
  induction h with
  | done => exact h'
  | bite hlongest _ ih => exact .bite hlongest (ih h')

theorem lexical {text final : List Char} {pieces : List Piece} (h : Munch text pieces final) :
    ∀ piece ∈ pieces, Lexical piece.lexeme piece.content := by
  induction h with
  | done => simp
  | bite hlongest _ ih => exact List.forall_mem_cons.mpr ⟨hlongest.lexical, ih⟩

end Munch

theorem Lexical.ne_nil {lexeme : List Char} {token : Option (TokenKind × Value)}
    (h : Lexical lexeme token) : lexeme ≠ [] := by
  have hsymbols : ∀ entry ∈ symbols, entry.1 ≠ [] := by decide
  cases h with
  | layout | comment | string | word => simp
  | symbol hentry => exact hsymbols _ hentry
  | number h =>
    obtain ⟨c, tail, rfl, -⟩ := h.head
    simp

/-- A text has at most one longest lexeme. -/
theorem Longest.unique {text first second : List Char}
    {token token' : Option (TokenKind × Value)} (h : Longest text first token)
    (h' : Longest text second token') : first = second ∧ token = token' := by
  obtain ⟨rest, rfl⟩ := h.heads
  obtain ⟨c, tail, rfl⟩ := List.exists_cons_of_ne_nil h.lexical.ne_nil
  rw [List.cons_append] at h h'
  obtain ⟨cut, hcut, hfirst, htoken⟩ := h.eq_headLexeme
  obtain ⟨cut', hcut', hsecond, htoken'⟩ := h'.eq_headLexeme
  obtain rfl : cut = cut' := Except.ok.inj (hcut.symm.trans hcut')
  have heq : c :: tail = second := hfirst.trans hsecond.symm
  exact ⟨heq, by rw [htoken, htoken', heq]⟩

theorem Lexical.kind_ne_eof {lexeme : List Char} {kind : TokenKind} {value : Value}
    (h : Lexical lexeme (some (kind, value))) : kind ≠ .eof := by
  have hsymbols : ∀ entry ∈ symbols, entry.2 ≠ .eof := by decide
  have hkeywords : ∀ entry ∈ TokenKind.keywords, entry.2 ≠ .eof := by decide
  cases h with
  | symbol hentry => exact hsymbols _ hentry
  | number | string => decide
  | word _ _ hkind =>
    rcases hkind with hentry | ⟨rfl, -⟩
    · exact hkeywords _ hentry
    · decide

/-- The pieces of a munch make no end of the text. -/
theorem Munch.listing_kind_ne_eof {text final : List Char} {pieces : List Piece}
    (h : Munch text pieces final) (file : Option String) (before : List Char) :
    ∀ token ∈ Piece.listing file before pieces, token.kind ≠ .eof := by
  have hlexical := h.lexical
  clear h
  induction pieces generalizing before with
  | nil => simp
  | cons piece pieces ih =>
    obtain ⟨hpiece, hpieces⟩ := List.forall_mem_cons.mp hlexical
    intro token htoken
    rcases List.mem_append.mp htoken with htoken | htoken
    · simp only [Piece.token?, Option.mem_toList, Option.map_eq_some_iff] at htoken
      obtain ⟨⟨kind, value⟩, hcontent, rfl⟩ := htoken
      exact (hcontent ▸ hpiece).kind_ne_eof
    · exact ih _ hpieces token htoken

/-! ## The scan is the maximal munch -/

/-- One step of a scan makes the token of a piece. -/
theorem scanFrom_of_longest {piece : Piece} {rest : List Char}
    (h : Longest (piece.lexeme ++ rest) piece.lexeme piece.content) (file : Option String)
    (before : List Char) :
    scanFrom (.endOf file before) (piece.lexeme ++ rest) =
      ((piece.token? (.endOf file before)).toList ++
          (scanFrom (.endOf file (before ++ piece.lexeme)) rest).1,
        (scanFrom (.endOf file (before ++ piece.lexeme)) rest).2) := by
  obtain ⟨c, tail, htail⟩ := List.exists_cons_of_ne_nil h.lexical.ne_nil
  have htext : piece.lexeme ++ rest = c :: (tail ++ rest) := by rw [htail, List.cons_append]
  obtain ⟨cut, hcut, hlexeme, hcontent⟩ := (htext ▸ h).eq_headLexeme
  -- the cut ends where the lexeme does
  have hdrop : (tail ++ rest).drop cut.more = rest := by
    have htake : (tail ++ rest).take cut.more = tail :=
      (List.cons.inj (hlexeme.symm.trans htail)).2
    have happend := List.take_append_drop cut.more (tail ++ rest)
    rwa [htake, List.append_cancel_left_eq] at happend
  have htoken : cut.token? piece.lexeme (.endOf file before) =
      piece.token? (.endOf file before) := by
    rw [Piece.token?, hcontent, Cut.content, Option.map_map]
    rfl
  rw [htext, scanFrom_ok hcut, ← hlexeme, hdrop, htoken, Location.endOf_after]

/-- **A scan lists the pieces and goes on with the rest.** -/
theorem scanFrom_of_munch {text final : List Char} {pieces : List Piece}
    (h : Munch text pieces final) (file : Option String) (before : List Char) :
    scanFrom (.endOf file before) text =
      (Piece.listing file before pieces ++
          (scanFrom (.endOf file (before ++ Piece.spelling pieces)) final).1,
        (scanFrom (.endOf file (before ++ Piece.spelling pieces)) final).2) := by
  induction h generalizing before with
  | done => simp
  | bite hlongest _ ih =>
    rw [scanFrom_of_longest hlongest, ih, Piece.spelling_cons, Piece.listing]
    simp only [List.append_assoc]

/-- A text can be munched up to a place where no lexeme stands. -/
theorem exists_munch (text : List Char) :
    ∃ pieces final, Munch text pieces final ∧ NoLexeme final := by
  -- a lexeme is not empty, so that the rest is shorter than the text
  induction hn : text.length using Nat.strong_induction_on generalizing text with
  | _ n ih =>
    cases text with
    | nil =>
      refine ⟨[], [], .done [], fun lexeme token hlexical hheads => ?_⟩
      exact hlexical.ne_nil (List.prefix_nil.mp hheads)
    | cons c rest =>
      cases hhead : headLexeme c rest with
      | error fault => exact ⟨[], _, .done _, (headLexeme_eq_error_iff.mp hhead).1⟩
      | ok cut =>
        have hlt : (rest.drop cut.more).length < n := by
          rw [← hn, List.length_drop, List.length_cons]
          omega
        obtain ⟨pieces, final, hmunch, hnone⟩ := ih _ hlt (rest.drop cut.more) rfl
        have hlongest := longest_of_headLexeme hhead
        have htext : c :: rest = (c :: rest.take cut.more) ++ rest.drop cut.more := by
          rw [List.cons_append, List.take_append_drop]
        rw [htext] at hlongest ⊢
        exact ⟨_, final, .cons hlongest hmunch, hnone⟩

/-! ## Scans of a whole text -/

/-- The scan of a text that is munched to its end. -/
theorem scanText_of_munch {source : String} {pieces : List Piece}
    (h : Munch source.toList pieces []) (file : Option String) :
    scanText source file =
      ⟨Piece.listing file [] pieces ++ [.endOfText (.endOf file source.toList)],
        .finished (.endOf file source.toList)⟩ := by
  have hscan := scanFrom_of_munch h file []
  have htext : Piece.spelling pieces = source.toList := by simpa using h.text_eq.symm
  rw [Location.endOf_nil, List.nil_append, htext, scanFrom_nil] at hscan
  simp [scanText, hscan]

/-- The scan of a text that is munched to a place where no lexeme stands. -/
theorem scanText_of_noLexeme {source : String} {pieces : List Piece} {c : Char}
    {rest : List Char} (h : Munch source.toList pieces (c :: rest))
    (hnone : NoLexeme (c :: rest)) (file : Option String) :
    scanText source file =
      ⟨Piece.listing file [] pieces,
        .failed ⟨.atChar c, .endOf file (Piece.spelling pieces)⟩
          ((Location.endOf file (Piece.spelling pieces)).after
            ((ScanFault.atChar c).reach c rest))⟩ := by
  have hscan := scanFrom_of_munch h file []
  have hhead : headLexeme c rest = .error (.atChar c) :=
    headLexeme_eq_error_iff.mpr ⟨hnone, rfl⟩
  rw [Location.endOf_nil, List.nil_append, scanFrom_error hhead] at hscan
  simp [scanText, hscan]

theorem tokensOf_of_munch {source : String} {pieces : List Piece}
    (h : Munch source.toList pieces []) (file : Option String) :
    tokensOf source file =
      .ok (Piece.listing file [] pieces ++ [.endOfText (.endOf file source.toList)]) := by
  simp [tokensOf, Scan.error?, scanText_of_munch h]

theorem tokensOf_of_noLexeme {source : String} {pieces : List Piece} {c : Char} {rest : List Char}
    (h : Munch source.toList pieces (c :: rest)) (hnone : NoLexeme (c :: rest))
    (file : Option String) :
    tokensOf source file = .error ⟨.atChar c, .endOf file (Piece.spelling pieces)⟩ := by
  simp [tokensOf, Scan.error?, scanText_of_noLexeme h hnone]

/-- The tokens of a text are those of its pieces and the end of the text. -/
theorem exists_munch_of_tokensOf {source : String} {file : Option String} {tokens : List Token}
    (h : tokensOf source file = .ok tokens) :
    ∃ pieces, Munch source.toList pieces [] ∧
      tokens = Piece.listing file [] pieces ++ [.endOfText (.endOf file source.toList)] := by
  obtain ⟨pieces, final, hmunch, hnone⟩ := exists_munch source.toList
  cases final with
  | nil => exact ⟨pieces, hmunch, Except.ok.inj (h.symm.trans (tokensOf_of_munch hmunch file))⟩
  | cons c rest => cases h.symm.trans (tokensOf_of_noLexeme hmunch hnone file)

/-- Where a scan fails no lexeme stands. -/
theorem exists_munch_of_tokensOf_error {source : String} {file : Option String} {error : ScanError}
    (h : tokensOf source file = .error error) :
    ∃ pieces c rest, Munch source.toList pieces (c :: rest) ∧ NoLexeme (c :: rest) ∧
      error = ⟨.atChar c, .endOf file (Piece.spelling pieces)⟩ := by
  obtain ⟨pieces, final, hmunch, hnone⟩ := exists_munch source.toList
  cases final with
  | nil => cases h.symm.trans (tokensOf_of_munch hmunch file)
  | cons c rest =>
    obtain rfl := Except.error.inj (h.symm.trans (tokensOf_of_noLexeme hmunch hnone file))
    exact ⟨pieces, c, rest, hmunch, hnone, rfl⟩

/-- **The scanner is maximal munch.** A text has tokens if and only if longest lexemes can be
removed from its front until nothing is left; the tokens are those of the pieces, in order and each
at its place, and one end of the text behind them. Where instead no prefix of the rest is a lexeme,
the error is at the first character of the rest: a quote is not closed, and any other character is
unexpected. -/
theorem tokensOf_iff_munch (source : String) (file : Option String) :
    (∀ tokens, tokensOf source file = .ok tokens ↔
      ∃ pieces, Munch source.toList pieces [] ∧
        tokens = Piece.listing file [] pieces ++ [.endOfText (.endOf file source.toList)] ∧
        tokens.countP (·.kind = .eof) = 1) ∧
    ∀ error, tokensOf source file = .error error ↔
      ∃ pieces c rest, Munch source.toList pieces (c :: rest) ∧ NoLexeme (c :: rest) ∧
        error = ⟨.atChar c, .endOf file (Piece.spelling pieces)⟩ := by
  refine ⟨fun tokens => ⟨fun h => ?_, ?_⟩, fun error => ⟨fun h => ?_, ?_⟩⟩
  · obtain ⟨pieces, hmunch, rfl⟩ := exists_munch_of_tokensOf h
    refine ⟨pieces, hmunch, rfl, ?_⟩
    -- no piece makes an end of the text, and one stands behind them
    have hno : (Piece.listing file [] pieces).countP (·.kind = .eof) = 0 := by
      apply List.countP_eq_zero.mpr
      intro token htoken
      simpa using hmunch.listing_kind_ne_eof file [] token htoken
    rw [List.countP_append, hno]
    rfl
  · rintro ⟨pieces, hmunch, rfl, -⟩
    exact tokensOf_of_munch hmunch file
  · obtain ⟨pieces, final, hmunch, hnone⟩ := exists_munch source.toList
    cases final with
    | nil => cases h.symm.trans (tokensOf_of_munch hmunch file)
    | cons c rest =>
      obtain rfl := Except.error.inj (h.symm.trans (tokensOf_of_noLexeme hmunch hnone file))
      exact ⟨pieces, c, rest, hmunch, hnone, rfl⟩
  · rintro ⟨pieces, c, rest, hmunch, hnone, rfl⟩
    exact tokensOf_of_noLexeme hmunch hnone file

end Lox
