import Lox.Proofs.Run.Relocation
import Lox.Proofs.Token.Bounded
import Lox.Proofs.Token.Layout

/-!
# Texts that go on

A text keeps its pieces when it goes on with layout: behind the place where its scan stops any layout
will do, and behind a text that is scanned to its end an LF, at which a last comment ends. Nor does a
scan depend on where a text starts. So the scan of two texts with an LF between them is the scan of the
first, and then that of the second with its locations moved down.

## Main definitions

* `Location.below`: a location of a text, when another text and an LF are put in front of it
* `ScanError.relocate`, `Stop.relocate`: an error and a stop with their locations mapped

## Main results

* `Munch.append`: the pieces of a text that goes on with layout
* `NoLexeme.append`: where no lexeme stands, none stands when the text goes on without a quote
* `scanFrom_relocate`: a scan does not depend on where the text starts
* `tokensOf_append_lf`: scans compose at line ends
-/

namespace Lox

/-! ## Pieces of a text that goes on -/

theorem IsComment.not_mem_lf {text : List Char} (h : IsComment text) : '\n' ∉ text := by
  obtain ⟨body, hbody, rfl⟩ := h
  intro hmem
  have hmem : '\n' ∈ body := by simpa using hmem
  exact hbody '\n' hmem rfl

/-- **The pieces of a text that goes on with layout** are its pieces. If nothing is left of the text,
the layout starts with an LF, since a last comment would take up anything else. -/
theorem Munch.append {text final : List Char} {pieces : List Piece} {c : Char}
    (h : Munch text pieces final) (hc : isLayout c = true) (hlast : final = [] → c = '\n')
    (more : List Char) : Munch (text ++ c :: more) pieces (final ++ c :: more) := by
  induction h with
  | done => exact .done _
  | @bite piece pieces rest final hlongest hrest ih =>
    rw [List.append_assoc]
    refine .bite ?_ (ih hlast)
    rw [← List.append_nil rest] at hlongest
    refine hlongest.replace (.inl hc) ?_ more
    -- a comment ends at an LF, and any other layout stands behind a lexeme that is not the last
    by_cases hlf : c = '\n'
    · exact fun hcomment => hcomment.not_mem_lf (by simp [hlf])
    · refine hlongest.not_isComment_layout hc fun hnil => absurd (hlast ?_) hlf
      exact (List.append_eq_nil_iff.mp (hrest.text_eq.symm.trans hnil)).2

/-- Where the head lexeme is missing, it is missing when the text goes on without a quote. -/
theorem headLexeme_append_of_error {c : Char} {rest more : List Char} {fault : ScanFault}
    (h : headLexeme c rest = .error fault) (hmore : ∀ d ∈ more, d ≠ '"') :
    headLexeme c (rest ++ more) = .error fault := by
  -- by the first character, as the head lexeme is computed
  by_cases hc : c ∈ reservedChars
  · rcases reservedChars_cases hc with ⟨entry, hmem, rfl⟩ | ⟨entry, hmem, rfl⟩ | rfl | hl | rfl
    · rw [headLexeme_punctuation hmem] at h; cases h
    · rw [headLexeme_comparison hmem] at h; cases h
    · rw [headLexeme_slash] at h; cases h
    · rw [headLexeme_layout hl] at h; cases h
    · -- a quote that is not closed stays open
      rw [headLexeme_quote] at h ⊢
      split at h
      · cases h
      · next hopen =>
        have hrest : ∀ d ∈ rest, decide (d ≠ '"') = true := by
          have hall : rest.takeWhile (· ≠ '"') = rest :=
            (List.takeWhile_prefix _).eq_of_length_le (Nat.le_of_not_lt hopen)
          exact List.takeWhile_eq_self_iff.mp hall
        have hboth : (rest ++ more).takeWhile (· ≠ '"') = rest ++ more := by
          refine List.takeWhile_eq_self_iff.mpr fun d hd => ?_
          rcases List.mem_append.mp hd with hd | hd
          · exact hrest d hd
          · exact decide_eq_true (hmore d hd)
        rw [hboth, if_neg (Nat.lt_irrefl _)]
        exact h
  · rw [headLexeme_of_not_reserved hc] at h ⊢
    split at h
    · cases h
    · next hdigit =>
      split at h
      · cases h
      · next hletter => rw [if_neg hdigit, if_neg hletter, h]

/-- **Where no lexeme stands**, none stands when the text goes on without a quote. -/
theorem NoLexeme.append {c : Char} {rest more : List Char} (h : NoLexeme (c :: rest))
    (hmore : ∀ d ∈ more, d ≠ '"') : NoLexeme (c :: rest ++ more) := by
  have hhead : headLexeme c rest = .error (.atChar c) := headLexeme_eq_error_iff.mpr ⟨h, rfl⟩
  exact (headLexeme_eq_error_iff.mp (headLexeme_append_of_error hhead hmore)).1

/-! ## Scans that start elsewhere -/

section Relocation

variable (f : Location → Location)

/-- The error at another location. -/
def ScanError.relocate (error : ScanError) : ScanError :=
  { error with location := f error.location }

/-- The stop at another location. -/
def Stop.relocate : Stop → Stop
  | finished position => finished (f position)
  | failed error position => failed (error.relocate f) (f position)

variable {f}

theorem Location.after_relocate (hf : ∀ place c, f (place.next c) = (f place).next c)
    (place : Location) (text : List Char) : f (place.after text) = (f place).after text := by
  induction text generalizing place with
  | nil => rfl
  | cons c text ih => rw [after_cons, after_cons, ih, hf]

/-- **A scan does not depend on where the text starts.** If the locations are moved by a map that
keeps to the steps of the scanner, the tokens and the stop are moved by it. -/
theorem scanFrom_relocate (hf : ∀ place c, f (place.next c) = (f place).next c)
    (place : Location) (text : List Char) :
    scanFrom (f place) text =
      ((scanFrom place text).1.map (Token.relocate f), (scanFrom place text).2.relocate f) := by
  -- on the length of the text, since a step leaves the text behind a lexeme
  induction hn : text.length using Nat.strong_induction_on generalizing place text with
  | _ n ih =>
    cases text with
    | nil => simp [Stop.relocate]
    | cons c rest =>
      cases hhead : headLexeme c rest with
      | error fault =>
        rw [scanFrom_error hhead, scanFrom_error hhead, ← Location.after_relocate hf]
        rfl
      | ok cut =>
        have hlt : (rest.drop cut.more).length < n := by
          rw [← hn, List.length_drop, List.length_cons]
          omega
        have htoken : (cut.token? (c :: rest.take cut.more) (f place)).toList =
            (cut.token? (c :: rest.take cut.more) place).toList.map (Token.relocate f) := by
          rw [Cut.token?, Cut.token?]
          cases cut.kind <;> rfl
        rw [scanFrom_ok hhead, scanFrom_ok hhead, ← Location.after_relocate hf,
          ih _ hlt _ _ rfl, htoken, List.map_append]

end Relocation

/-! ## Texts below others -/

/-- **The location when a text and an LF are put in front**: it is moved down by the lines of the text,
and on by its characters and the LF. The column stays. -/
def Location.below (above : List Char) (place : Location) : Location :=
  { place with
    line := place.line + (1 + above.count '\n')
    offset := place.offset + (above.length + 1) }

namespace Location

theorem below_next (above : List Char) (place : Location) (c : Char) :
    (place.next c).below above = (place.below above).next c := by
  unfold next
  split <;> simp only [below, Location.mk.injEq, true_and, and_true] <;> omega

/-- A text below another one starts behind the LF. -/
theorem below_start (file : Option String) (above : List Char) :
    (start file).below above = endOf file (above ++ ['\n']) := by
  simp only [below, start, endOf, List.count_append, List.length_append, List.reverse_append,
    Location.mk.injEq, and_true]
  refine ⟨?_, ?_, ?_⟩
  · simp
    omega
  · simp
  · simp

end Location

/-- **The scan of a text below another one.** The tokens of the text above, its end left out, come
first, and the scan of the text below follows with its locations moved. -/
theorem scanText_append_lf {above : String} {file : Option String} {tokens : List Token}
    (h : tokensOf above file = .ok tokens) (text : String) :
    scanText (above ++ "\n" ++ text) file =
      ⟨tokens.dropLast ++ (scanText text file).tokens.map (Token.relocate (.below above.toList)),
        (scanText text file).stop.relocate (.below above.toList)⟩ := by
  obtain ⟨pieces, hmunch, rfl⟩ := exists_munch_of_tokensOf h
  have hspelling : above.toList = Piece.spelling pieces := by simpa using hmunch.text_eq
  -- the LF is a piece of its own, without a token
  have hline : Munch (above.toList ++ '\n' :: text.toList) (pieces ++ [⟨['\n'], none⟩])
      text.toList := by
    have hlf : Munch ('\n' :: text.toList) [⟨['\n'], none⟩] text.toList :=
      .cons (longest_layout (by decide) _) (.done _)
    exact (hmunch.append (by decide) (fun _ => rfl) _).trans hlf
  have htext : (above ++ "\n" ++ text).toList = above.toList ++ '\n' :: text.toList := by simp
  have hscan := scanFrom_of_munch hline file []
  have hlisting : Piece.listing file [] (pieces ++ [⟨['\n'], none⟩]) =
      Piece.listing file [] pieces := by
    rw [Piece.listing_append]
    simp [Piece.listing, Piece.token?]
  have hbehind : [] ++ Piece.spelling (pieces ++ [⟨['\n'], none⟩]) = above.toList ++ ['\n'] := by
    rw [Piece.spelling_append, hspelling]
    rfl
  rw [hlisting, hbehind, ← Location.below_start, scanFrom_relocate (Location.below_next _),
    Location.endOf_nil] at hscan
  rw [scanText, htext, hscan, List.dropLast_concat, scanText]
  rcases scanFrom (.start file) text.toList with ⟨others, place | ⟨error, place⟩⟩
  · simp [Stop.relocate, Token.relocate, Token.endOfText]
  · simp [Stop.relocate]

/-- **Scans compose at line ends.** If a text is scanned, the tokens of this text with an LF and a
second text behind it are those of the first, its end left out, and those of the second, moved down.
If the second text is not scanned, the whole fails with the same fault at the moved location. -/
theorem tokensOf_append_lf {above : String} {file : Option String} {tokens : List Token}
    (h : tokensOf above file = .ok tokens) (text : String) :
    (∀ others, tokensOf text file = .ok others →
        tokensOf (above ++ "\n" ++ text) file =
          .ok (tokens.dropLast ++ others.map (Token.relocate (.below above.toList)))) ∧
      ∀ error, tokensOf text file = .error error →
        tokensOf (above ++ "\n" ++ text) file =
          .error ⟨error.fault, error.location.below above.toList⟩ := by
  have hscan := scanText_append_lf h text
  rw [tokensOf, tokensOf, hscan]
  rcases scanText text file with ⟨others, place | ⟨error, place⟩⟩
  · constructor
    · rintro _ ⟨rfl⟩
      rfl
    · intro _ herror
      cases herror
  · constructor
    · intro _ hothers
      cases hothers
    · rintro _ ⟨rfl⟩
      rfl

/-- Below a comment on the second line: a number and a point, and a character that is no lexeme. -/
theorem tokensOf_append_lf_comment :
    tokensOf "a\n//" none =
        .ok [.ofLexeme .identifier ['a'] ⟨1, 1, 0, none⟩, .endOfText ⟨2, 3, 4, none⟩] ∧
      tokensOf ("a\n//" ++ "\n" ++ "1.") none =
        .ok [.ofLexeme .identifier ['a'] ⟨1, 1, 0, none⟩,
          .ofLexeme .number ['1'] ⟨3, 1, 5, none⟩, .ofLexeme .dot ['.'] ⟨3, 2, 6, none⟩,
          .endOfText ⟨3, 3, 7, none⟩] ∧
      tokensOf ("a\n//" ++ "\n" ++ "\n @") none =
        .error ⟨.unexpectedCharacter, ⟨4, 2, 7, none⟩⟩ := by
  have habove : tokensOf "a\n//" none =
      .ok [.ofLexeme .identifier ['a'] ⟨1, 1, 0, none⟩, .endOfText ⟨2, 3, 4, none⟩] :=
    tokensOf_eq_scanWithin _ _
  have hnumber : tokensOf "1." none =
      .ok [.ofLexeme .number ['1'] ⟨1, 1, 0, none⟩, .ofLexeme .dot ['.'] ⟨1, 2, 1, none⟩,
        .endOfText ⟨1, 3, 2, none⟩] :=
    tokensOf_eq_scanWithin _ _
  have hsign : tokensOf "\n @" none = .error ⟨.unexpectedCharacter, ⟨2, 2, 2, none⟩⟩ :=
    tokensOf_eq_scanWithin _ _
  exact ⟨habove, (tokensOf_append_lf habove "1.").1 _ hnumber,
    (tokensOf_append_lf habove "\n @").2 _ hsign⟩

end Lox
