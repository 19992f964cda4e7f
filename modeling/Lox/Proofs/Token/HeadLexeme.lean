import Lox.Proofs.Token.Lexical

/-!
# The head lexeme is the longest

The lexeme that stands at the head of a text is computed from the first character and little
lookahead. It is the longest prefix of the text that belongs to a lexical class, and it is missing
exactly where no prefix does.

## Main definitions

* `Cut.content`: the kind and the value of the token that a cut makes
* `ScanFault.atChar`: the fault at a character where no lexeme stands

## Main results

* `Lexical.within_head`: a lexeme at the head of a text lies within the head lexeme
* `longest_of_headLexeme`: the head lexeme is the longest one
* `Longest.eq_headLexeme`: a text has no other longest lexeme
* `headLexeme_eq_error_iff`: no lexeme stands where the head lexeme is missing
-/

namespace Lox

/-! ## The head lexeme, by its first character -/

theorem headLexeme_layout {c : Char} (h : isLayout c = true) (rest : List Char) :
    headLexeme c rest = .ok ⟨none, 0⟩ := by
  simp only [isLayout, Bool.or_eq_true, decide_eq_true_eq] at h
  rcases h with ((rfl | rfl) | rfl) | rfl <;> rfl

theorem headLexeme_slash (rest : List Char) :
    headLexeme '/' rest =
      .ok (if rest.head? = some '/' then ⟨none, commentLength rest⟩ else ⟨some .slash, 0⟩) := rfl

theorem headLexeme_quote (rest : List Char) :
    headLexeme '"' rest =
      if (rest.takeWhile (· ≠ '"')).length < rest.length then
        .ok ⟨some .string, (rest.takeWhile (· ≠ '"')).length + 1⟩
      else .error .unterminatedString := rfl

/-- The characters that start neither a number nor a word. -/
def reservedChars : List Char :=
  TokenKind.punctuation.map (·.1) ++ TokenKind.comparisons.map (·.1) ++
    ['/', ' ', '\r', '\t', '\n', '"']

/-- Any other character starts a number or a word, or nothing. -/
theorem headLexeme_of_not_reserved {c : Char} (h : c ∉ reservedChars) (rest : List Char) :
    headLexeme c rest =
      if isDigit c then .ok ⟨some .number, numberLength rest⟩
      else if isLetter c then
        .ok ⟨some (.ofWord (String.ofList (c :: rest.takeWhile isWordChar))),
          (rest.takeWhile isWordChar).length⟩
      else .error .unexpectedCharacter := by
  -- the character is a key of neither table
  simp only [reservedChars, List.mem_append, not_or, List.mem_map, not_exists, not_and,
    Prod.forall] at h
  obtain ⟨⟨hpunct, hcomp⟩, hrest⟩ := h
  have hp : TokenKind.punctuation.lookup c = none :=
    List.lookup_eq_none_iff.mpr fun entry hentry => by
      simpa using Ne.symm (hpunct entry.1 entry.2 hentry)
  have hc : TokenKind.comparisons.lookup c = none :=
    List.lookup_eq_none_iff.mpr fun entry hentry => by
      simpa using Ne.symm (hcomp entry.1 entry.2.1 entry.2.2 hentry)
  simp only [List.mem_cons, List.not_mem_nil, or_false, not_or] at hrest
  simp [headLexeme, hp, hc, hrest, isLayout]

theorem not_mem_reservedChars {p : Char → Bool} {c : Char}
    (hp : reservedChars.any p = false) (hc : p c = true) : c ∉ reservedChars :=
  fun h => List.any_eq_false.mp hp c h hc

theorem headLexeme_digit {c : Char} (h : isDigit c = true) (rest : List Char) :
    headLexeme c rest = .ok ⟨some .number, numberLength rest⟩ := by
  rw [headLexeme_of_not_reserved (not_mem_reservedChars (by decide) h), if_pos h]

theorem isDigit_of_isLetter {c : Char} (h : isLetter c = true) : isDigit c = false := by
  simp only [isLetter, Bool.or_eq_true, Bool.and_eq_true, decide_eq_true_eq] at h
  simp only [isDigit, Bool.and_eq_false_iff, decide_eq_false_iff_not]
  rcases h with (h | h) | rfl
  · exact .inr fun hle => absurd (Char.le_trans h.1 hle) (by decide)
  · exact .inr fun hle => absurd (Char.le_trans h.1 hle) (by decide)
  · decide

theorem headLexeme_letter {c : Char} (h : isLetter c = true) (rest : List Char) :
    headLexeme c rest =
      .ok ⟨some (.ofWord (String.ofList (c :: rest.takeWhile isWordChar))),
        (rest.takeWhile isWordChar).length⟩ := by
  rw [headLexeme_of_not_reserved (not_mem_reservedChars (by decide) h),
    if_neg (by simp [isDigit_of_isLetter h]), if_pos h]

theorem headLexeme_punctuation {entry : Char × TokenKind} (h : entry ∈ TokenKind.punctuation)
    (rest : List Char) : headLexeme entry.1 rest = .ok ⟨some entry.2, 0⟩ := by
  have hlookup : ∀ entry ∈ TokenKind.punctuation,
      TokenKind.punctuation.lookup entry.1 = some entry.2 := by decide
  rw [headLexeme, hlookup entry h]

theorem headLexeme_comparison {entry : Char × TokenKind × TokenKind}
    (h : entry ∈ TokenKind.comparisons) (rest : List Char) :
    headLexeme entry.1 rest =
      .ok (if rest.head? = some '=' then ⟨some entry.2.2, 1⟩ else ⟨some entry.2.1, 0⟩) := by
  have hnone : ∀ entry ∈ TokenKind.comparisons,
      TokenKind.punctuation.lookup entry.1 = none := by decide
  have hlookup : ∀ entry ∈ TokenKind.comparisons,
      TokenKind.comparisons.lookup entry.1 = some entry.2 := by decide
  rw [headLexeme, hnone entry h, hlookup entry h]

/-! ## Numbers at the head of a text -/

theorem length_takeWhile_le_numberLength (rest : List Char) :
    (rest.takeWhile isDigit).length ≤ numberLength rest := by
  rw [numberLength]
  split
  · split
    · rw [Nat.add_assoc]
      exact Nat.le_add_right _ _
    · exact Nat.le_refl _
  · exact Nat.le_refl _

theorem numberLength_point {whole tail : List Char} {d : Char}
    (hw : ∀ c ∈ whole, isDigit c = true) (hd : isDigit d = true) :
    numberLength (whole ++ '.' :: d :: tail) =
      whole.length + 2 + (tail.takeWhile isDigit).length := by
  have ht : (whole ++ '.' :: d :: tail).takeWhile isDigit = whole :=
    takeWhile_stop hw (by simp [isDigit])
  simp [numberLength, ht, hd]

/-- A number lies within the number at the head of a text. -/
theorem Numeral.length_le {c : Char} {tail : List Char} (h : Numeral (c :: tail))
    (more : List Char) : tail.length ≤ numberLength (tail ++ more) := by
  generalize htext : c :: tail = text at h
  cases h with
  | whole h =>
    subst htext
    have hall : ∀ d ∈ tail, isDigit d = true := (List.forall_mem_cons.mp h.2).2
    exact Nat.le_trans (length_le_takeWhile hall more) (length_takeWhile_le_numberLength _)
  | point hw hf =>
    obtain ⟨c', whole, rfl, -⟩ := hw.head
    obtain ⟨d, fraction, rfl, hd⟩ := hf.head
    obtain rfl : tail = whole ++ '.' :: d :: fraction := (List.cons.inj htext).2
    have hw := (List.forall_mem_cons.mp hw.2).2
    have hf := length_le_takeWhile (List.forall_mem_cons.mp hf.2).2 more
    rw [List.append_assoc, List.cons_append, List.cons_append, numberLength_point hw hd]
    simp only [List.length_append, List.length_cons]
    omega

theorem numberLength_le (rest : List Char) : numberLength rest ≤ rest.length := by
  have hwhole := (List.takeWhile_prefix (l := rest) isDigit).length_le
  rw [numberLength]
  split
  · next d tail hdrop =>
    have hfraction := (List.takeWhile_prefix (l := tail) isDigit).length_le
    have hlength := congrArg List.length hdrop
    simp only [List.length_drop, List.length_cons] at hlength
    split <;> omega
  · exact hwhole

/-- The number at the head of a text is a number. -/
theorem numeral_head {c : Char} (hc : isDigit c = true) (rest : List Char) :
    Numeral (c :: rest.take (numberLength rest)) := by
  have hwhole : Digits (c :: rest.takeWhile isDigit) :=
    ⟨by simp, List.forall_mem_cons.mpr ⟨hc, fun _ => List.mem_takeWhile_imp⟩⟩
  rw [numberLength]
  split
  · next d tail hdrop =>
    split
    · next hd =>
      have hfraction : Digits (d :: tail.takeWhile isDigit) :=
        ⟨by simp, List.forall_mem_cons.mpr ⟨hd, fun _ => List.mem_takeWhile_imp⟩⟩
      have htake : rest.take ((rest.takeWhile isDigit).length + 2 +
          (tail.takeWhile isDigit).length) =
          rest.takeWhile isDigit ++ '.' :: d :: tail.takeWhile isDigit := by
        rw [Nat.add_assoc, List.take_add, take_length_takeWhile, hdrop, Nat.add_comm 2,
          List.take_succ_cons, List.take_succ_cons, take_length_takeWhile]
      rw [htake]
      exact .point hwhole hfraction
    · rw [take_length_takeWhile]
      exact .whole hwhole
  · rw [take_length_takeWhile]
    exact .whole hwhole

/-! ## Lexemes at the head of a text -/

/-- The kind and the value of the token of a cut, if it makes one. -/
def Cut.content (cut : Cut) (lexeme : List Char) : Option (TokenKind × Value) :=
  cut.kind.map fun kind => (kind, kind.valueOf lexeme)

/-- The fault at a character where no lexeme stands. -/
def ScanFault.atChar (c : Char) : ScanFault :=
  if c = '"' then .unterminatedString else .unexpectedCharacter

/-- **A lexeme at the head of a text lies within the head lexeme**, and it has the content of the
head lexeme if it is as long. -/
theorem Lexical.within_head {lexeme more rest : List Char} {c : Char}
    {token : Option (TokenKind × Value)} (h : Lexical lexeme token)
    (htext : lexeme ++ more = c :: rest) :
    ∃ cut, headLexeme c rest = .ok cut ∧ lexeme.length ≤ cut.more + 1 ∧
      (lexeme.length = cut.more + 1 → token = cut.content lexeme) := by
  cases h with
  | @layout d hc =>
    obtain ⟨rfl, rfl⟩ := List.cons.inj htext
    exact ⟨_, headLexeme_layout (isLayout_iff_mem.mpr hc) _, by simp, fun _ => rfl⟩
  | @comment body hbody =>
    obtain ⟨rfl, rfl⟩ := List.cons.inj htext
    refine ⟨_, headLexeme_slash _, ?_, fun _ => rfl⟩
    have hrun : ∀ d ∈ '/' :: body, (d ≠ '\n' : Bool) = true := by simpa using hbody
    simpa [commentLength] using length_le_takeWhile hrun more
  | symbol hentry =>
    have hvalue := valueOf_symbol _ hentry
    rcases mem_symbols_cases _ hentry with ⟨key, hkey, heq⟩ | heq | ⟨key, hkey, heq | heq⟩ <;>
      obtain ⟨rfl, rfl⟩ := Prod.mk.inj heq <;> obtain ⟨rfl, rfl⟩ := List.cons.inj htext
    · exact ⟨_, headLexeme_punctuation hkey _, by simp, fun _ => by simp [Cut.content, hvalue]⟩
    · refine ⟨_, headLexeme_slash _, by simp, ?_⟩
      cases more with
      | nil => simp [Cut.content, hvalue]
      | cons d more =>
        -- a second slash makes the lexeme a comment, which is longer than one character
        by_cases hd : d = '/'
        · simp [hd, commentLength]
        · simp [hd, Cut.content, hvalue]
    · -- the character alone is longest if no equals sign follows
      refine ⟨_, headLexeme_comparison hkey _, by simp, ?_⟩
      split
      · simp
      · simp [Cut.content, hvalue]
    · refine ⟨_, headLexeme_comparison hkey _, by simp, fun _ => ?_⟩
      simp [Cut.content, hvalue]
  | number h hx =>
    obtain ⟨d, tail, rfl, hd⟩ := h.head
    obtain ⟨rfl, rfl⟩ := List.cons.inj htext
    refine ⟨_, headLexeme_digit hd _, Nat.succ_le_succ (h.length_le more), fun _ => ?_⟩
    have hx' := (read?_numeral h).symm.trans hx
    simp [Cut.content, TokenKind.valueOf, Option.some.inj hx']
  | @string body hbody =>
    obtain ⟨rfl, rfl⟩ := List.cons.inj htext
    -- the first quote behind the opening one closes the string
    have htake : ((body ++ ['"']).append more).takeWhile (· ≠ '"') = body := by
      rw [List.append_eq, List.append_assoc]
      exact takeWhile_stop (by simpa using hbody) (by simp)
    refine ⟨⟨some .string, body.length + 1⟩, ?_, by simp, fun _ => ?_⟩
    · rw [headLexeme_quote, htake, if_pos (by simp)]
    · simp [Cut.content, TokenKind.valueOf]
  | @word d tail kind hd htail hkind =>
    obtain ⟨rfl, rfl⟩ := List.cons.inj htext
    refine ⟨_, headLexeme_letter hd _, Nat.succ_le_succ (length_le_takeWhile htail more), ?_⟩
    intro hlength
    -- a word of the same length is the whole run of word characters
    have htake : (tail.append more).takeWhile isWordChar = tail := by
      rw [List.append_eq, List.takeWhile_append_of_pos htail] at hlength ⊢
      simpa using hlength
    simp only [Cut.content, htake, ofWord_eq_iff.mpr hkind, Option.map_some, hkind.valueOf]

/-- A reserved character is a key of one of the tables, a slash, layout, or a quote. -/
theorem reservedChars_cases {c : Char} (h : c ∈ reservedChars) :
    (∃ entry ∈ TokenKind.punctuation, entry.1 = c) ∨
      (∃ entry ∈ TokenKind.comparisons, entry.1 = c) ∨ c = '/' ∨ isLayout c = true ∨ c = '"' := by
  simp only [reservedChars, List.mem_append, List.mem_map, List.mem_cons, List.not_mem_nil,
    or_false] at h
  rcases h with (hpunct | hcomp) | rfl | rfl | rfl | rfl | rfl | rfl
  · exact .inl hpunct
  · exact .inr (.inl hcomp)
  · exact .inr (.inr (.inl rfl))
  all_goals decide

/-- A symbol belongs to its class, with the content of a cut. -/
theorem lexical_symbol {lexeme : List Char} {kind : TokenKind} (h : (lexeme, kind) ∈ symbols)
    (more : Nat) : Lexical lexeme ((Cut.mk (some kind) more).content lexeme) := by
  have hlexical : Lexical lexeme (some (kind, .nil)) := .symbol h
  rwa [← valueOf_symbol _ h] at hlexical

/-- A comment runs up to the next LF. -/
theorem lexical_comment (rest : List Char) :
    Lexical ('/' :: ('/' :: rest).take (commentLength ('/' :: rest))) none := by
  have hlength : commentLength ('/' :: rest) = (rest.takeWhile (· ≠ '\n')).length + 1 := by
    simp [commentLength]
  rw [hlength, List.take_succ_cons, take_length_takeWhile]
  exact .comment fun d hd => by simpa using List.mem_takeWhile_imp hd

/-- The text up to the next quote, and the quote. -/
theorem take_string {rest : List Char} (h : (rest.takeWhile (· ≠ '"')).length < rest.length) :
    rest.take ((rest.takeWhile (· ≠ '"')).length + 1) = rest.takeWhile (· ≠ '"') ++ ['"'] := by
  have hsplit := List.takeWhile_append_dropWhile (p := (· ≠ '"')) (l := rest)
  cases hdrop : rest.dropWhile (· ≠ '"') with
  | nil =>
    rw [hdrop, List.append_nil] at hsplit
    exact absurd h (by rw [hsplit]; exact Nat.lt_irrefl _)
  | cons d tail =>
    have hd : d = '"' := by
      have hstop := List.head?_dropWhile_not (· ≠ '"') rest
      rw [hdrop] at hstop
      simpa using hstop
    rw [hdrop, hd] at hsplit
    calc rest.take ((rest.takeWhile (· ≠ '"')).length + 1)
        = (rest.takeWhile (· ≠ '"') ++ '"' :: tail).take
            ((rest.takeWhile (· ≠ '"')).length + 1) := congrArg _ hsplit.symm
      _ = rest.takeWhile (· ≠ '"') ++ ['"'] := by rw [List.take_length_add_append]; rfl

/-- A string runs up to the next quote. -/
theorem lexical_string {rest : List Char} (h : (rest.takeWhile (· ≠ '"')).length < rest.length) :
    let more := (rest.takeWhile (· ≠ '"')).length + 1
    Lexical ('"' :: rest.take more)
      ((Cut.mk (some .string) more).content ('"' :: rest.take more)) := by
  have hlexical : Lexical ('"' :: (rest.takeWhile (· ≠ '"') ++ ['"'])) _ :=
    .string fun d hd => by simpa using List.mem_takeWhile_imp hd
  simp only [take_string h]
  simpa [Cut.content, TokenKind.valueOf] using hlexical

/-- The head lexeme belongs to a lexical class, and to the text. -/
theorem lexical_of_headLexeme {c : Char} {rest : List Char} {cut : Cut}
    (h : headLexeme c rest = .ok cut) :
    cut.more ≤ rest.length ∧
      Lexical (c :: rest.take cut.more) (cut.content (c :: rest.take cut.more)) := by
  have hpunct : ∀ entry ∈ TokenKind.punctuation, ([entry.1], entry.2) ∈ symbols := by decide
  have hcomp : ∀ entry ∈ TokenKind.comparisons,
      ([entry.1], entry.2.1) ∈ symbols ∧ ([entry.1, '='], entry.2.2) ∈ symbols := by decide
  -- by the first character, as the head lexeme is computed
  by_cases hc : c ∈ reservedChars
  · rcases reservedChars_cases hc with ⟨entry, hmem, rfl⟩ | ⟨entry, hmem, rfl⟩ | rfl | hl | rfl
    · rw [headLexeme_punctuation hmem] at h
      obtain rfl := Except.ok.inj h
      exact ⟨Nat.zero_le _, lexical_symbol (hpunct _ hmem) 0⟩
    · rw [headLexeme_comparison hmem] at h
      obtain rfl := Except.ok.inj h
      split
      · next hhead =>
        obtain ⟨tail, rfl⟩ := List.head?_eq_some_iff.mp hhead
        exact ⟨by simp, lexical_symbol (hcomp _ hmem).2 1⟩
      · exact ⟨Nat.zero_le _, lexical_symbol (hcomp _ hmem).1 0⟩
    · rw [headLexeme_slash] at h
      obtain rfl := Except.ok.inj h
      split
      · next hhead =>
        obtain ⟨tail, rfl⟩ := List.head?_eq_some_iff.mp hhead
        exact ⟨(List.takeWhile_prefix _).length_le, lexical_comment tail⟩
      · have hslash : (['/'], TokenKind.slash) ∈ symbols := by decide
        exact ⟨Nat.zero_le _, lexical_symbol hslash 0⟩
    · rw [headLexeme_layout hl] at h
      obtain rfl := Except.ok.inj h
      exact ⟨Nat.zero_le _, .layout (isLayout_iff_mem.mp hl)⟩
    · rw [headLexeme_quote] at h
      split at h
      · next hlt =>
        obtain rfl := Except.ok.inj h
        exact ⟨hlt, lexical_string hlt⟩
      · cases h
  · rw [headLexeme_of_not_reserved hc] at h
    split at h
    · next hd =>
      obtain rfl := Except.ok.inj h
      have hnumeral := numeral_head hd rest
      exact ⟨numberLength_le rest, .number hnumeral (read?_numeral hnumeral)⟩
    · split at h
      · next hl =>
        obtain rfl := Except.ok.inj h
        refine ⟨(List.takeWhile_prefix _).length_le, ?_⟩
        have hkind : IsKindOfWord (String.ofList (c :: rest.takeWhile isWordChar)) _ :=
          ofWord_eq_iff.mp rfl
        have hword := Lexical.word hl (fun d => List.mem_takeWhile_imp) hkind
        simp only [Cut.content, Option.map_some, take_length_takeWhile, hkind.valueOf]
        exact hword
      · cases h

/-- Where there is no head lexeme, the fault is by the character. -/
theorem fault_of_headLexeme {c : Char} {rest : List Char} {fault : ScanFault}
    (h : headLexeme c rest = .error fault) : fault = .atChar c := by
  by_cases hc : c ∈ reservedChars
  · rcases reservedChars_cases hc with ⟨entry, hmem, rfl⟩ | ⟨entry, hmem, rfl⟩ | rfl | hl | rfl
    · rw [headLexeme_punctuation hmem] at h; cases h
    · rw [headLexeme_comparison hmem] at h; cases h
    · rw [headLexeme_slash] at h; cases h
    · rw [headLexeme_layout hl] at h; cases h
    · rw [headLexeme_quote] at h
      split at h <;> cases h
      rfl
  · have hquote : c ≠ '"' := by rintro rfl; exact hc (by decide)
    rw [headLexeme_of_not_reserved hc] at h
    split at h
    · cases h
    · split at h <;> cases h
      rw [ScanFault.atChar, if_neg hquote]

/-- **The head lexeme is the longest lexeme.** -/
theorem longest_of_headLexeme {c : Char} {rest : List Char} {cut : Cut}
    (h : headLexeme c rest = .ok cut) :
    Longest (c :: rest) (c :: rest.take cut.more) (cut.content (c :: rest.take cut.more)) where
  lexical := (lexical_of_headLexeme h).2
  heads := List.cons_prefix_cons.mpr ⟨rfl, List.take_prefix _ _⟩
  longest := by
    rintro other token hother ⟨more, htext⟩
    obtain ⟨cut', hcut, hlength, -⟩ := hother.within_head htext
    obtain rfl := Except.ok.inj (h.symm.trans hcut)
    rw [List.length_cons, List.length_take_of_le (lexical_of_headLexeme h).1]
    exact hlength

/-- **A text has no other longest lexeme**, nor one with another content. -/
theorem Longest.eq_headLexeme {c : Char} {rest lexeme : List Char}
    {token : Option (TokenKind × Value)} (h : Longest (c :: rest) lexeme token) :
    ∃ cut, headLexeme c rest = .ok cut ∧ lexeme = c :: rest.take cut.more ∧
      token = cut.content lexeme := by
  obtain ⟨more, htext⟩ := h.heads
  obtain ⟨cut, hcut, hle, hcontent⟩ := h.lexical.within_head htext
  have hhead := longest_of_headLexeme hcut
  -- both are longest, so they have one length, and prefixes of one length are equal
  have hlength : (c :: rest.take cut.more).length = cut.more + 1 := by
    rw [List.length_cons, List.length_take_of_le (lexical_of_headLexeme hcut).1]
  have heq : lexeme.length = cut.more + 1 :=
    Nat.le_antisymm hle (hlength ▸ h.longest _ _ hhead.lexical hhead.heads)
  refine ⟨cut, hcut, ?_, hcontent heq⟩
  exact (List.prefix_of_prefix_length_le h.heads hhead.heads
    (Nat.le_of_eq (heq.trans hlength.symm))).eq_of_length (heq.trans hlength.symm)

/-- **No lexeme stands where the head lexeme is missing**, and the fault is by the character. -/
theorem headLexeme_eq_error_iff {c : Char} {rest : List Char} {fault : ScanFault} :
    headLexeme c rest = .error fault ↔ NoLexeme (c :: rest) ∧ fault = .atChar c := by
  constructor
  · intro h
    refine ⟨?_, fault_of_headLexeme h⟩
    rintro lexeme token hlexical ⟨more, htext⟩
    obtain ⟨cut, hcut, -⟩ := hlexical.within_head htext
    cases h.symm.trans hcut
  · rintro ⟨hnone, rfl⟩
    cases h : headLexeme c rest with
    | error fault => rw [fault_of_headLexeme h]
    | ok cut =>
      have hhead := longest_of_headLexeme h
      exact absurd hhead.heads (hnone _ _ hhead.lexical)

end Lox
