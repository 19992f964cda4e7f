import Lox.Proofs.Token.Layout

/-!
# Lexemes next to each other

What a lexeme needs of the text behind it to be the longest one there. The lexeme of a token ends
where a delimiter follows, and a symbol of one character already where no equals sign follows.

## Main definitions

* `IsDelimited`: the texts that are empty or start with a delimiter

## Main results

* `Lexical.longest`: the lexeme of a token is longest before a delimiter
* `longest_mark`: a symbol of one character is longest before anything but an equals sign
-/

namespace Lox

/-- **The text starts with a delimiter**, or it is empty: no lexeme of a token goes on with its
first character, nor becomes a comment by it. -/
def IsDelimited (text : List Char) : Prop :=
  ∀ c ∈ text.head?, IsStop c ∧ c ≠ '/'

theorem isDelimited_nil : IsDelimited [] := by
  intro c hc
  cases hc

theorem isDelimited_cons {c : Char} (h : c ∈ [' ', ')']) (text : List Char) :
    IsDelimited (c :: text) := by
  intro d hd
  obtain rfl : c = d := Option.some.inj hd
  have hcases : c = ' ' ∨ c = ')' := by simpa using h
  rcases hcases with rfl | rfl <;> exact ⟨⟨by decide, by decide, by decide⟩, by decide⟩

/-- The lexeme of a token is not a comment. -/
theorem Lexical.not_isComment {lexeme : List Char} {token : TokenKind × Value}
    (h : Lexical lexeme (some token)) : ¬ IsComment lexeme := by
  rintro ⟨body, -, rfl⟩
  have hsymbols : ∀ entry ∈ symbols, entry.1.take 2 ≠ ['/', '/'] := by decide
  -- two slashes start neither a symbol, a number, a string nor a word
  generalize hcontent : some token = content at h
  generalize htext : '/' :: '/' :: body = text at h
  cases h with
  | layout | comment => cases hcontent
  | symbol hentry =>
    subst htext
    exact hsymbols _ hentry rfl
  | number hnumeral =>
    obtain ⟨c, tail, rfl, hc⟩ := hnumeral.head
    obtain ⟨rfl, -⟩ := List.cons.inj htext
    exact absurd hc (by decide)
  | string => exact absurd (List.cons.inj htext).1 (by decide)
  | word hc =>
    obtain ⟨rfl, -⟩ := List.cons.inj htext
    exact absurd hc (by decide)

/-- What begins with a lexeme of a token and goes on to a delimiter is no lexeme. -/
theorem Lexical.not_lexical_append {lexeme more : List Char} {token : TokenKind × Value}
    {content : Option (TokenKind × Value)} {c : Char} (h : Lexical lexeme (some token))
    (hc : IsStop c ∧ c ≠ '/') : ¬ Lexical (lexeme ++ c :: more) content := by
  intro hlonger
  obtain ⟨d, tail, rfl⟩ := List.exists_cons_of_ne_nil h.ne_nil
  -- the delimiter stands behind the first character, where only strings and comments have one
  have hmem : c ∈ (d :: tail ++ c :: more).tail := by simp
  rcases hlonger.reaches_past hmem hc.1 with hstring | hcomment
  · have hle := hstring.length_le h (List.prefix_append _ _)
    simp only [List.length_append, List.length_cons] at hle
    omega
  · -- two characters of a comment are a comment, and so the delimiter is its second slash
    rcases List.eq_nil_or_concat tail with rfl | ⟨tail, e, rfl⟩
    · obtain ⟨body, -, heq⟩ := hcomment
      exact hc.2 (List.cons.inj (List.cons.inj heq).2).1
    · exact h.not_isComment (hcomment.of_prefix (List.prefix_append _ _) (by simp))

/-- **The lexeme of a token is longest before a delimiter.** -/
theorem Lexical.longest {lexeme rest : List Char} {token : TokenKind × Value}
    (h : Lexical lexeme (some token)) (hrest : IsDelimited rest) :
    Longest (lexeme ++ rest) lexeme (some token) where
  lexical := h
  heads := List.prefix_append _ _
  longest := by
    intro other content hother hheads
    apply Nat.le_of_not_lt
    intro hlt
    -- a longer lexeme goes on to the delimiter
    obtain ⟨more, rfl⟩ :=
      List.prefix_of_prefix_length_le (List.prefix_append _ _) hheads (Nat.le_of_lt hlt)
    rw [List.prefix_append_right_inj] at hheads
    cases more with
    | nil => simp at hlt
    | cons c more =>
      obtain ⟨behind, rfl⟩ := hheads
      exact h.not_lexical_append (hrest c rfl) hother

/-- **A symbol of one character is longest** before any text that does not start with an equals
sign, the slash apart. -/
theorem longest_mark {c : Char} {kind : TokenKind} {rest : List Char}
    (h : ([c], kind) ∈ symbols) (hc : c ≠ '/') (hrest : rest.head? ≠ some '=') :
    Longest ([c] ++ rest) [c] (some (kind, .nil)) := by
  have hcut : headLexeme c rest = .ok ⟨some kind, 0⟩ := by
    -- a comparison asks for an equals sign behind it, and a punctuator for nothing
    rcases mem_symbols_cases _ h with ⟨key, hkey, heq⟩ | heq | ⟨key, hkey, heq | heq⟩
    · obtain ⟨hkeyChar, rfl⟩ := Prod.mk.inj heq
      obtain rfl := List.singleton_inj.mp hkeyChar
      exact headLexeme_punctuation hkey rest
    · exact absurd (List.singleton_inj.mp (Prod.mk.inj heq).1) hc
    · obtain ⟨hkeyChar, rfl⟩ := Prod.mk.inj heq
      obtain rfl := List.singleton_inj.mp hkeyChar
      rw [headLexeme_comparison hkey, if_neg hrest]
    · cases (Prod.mk.inj heq).1
  have hvalue : kind.valueOf [c] = .nil := valueOf_symbol _ h
  have hlongest := longest_of_headLexeme hcut
  rw [Cut.content, List.take_zero, Option.map_some, hvalue] at hlongest
  exact hlongest

end Lox
