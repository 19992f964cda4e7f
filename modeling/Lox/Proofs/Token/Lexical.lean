import Lox.Token.Lexeme
import Mathlib.Data.List.TakeWhile

/-!
# The lexical grammar

The lexical classes as predicates on texts, apart from the function that cuts a lexeme off. A
class says which texts belong to it, and which kind and value their tokens have. It does not say
where a lexeme ends: that is the longest prefix of the text that belongs to some class.

## Main definitions

* `Numeral`, `IsKindOfWord`, `symbols`: the shapes of numbers, words and symbols
* `Lexical`: a text of a lexical class, with the kind and the value of its token
* `Longest`: the longest prefix of a text that belongs to a class
* `NoLexeme`: no prefix of a text belongs to a class

## Main results

* `read?_numeral`: the general decimal reader reads numbers as the plain one does
* `ofWord_eq_iff`: the kind of a word is that of its keyword, or else an identifier
-/

namespace Lox

/-! ## Lexical classes -/

/-- A run of ASCII digits. -/
def Digits (text : List Char) : Prop :=
  text ≠ [] ∧ ∀ c ∈ text, isDigit c = true

/-- Digits, which a point and further digits may follow. -/
inductive Numeral : List Char → Prop
  | whole {digits} : Digits digits → Numeral digits
  | point {whole fraction} : Digits whole → Digits fraction → Numeral (whole ++ '.' :: fraction)

/-- The punctuators and operators with their kinds. -/
def symbols : List (List Char × TokenKind) :=
  [(['('], .leftParen), ([')'], .rightParen), (['\x7b'], .leftBrace), (['\x7d'], .rightBrace),
    ([','], .comma), (['.'], .dot), (['-'], .minus), (['+'], .plus), ([';'], .semicolon),
    (['*'], .star), (['/'], .slash), (['!'], .bang), (['='], .equal), (['<'], .less),
    (['>'], .greater), (['!', '='], .bangEqual), (['=', '='], .equalEqual),
    (['<', '='], .lessEqual), (['>', '='], .greaterEqual)]

/-- A reserved word has the kind of its keyword, any other word is an identifier. -/
def IsKindOfWord (word : String) (kind : TokenKind) : Prop :=
  (word, kind) ∈ TokenKind.keywords ∨
    kind = .identifier ∧ ∀ keyword, (word, keyword) ∉ TokenKind.keywords

/-- **The lexical grammar**: `Lexical lexeme token` says that the text `lexeme` belongs to a lexical
class, and that `token` is the kind and the value of its token, or that it has none. -/
inductive Lexical : List Char → Option (TokenKind × Value) → Prop
  | layout {c} : c ∈ [' ', '\t', '\r', '\n'] → Lexical [c] none
  | comment {body} : (∀ c ∈ body, c ≠ '\n') → Lexical ('/' :: '/' :: body) none
  | symbol {lexeme kind} : (lexeme, kind) ∈ symbols → Lexical lexeme (some (kind, .nil))
  | number {lexeme x} : Numeral lexeme → Decimal.read? (String.ofList lexeme) = some x →
      Lexical lexeme (some (.number, .number x))
  | string {body} : (∀ c ∈ body, c ≠ '"') →
      Lexical ('"' :: (body ++ ['"'])) (some (.string, .text (String.ofList body)))
  | word {c tail kind} : isLetter c = true → (∀ d ∈ tail, isWordChar d = true) →
      IsKindOfWord (String.ofList (c :: tail)) kind → Lexical (c :: tail) (some (kind, .nil))

/-- The lexeme is the longest prefix of the text that belongs to a lexical class. -/
structure Longest (text lexeme : List Char) (token : Option (TokenKind × Value)) : Prop where
  lexical : Lexical lexeme token
  heads : lexeme <+: text
  longest : ∀ other token', Lexical other token' → other <+: text → other.length ≤ lexeme.length

/-- No prefix of the text belongs to a lexical class. -/
def NoLexeme (text : List Char) : Prop :=
  ∀ lexeme token, Lexical lexeme token → ¬ lexeme <+: text

/-- The layout characters are those of the lexical grammar. -/
theorem isLayout_iff_mem {c : Char} : isLayout c = true ↔ c ∈ [' ', '\t', '\r', '\n'] := by
  simp only [isLayout, Bool.or_eq_true, decide_eq_true_eq, List.mem_cons, List.not_mem_nil,
    or_false]
  constructor
  · rintro (((h | h) | h) | h) <;> simp [h]
  · rintro (h | h | h | h) <;> simp [h]

/-! ## Runs of characters -/

/-- A run ends where its characters do. -/
theorem takeWhile_stop {p : Char → Bool} {run rest : List Char} (hrun : ∀ c ∈ run, p c = true)
    (hrest : ∀ c ∈ rest.head?, p c = false) : (run ++ rest).takeWhile p = run := by
  rw [List.takeWhile_append_of_pos hrun]
  cases rest with
  | nil => simp
  | cons c rest => rw [List.takeWhile_cons_of_neg (by simp [hrest c rfl]), List.append_nil]

theorem dropWhile_stop {p : Char → Bool} {run rest : List Char} (hrun : ∀ c ∈ run, p c = true)
    (hrest : ∀ c ∈ rest.head?, p c = false) : (run ++ rest).dropWhile p = rest := by
  rw [List.dropWhile_append_of_pos hrun]
  cases rest with
  | nil => rfl
  | cons c rest => rw [List.dropWhile_cons_of_neg (by simp [hrest c rfl])]

/-- A run lies within the longest run. -/
theorem length_le_takeWhile {p : Char → Bool} {run : List Char} (hrun : ∀ c ∈ run, p c = true)
    (rest : List Char) : run.length ≤ ((run ++ rest).takeWhile p).length := by
  rw [List.takeWhile_append_of_pos hrun, List.length_append]
  exact Nat.le_add_right _ _

/-- The longest run is a prefix, cut off by its length. -/
theorem take_length_takeWhile (p : Char → Bool) (text : List Char) :
    text.take (text.takeWhile p).length = text.takeWhile p :=
  (List.prefix_iff_eq_take.mp (List.takeWhile_prefix p)).symm

/-! ## Numbers -/

theorem isDigit_eq : Char.isDigit = isDigit := by
  funext c
  simp [Char.isDigit, isDigit, Char.le_def]

theorem Digits.head {text : List Char} (h : Digits text) :
    ∃ c tail, text = c :: tail ∧ isDigit c = true := by
  obtain ⟨hne, hall⟩ := h
  obtain ⟨c, tail, rfl⟩ := List.exists_cons_of_ne_nil hne
  exact ⟨c, tail, rfl, hall c List.mem_cons_self⟩

/-- A number starts with a digit. -/
theorem Numeral.head {text : List Char} (h : Numeral text) :
    ∃ c tail, text = c :: tail ∧ isDigit c = true := by
  cases h with
  | whole h => exact h.head
  | point h _ =>
    obtain ⟨c, tail, rfl, hc⟩ := h.head
    exact ⟨c, _, rfl, hc⟩

theorem boundExponent_zero (size : Nat) : Decimal.boundExponent size 0 = 0 := by
  simp only [Decimal.boundExponent]
  omega

/-- A text that starts with a digit is read as an unsigned decimal. -/
theorem read?_of_digit {c : Char} {tail : List Char} (hc : isDigit c = true) :
    Decimal.read? (String.ofList (c :: tail)) = Decimal.readUnsigned? (c :: tail) := by
  -- neither a sign nor the first letter of a special value
  have hne {d : Char} (hd : isDigit d = false) : c ≠ d := by
    rintro rfl
    exact absurd hc (by simp [hd])
  have hm : c ≠ '-' := hne rfl
  have hp : c ≠ '+' := hne rfl
  have hi : c ≠ 'i' := hne rfl
  have hn : c ≠ 'n' := hne rfl
  simp [Decimal.read?, hm, hp, hi, hn]

/-- **The general decimal reader reads a number as the plain reader does.** -/
theorem read?_numeral {text : List Char} (h : Numeral text) :
    Decimal.read? (String.ofList text) = some (Decimal.readPlain text) := by
  obtain ⟨c, tail, rfl, hc⟩ := h.head
  rw [read?_of_digit hc]
  generalize c :: tail = text at h
  have htake {digits : List Char} (h : Digits digits) : digits.takeWhile isDigit = digits :=
    List.takeWhile_eq_self_iff.mpr h.2
  have hdrop {digits : List Char} (h : Digits digits) : digits.dropWhile isDigit = [] :=
    List.dropWhile_eq_nil_iff.mpr h.2
  cases h with
  | whole h =>
    simp [Decimal.readUnsigned?, Decimal.readPlain, isDigit_eq, htake h, hdrop h, h.1,
      Decimal.readExponent?, boundExponent_zero]
  | @point whole fraction hw hf =>
    have ht : (whole ++ '.' :: fraction).takeWhile isDigit = whole :=
      takeWhile_stop hw.2 (by simp [isDigit])
    have hd : (whole ++ '.' :: fraction).dropWhile isDigit = '.' :: fraction :=
      dropWhile_stop hw.2 (by simp [isDigit])
    simp [Decimal.readUnsigned?, Decimal.readPlain, isDigit_eq, ht, hd, hw.1, htake hf, hdrop hf,
      Decimal.readExponent?, boundExponent_zero]

/-! ## Words and symbols -/

/-- The tables give the kind of a word. -/
theorem ofWord_eq_iff {word : String} {kind : TokenKind} :
    TokenKind.ofWord word = kind ↔ IsKindOfWord word kind := by
  have hunique : ∀ entry ∈ TokenKind.keywords,
      TokenKind.keywords.lookup entry.1 = some entry.2 := by decide
  rw [TokenKind.ofWord, IsKindOfWord]
  cases hlookup : TokenKind.keywords.lookup word with
  | none =>
    have hnone (keyword : TokenKind) : (word, keyword) ∉ TokenKind.keywords := fun hmem => by
      simpa using List.lookup_eq_none_iff.mp hlookup _ hmem
    simp [hnone, eq_comm]
  | some keyword =>
    have hmem : (word, keyword) ∈ TokenKind.keywords := by
      obtain ⟨before, after, heq, -⟩ := List.lookup_eq_some_iff.mp hlookup
      rw [heq]
      simp
    constructor
    · rintro rfl
      exact .inl hmem
    · rintro (h | ⟨-, h⟩)
      · exact Option.some.inj (hlookup.symm.trans (hunique _ h))
      · exact absurd hmem (h keyword)

/-- Only strings and numbers have a value. -/
theorem valueOf_eq_nil {kind : TokenKind} (hs : kind ≠ .string) (hn : kind ≠ .number)
    (lexeme : List Char) : kind.valueOf lexeme = .nil := by
  unfold TokenKind.valueOf
  split
  · exact absurd rfl hs
  · exact absurd rfl hn
  · rfl

theorem valueOf_symbol : ∀ entry ∈ symbols, entry.2.valueOf entry.1 = .nil := by
  have hkind : ∀ entry ∈ symbols, entry.2 ≠ .string ∧ entry.2 ≠ .number := by decide
  exact fun entry hentry => valueOf_eq_nil (hkind entry hentry).1 (hkind entry hentry).2 _

theorem IsKindOfWord.valueOf {word : String} {kind : TokenKind} (h : IsKindOfWord word kind)
    (lexeme : List Char) : kind.valueOf lexeme = .nil := by
  have hkind : ∀ entry ∈ TokenKind.keywords, entry.2 ≠ .string ∧ entry.2 ≠ .number := by decide
  rcases h with h | ⟨rfl, -⟩
  · exact valueOf_eq_nil (hkind _ h).1 (hkind _ h).2 _
  · rfl

/-- Symbols are the characters of the two tables, alone or before an equals sign, and the slash. -/
theorem mem_symbols_cases : ∀ entry ∈ symbols,
    (∃ key ∈ TokenKind.punctuation, entry = ([key.1], key.2)) ∨ entry = (['/'], .slash) ∨
      ∃ key ∈ TokenKind.comparisons,
        entry = ([key.1], key.2.1) ∨ entry = ([key.1, '='], key.2.2) := by
  decide

end Lox
