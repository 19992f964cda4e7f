import Lox.Proofs.Token.Munch

/-!
# Layout between lexemes

Layout is white space and comments that end in LF. Between two lexemes it can be inserted without
an effect on the tokens, if it starts with white space: the lexemes before it stay the longest
ones, the layout is munched into pieces without a token, and the scan goes on as it did. Only a
comment reaches into the layout behind it, up to the first LF.

## Main definitions

* `IsComment`: the texts of comments
* `IsStop`: the characters behind a number, a word or a symbol
* `Layout`: white space and comments that end in LF

## Main results

* `Lexical.reaches_past`: only strings and comments go on behind a stop character
* `Munch.replace`: the pieces before layout stay the same
* `exists_munch_insert`: inserted layout changes no token
-/

namespace Lox

/-! ## Comments and strings -/

/-- Two slashes and characters other than LF. -/
def IsComment (text : List Char) : Prop :=
  ∃ body, (∀ c ∈ body, c ≠ '\n') ∧ text = '/' :: '/' :: body

theorem IsComment.lexical {text : List Char} (h : IsComment text) : Lexical text none := by
  obtain ⟨body, hbody, rfl⟩ := h
  exact .comment hbody

/-- What begins a comment with at least two characters is a comment. -/
theorem IsComment.of_prefix {text first : List Char} (h : IsComment text) (hp : first <+: text)
    (hlength : 2 ≤ first.length) : IsComment first := by
  obtain ⟨body, hbody, rfl⟩ := h
  obtain ⟨c, d, start, rfl⟩ : ∃ c d start, first = c :: d :: start := by
    match first, hlength with
    | c :: d :: start, _ => exact ⟨c, d, start, rfl⟩
  rw [List.cons_prefix_cons, List.cons_prefix_cons] at hp
  obtain ⟨rfl, rfl, hp⟩ := hp
  exact ⟨start, fun c hc => hbody c (hp.subset hc), rfl⟩

theorem IsComment.append {text more : List Char} (h : IsComment text)
    (hmore : ∀ c ∈ more, c ≠ '\n') : IsComment (text ++ more) := by
  obtain ⟨body, hbody, rfl⟩ := h
  refine ⟨body ++ more, ?_, rfl⟩
  intro c hc
  rcases List.mem_append.mp hc with hc | hc
  · exact hbody c hc
  · exact hmore c hc

/-- Characters other than quotes between two quotes. -/
def IsString (text : List Char) : Prop :=
  ∃ body, (∀ c ∈ body, c ≠ '"') ∧ text = '"' :: (body ++ ['"'])

/-- A lexeme that starts with neither a layout character, a digit nor a letter is a symbol, a
comment or a string. -/
theorem Lexical.of_mark {c : Char} {tail : List Char} {token : Option (TokenKind × Value)}
    (h : Lexical (c :: tail) token)
    (hc : isLayout c = false ∧ isDigit c = false ∧ isLetter c = false) :
    (∃ entry ∈ symbols, entry.1 = c :: tail) ∨ IsComment (c :: tail) ∨ IsString (c :: tail) := by
  generalize htext : c :: tail = text at h
  obtain ⟨hlayout, hdigit, hletter⟩ := hc
  cases h with
  | layout hmem =>
    obtain ⟨rfl, -⟩ := List.cons.inj htext
    simp [isLayout_iff_mem.mpr hmem] at hlayout
  | comment hbody => exact .inr (.inl ⟨_, hbody, rfl⟩)
  | symbol hentry => exact .inl ⟨_, hentry, rfl⟩
  | number h =>
    obtain ⟨d, rest, rfl, hd⟩ := h.head
    obtain ⟨rfl, -⟩ := List.cons.inj htext
    simp [hdigit] at hd
  | string hbody => exact .inr (.inr ⟨_, hbody, rfl⟩)
  | word hd =>
    obtain ⟨rfl, -⟩ := List.cons.inj htext
    simp [hletter] at hd

/-- A lexeme with a quote in front is a string. -/
theorem Lexical.of_quote {tail : List Char} {token : Option (TokenKind × Value)}
    (h : Lexical ('"' :: tail) token) : IsString ('"' :: tail) := by
  have hsymbols : ∀ entry ∈ symbols, entry.1.head? ≠ some '"' := by decide
  rcases h.of_mark (by decide) with ⟨entry, hentry, heq⟩ | ⟨body, -, heq⟩ | hstring
  · exact absurd (by rw [heq]; rfl) (hsymbols entry hentry)
  · exact absurd (List.cons.inj heq).1 (by decide)
  · exact hstring

/-- Strings do not go on behind their closing quotes. -/
theorem IsString.length_le {first lexeme : List Char} {token : Option (TokenKind × Value)}
    (h : IsString lexeme) (hfirst : Lexical first token) (hp : first <+: lexeme) :
    lexeme.length ≤ first.length := by
  obtain ⟨more, rfl⟩ := hp
  obtain ⟨body, hbody, htext⟩ := h
  obtain ⟨c, tail, rfl⟩ := List.exists_cons_of_ne_nil hfirst.ne_nil
  obtain ⟨rfl, htail⟩ := List.cons.inj htext
  obtain ⟨start, -, hstart⟩ := hfirst.of_quote
  obtain rfl := (List.cons.inj hstart).2
  rcases List.eq_nil_or_concat more with rfl | ⟨more, d, rfl⟩
  · simp
  · have hlast : (start ++ ['"'] ++ more) ++ [d] = body ++ ['"'] := by
      simpa using htail
    obtain ⟨rfl, -⟩ := List.append_inj' hlast rfl
    exact absurd rfl (hbody '"' (by simp))

/-- The characters with which neither a number, a word nor a symbol goes on. -/
def IsStop (c : Char) : Prop :=
  isWordChar c = false ∧ c ≠ '.' ∧ c ≠ '='

theorem isStop_of_layout {c : Char} (h : isLayout c = true ∨ c = '/') : IsStop c := by
  simp only [isLayout, Bool.or_eq_true, decide_eq_true_eq] at h
  rcases h with (((rfl | rfl) | rfl) | rfl) | rfl <;> exact ⟨by decide, by decide, by decide⟩

/-- Strings and comments apart, no lexeme has such a character behind its first one. -/
theorem Lexical.reaches_past {lexeme : List Char} {token : Option (TokenKind × Value)} {c : Char}
    (h : Lexical lexeme token) (hc : c ∈ lexeme.tail) (hstop : IsStop c) :
    IsString lexeme ∨ IsComment lexeme := by
  obtain ⟨hword, hpoint⟩ := hstop
  have hsymbols : ∀ entry ∈ symbols, entry.1.tail = [] ∨ entry.1.tail = ['='] := by decide
  have hdigit : isDigit c = false := by
    simp only [isWordChar, Bool.or_eq_false_iff] at hword
    exact hword.2
  cases h with
  | layout => simp at hc
  | comment hbody => exact .inr ⟨_, hbody, rfl⟩
  | symbol hentry =>
    rcases hsymbols _ hentry with htail | htail
    · simp [htail] at hc
    · exact absurd (by simpa [htail] using hc) hpoint.2
  | number hnumeral =>
    refine absurd (List.mem_of_mem_tail hc) (fun hmem => ?_)
    cases hnumeral with
    | whole hdigits => simp [hdigits.2 c hmem] at hdigit
    | point hwhole hfraction =>
      rcases List.mem_append.mp hmem with hmem | hmem
      · simp [hwhole.2 c hmem] at hdigit
      · rcases List.mem_cons.mp hmem with rfl | hmem
        · exact hpoint.1 rfl
        · simp [hfraction.2 c hmem] at hdigit
  | string hbody => exact .inl ⟨_, hbody, rfl⟩
  | word _ htail => exact absurd (htail c hc) (by simp [hword])

/-! ## Longest lexemes before other text -/

/-- No comment starts at a longest lexeme and goes on behind it. -/
theorem Longest.not_isComment {lexeme more rest : List Char} {token : Option (TokenKind × Value)}
    (h : Longest (lexeme ++ rest) lexeme token) (hp : more <+: rest) (hne : more ≠ []) :
    ¬ IsComment (lexeme ++ more) := by
  intro hcomment
  have hle := h.longest _ _ hcomment.lexical ((List.prefix_append_right_inj lexeme).mpr hp)
  have hpos := List.length_pos_iff.mpr hne
  rw [List.length_append] at hle
  omega

/-- No comment starts at a longest lexeme and goes on to a layout character, unless the lexeme is
that comment. -/
theorem Longest.not_isComment_layout {lexeme between behind : List Char}
    {token : Option (TokenKind × Value)} {c : Char}
    (h : Longest (lexeme ++ (between ++ behind)) lexeme token) (hc : isLayout c = true)
    (hlast : between = [] → ¬ IsComment lexeme) : ¬ IsComment (lexeme ++ (between ++ [c])) := by
  intro hcomment
  obtain ⟨d, tail, rfl⟩ := List.exists_cons_of_ne_nil h.lexical.ne_nil
  by_cases hb : between = []
  · subst hb
    rcases List.eq_nil_or_concat tail with rfl | ⟨tail, e, rfl⟩
    · obtain ⟨body, -, heq⟩ := hcomment
      obtain rfl : c = '/' := by simpa using (List.cons.inj (List.cons.inj heq).2).1
      exact absurd hc (by decide)
    · exact hlast rfl (hcomment.of_prefix (List.prefix_append _ _) (by simp))
  · refine h.not_isComment (List.prefix_append _ _) hb
      (hcomment.of_prefix ⟨[c], by simp⟩ ?_)
    have hpos := List.length_pos_iff.mpr hb
    simp only [List.length_append, List.length_cons]
    omega

/-- A longest lexeme stays the longest when the text changes from a layout character or a slash on,
unless a comment reaches that far. -/
theorem Longest.replace {lexeme between behind : List Char} {token : Option (TokenKind × Value)}
    {c : Char} (h : Longest (lexeme ++ (between ++ behind)) lexeme token)
    (hc : isLayout c = true ∨ c = '/') (hcomment : ¬ IsComment (lexeme ++ (between ++ [c])))
    (more : List Char) : Longest (lexeme ++ (between ++ c :: more)) lexeme token where
  lexical := h.lexical
  heads := List.prefix_append _ _
  longest := by
    intro other token' hother hheads
    apply Nat.le_of_not_lt
    intro hlt
    have hwhole : lexeme ++ (between ++ c :: more) = (lexeme ++ (between ++ [c])) ++ more := by simp
    by_cases hshort : other.length ≤ (lexeme ++ between).length
    · -- such a lexeme stands in the old text as well
      rw [← List.append_assoc] at hheads
      have hold := List.prefix_of_prefix_length_le hheads (List.prefix_append _ _) hshort
      have hle := h.longest other token' hother
        (hold.trans (by rw [← List.append_assoc]; exact List.prefix_append _ _))
      omega
    · -- a longer one goes on behind the character, and is thus a string or a comment
      have hreach : lexeme ++ (between ++ [c]) <+: other := by
        rw [hwhole] at hheads
        refine List.prefix_of_prefix_length_le (List.prefix_append _ _) hheads ?_
        simp only [List.length_append, List.length_singleton] at hshort ⊢
        omega
      have hmem : c ∈ other.tail := by
        obtain ⟨d, tail, rfl⟩ := List.exists_cons_of_ne_nil h.lexical.ne_nil
        obtain ⟨end_, rfl⟩ := hreach
        simp
      rcases hother.reaches_past hmem (isStop_of_layout hc) with hstring | hbody
      · have hle := hstring.length_le h.lexical ((List.prefix_append _ _).trans hreach)
        omega
      · refine hcomment (hbody.of_prefix hreach ?_)
        have hpos := List.length_pos_iff.mpr h.lexical.ne_nil
        simp only [List.length_append, List.length_singleton]
        omega

namespace Munch

theorem eq_nil_of_spelling {text final : List Char} {pieces : List Piece}
    (h : Munch text pieces final) (hnil : Piece.spelling pieces = []) : pieces = [] := by
  cases h with
  | done => rfl
  | bite hlongest _ => exact absurd (List.append_eq_nil_iff.mp hnil).1 hlongest.lexical.ne_nil

/-- The pieces of a munch keep their places when the text behind them changes: if it is to start
with the same slash, or with a layout character and the last piece is no comment. -/
theorem replace {text final : List Char} {pieces : List Piece} {c : Char}
    (h : Munch text pieces final)
    (hc : final.head? = some c ∧ c = '/' ∨
      isLayout c = true ∧ ∀ piece ∈ pieces.getLast?, ¬ IsComment piece.lexeme)
    (more : List Char) : Munch (Piece.spelling pieces ++ c :: more) pieces (c :: more) := by
  induction h with
  | done => exact .done _
  | @bite piece pieces rest final hlongest hrest ih =>
    have hc' : isLayout c = true ∨ c = '/' := hc.elim (.inr ·.2) (.inl ·.1)
    rw [Piece.spelling_cons, List.append_assoc]
    rw [hrest.text_eq] at hlongest
    refine .bite (hlongest.replace hc' ?_ more) (ih ?_)
    · rcases hc with ⟨hhead, -⟩ | ⟨hlayout, hlast⟩
      · obtain ⟨tail, rfl⟩ : ∃ tail, final = c :: tail := List.head?_eq_some_iff.mp hhead
        exact hlongest.not_isComment ⟨tail, by simp⟩ (by simp)
      · refine hlongest.not_isComment_layout hlayout fun hnil => hlast piece ?_
        rw [hrest.eq_nil_of_spelling hnil]
        rfl
    · refine hc.imp_right fun ⟨hlayout, hlast⟩ => ⟨hlayout, fun last hmem => hlast last ?_⟩
      rw [List.getLast?_cons, Option.mem_def.mp hmem]
      rfl

theorem of_cons {text final : List Char} {piece : Piece} {pieces : List Piece}
    (h : Munch text (piece :: pieces) final) :
    Longest (piece.lexeme ++ (Piece.spelling pieces ++ final)) piece.lexeme piece.content ∧
      Munch (Piece.spelling pieces ++ final) pieces final := by
  cases h with
  | bite hlongest hrest =>
    rw [← hrest.text_eq]
    exact ⟨hlongest, hrest⟩

/-- **A text is munched to its end in one way.** -/
theorem unique {text : List Char} {first second : List Piece} (h : Munch text first [])
    (h' : Munch text second []) : first = second := by
  induction first generalizing text second with
  | nil =>
    have hempty : Piece.spelling second = [] := by simpa using h'.text_eq.symm.trans h.text_eq
    exact (h'.eq_nil_of_spelling hempty).symm
  | cons piece first ih =>
    cases second with
    | nil =>
      have hempty : Piece.spelling (piece :: first) = [] := by
        simpa using h.text_eq.symm.trans h'.text_eq
      exact h.eq_nil_of_spelling hempty
    | cons other second =>
      have htext := h.text_eq.symm.trans h'.text_eq
      obtain ⟨hlongest, hrest⟩ := h.of_cons
      obtain ⟨hlongest', hrest'⟩ := h'.of_cons
      rw [Piece.spelling_cons, Piece.spelling_cons, List.append_assoc, List.append_assoc] at htext
      rw [htext] at hlongest
      obtain ⟨hlexeme, hcontent⟩ := hlongest.unique hlongest'
      have hpiece : piece = other := by
        cases piece
        cases other
        obtain rfl := hlexeme
        obtain rfl := hcontent
        rfl
      -- behind the same lexeme the same text is left
      rw [hpiece, List.append_cancel_left_eq] at htext
      rw [htext] at hrest
      rw [hpiece, ih hrest hrest']

theorem split {text final : List Char} {front back : List Piece}
    (h : Munch text (front ++ back) final) :
    Munch text front (Piece.spelling back ++ final) ∧
      Munch (Piece.spelling back ++ final) back final := by
  induction front generalizing text with
  | nil =>
    obtain rfl : text = Piece.spelling back ++ final := h.text_eq
    exact ⟨.done _, h⟩
  | cons piece front ih =>
    cases h with
    | bite hlongest hrest => exact (ih hrest).imp_left (.bite hlongest)

end Munch

/-! ## Layout -/

/-- **Layout**: white space, and comments that end in LF. -/
inductive Layout : List Char → Prop
  | nil : Layout []
  | blank {c rest} : c ∈ [' ', '\t', '\r', '\n'] → Layout rest → Layout (c :: rest)
  | comment {text rest} : IsComment text → Layout rest → Layout (text ++ '\n' :: rest)

/-- A layout character is a longest lexeme. -/
theorem longest_layout {c : Char} (h : c ∈ [' ', '\t', '\r', '\n']) (rest : List Char) :
    Longest ([c] ++ rest) [c] none :=
  longest_of_headLexeme (headLexeme_layout (isLayout_iff_mem.mpr h) rest)

/-- A comment is a longest lexeme at the end of its line. -/
theorem IsComment.longest {text rest : List Char} (h : IsComment text)
    (hrest : ∀ c ∈ rest.head?, c = '\n') : Longest (text ++ rest) text none := by
  obtain ⟨body, hbody, rfl⟩ := h
  have hlength : commentLength ('/' :: (body ++ rest)) = ('/' :: body).length := by
    have hline : ('/' :: body ++ rest).takeWhile (· ≠ '\n') = '/' :: body :=
      takeWhile_stop (by simpa using hbody) (by simpa using hrest)
    rw [commentLength, ← List.cons_append, hline]
  have hhead := longest_of_headLexeme (headLexeme_slash ('/' :: (body ++ rest)))
  simpa [hlength, Cut.content] using hhead

/-- Layout is munched into pieces that make no token. -/
theorem Layout.exists_munch {text : List Char} (h : Layout text) :
    ∃ pieces, (∀ piece ∈ pieces, piece.content = none) ∧
      ∀ rest, Munch (text ++ rest) pieces rest := by
  induction h with
  | nil => exact ⟨[], by simp, .done⟩
  | @blank c text hc _ ih =>
    obtain ⟨pieces, hsilent, hmunch⟩ := ih
    refine ⟨⟨[c], none⟩ :: pieces, List.forall_mem_cons.mpr ⟨rfl, hsilent⟩, fun rest => ?_⟩
    exact .cons (longest_layout hc _) (hmunch rest)
  | @comment comment text hcomment _ ih =>
    obtain ⟨pieces, hsilent, hmunch⟩ := ih
    refine ⟨⟨comment, none⟩ :: ⟨['\n'], none⟩ :: pieces, ?_, fun rest => ?_⟩
    · simpa using hsilent
    · have hend : Munch (['\n'] ++ (text ++ rest)) (⟨['\n'], none⟩ :: pieces) rest :=
        .cons (longest_layout (by decide) _) (hmunch rest)
      rw [List.append_assoc]
      exact .cons (hcomment.longest (by simp)) hend

/-- From its first LF on, layout is layout. -/
theorem Layout.dropWhile {text : List Char} (h : Layout text) :
    Layout (text.dropWhile (· ≠ '\n')) := by
  induction h with
  | nil => exact .nil
  | @blank c text hc htext ih =>
    by_cases hlf : c = '\n'
    · subst hlf
      exact .blank hc htext
    · rwa [List.dropWhile_cons_of_pos (by simpa using hlf)]
  | @comment comment text hcomment htext _ =>
    have hbody : ∀ c ∈ comment, (decide (c ≠ '\n')) = true := by
      obtain ⟨body, hbody, rfl⟩ := hcomment
      simpa using hbody
    rw [dropWhile_stop hbody (by simp)]
    exact .blank (by decide) htext

/-- A longest lexeme that is a comment ends at the end of its line and makes no token. -/
theorem Longest.of_isComment {lexeme rest : List Char} {token : Option (TokenKind × Value)}
    (h : Longest (lexeme ++ rest) lexeme token) (hcomment : IsComment lexeme) :
    (∀ c ∈ rest.head?, c = '\n') ∧ token = none := by
  have hrest : ∀ c ∈ rest.head?, c = '\n' := by
    intro c hc
    obtain ⟨tail, rfl⟩ := List.head?_eq_some_iff.mp hc
    by_contra hlf
    have hp : [c] <+: c :: tail := ⟨tail, rfl⟩
    exact h.not_isComment hp (by simp) (hcomment.append (by simpa using hlf))
  exact ⟨hrest, (h.unique (hcomment.longest hrest)).2⟩

/-! ## Inserting layout -/

/-- White space, and then layout. -/
def IsSpacing (text : List Char) : Prop :=
  ∃ c rest, c ∈ [' ', '\t', '\r', '\n'] ∧ Layout rest ∧ text = c :: rest

/-- What the tokens of pieces hold besides their locations. -/
def Piece.contents (pieces : List Piece) : List (List Char × TokenKind × Value) :=
  pieces.filterMap fun piece => piece.content.map (piece.lexeme, ·)

theorem Piece.contents_append (first second : List Piece) :
    contents (first ++ second) = contents first ++ contents second :=
  List.filterMap_append

theorem Piece.contents_cons_of_none (piece : Piece) (h : piece.content = none)
    (pieces : List Piece) : contents (piece :: pieces) = contents pieces := by
  rw [contents, List.filterMap_cons_none (by rw [h, Option.map_none])]
  rfl

theorem Piece.contents_eq_nil {pieces : List Piece}
    (h : ∀ piece ∈ pieces, piece.content = none) : contents pieces = [] := by
  rw [contents, List.filterMap_eq_nil_iff]
  intro piece hpiece
  rw [h piece hpiece, Option.map_none]

/-- Layout behind a comment: the comment takes it up to the first LF. -/
theorem exists_munch_insert_comment {text final layout : List Char} {front back : List Piece}
    {piece : Piece} (h : Munch text (front ++ piece :: back) final) (hlayout : Layout layout)
    (hcomment : IsComment piece.lexeme) :
    ∃ pieces,
      Munch (Piece.spelling front ++ (piece.lexeme ++ (layout ++ (Piece.spelling back ++ final))))
        pieces final ∧
      Piece.contents pieces = Piece.contents (front ++ piece :: back) := by
  obtain ⟨hfront, hpiece⟩ := h.split
  obtain ⟨hlongest, hback⟩ := hpiece.of_cons
  obtain ⟨hrest, hcontent⟩ := hlongest.of_isComment hcomment
  generalize Piece.spelling back ++ final = rest at hfront hpiece hlongest hback hrest ⊢
  -- the comment takes the layout up to the first LF, or all of it
  have hlonger : IsComment (piece.lexeme ++ layout.takeWhile (· ≠ '\n')) :=
    hcomment.append fun c hc => by simpa using List.mem_takeWhile_imp hc
  -- there it ends: at the LF, or where the comment ended before
  have hlf : ∀ c ∈ (layout.dropWhile (· ≠ '\n') ++ rest).head?, c = '\n' := by
    cases hdrop : layout.dropWhile (· ≠ '\n') with
    | nil => exact hrest
    | cons d tail =>
      have hd := List.head?_dropWhile_not (· ≠ '\n') layout
      rw [hdrop] at hd
      simpa using hd
  obtain ⟨silent, hsilent, hmunch⟩ := hlayout.dropWhile.exists_munch
  have hbite := Munch.cons (hlonger.longest hlf) ((hmunch rest).trans hback)
  have hsplit : piece.lexeme ++ layout.takeWhile (· ≠ '\n') ++
      (layout.dropWhile (· ≠ '\n') ++ rest) = piece.lexeme ++ (layout ++ rest) := by
    rw [List.append_assoc, ← List.append_assoc (layout.takeWhile _),
      List.takeWhile_append_dropWhile]
  rw [hsplit] at hbite
  refine ⟨front ++ (⟨_, none⟩ :: (silent ++ back)), .trans ?_ hbite, ?_⟩
  · obtain ⟨body, -, heq⟩ := hcomment
    rw [heq]
    exact hfront.replace (.inl ⟨by rw [Piece.spelling_cons, heq]; rfl, rfl⟩) _
  · rw [Piece.contents_append, Piece.contents_append, Piece.contents_cons_of_none piece hcontent,
      Piece.contents_cons_of_none ⟨_, none⟩ rfl, Piece.contents_append,
      Piece.contents_eq_nil hsilent, List.nil_append]

/-- **Spacing between two pieces changes no token.** -/
theorem exists_munch_insert {text final spacing : List Char} {front back : List Piece}
    (h : Munch text (front ++ back) final) (hspacing : IsSpacing spacing) :
    ∃ pieces,
      Munch (Piece.spelling front ++ (spacing ++ (Piece.spelling back ++ final))) pieces final ∧
        Piece.contents pieces = Piece.contents (front ++ back) := by
  obtain ⟨c, rest, hc, hrest, rfl⟩ := hspacing
  -- a comment in front takes a part of the spacing, any other piece none
  by_cases hlast : ∃ piece ∈ front.getLast?, IsComment piece.lexeme
  · obtain ⟨piece, hpiece, hcomment⟩ := hlast
    obtain ⟨before, rfl⟩ := List.getLast?_eq_some_iff.mp hpiece
    rw [List.append_assoc, List.singleton_append] at h ⊢
    rw [Piece.spelling_append, Piece.spelling_cons, Piece.spelling_nil, List.append_nil,
      List.append_assoc]
    exact exists_munch_insert_comment h (.blank hc hrest) hcomment
  · obtain ⟨hfront, hback⟩ := h.split
    obtain ⟨silent, hsilent, hmunch⟩ := (Layout.blank hc hrest).exists_munch
    refine ⟨front ++ (silent ++ back), ?_, ?_⟩
    · refine (hfront.replace (.inr ⟨isLayout_iff_mem.mpr hc, ?_⟩) _).trans ((hmunch _).trans hback)
      exact fun piece hpiece hcomment => hlast ⟨piece, hpiece, hcomment⟩
    · rw [Piece.contents_append, Piece.contents_append, Piece.contents_append,
        Piece.contents_eq_nil hsilent, List.nil_append]

end Lox
