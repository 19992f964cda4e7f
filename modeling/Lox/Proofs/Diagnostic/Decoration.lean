import Lox.Proofs.Diagnostic.Alignment

/-!
# Colour as decoration

A rendered diagnostic has colour by escape sequences between its characters. Nothing else depends on
colour: without the escape sequences the coloured text is the plain one, provided that ESC, the
character by which the sequences start, stands in none of the texts that are rendered.

## Main definitions

* `IsEscape`: the escape sequences of a terminal
* `withoutEscapes`: a text without its escape sequences
* `Unescaped`, `Diagnostic.IsUnescaped`: the texts and the diagnostics without ESC

## Main results

* `escapeLength?_eq_some_iff`: the escape sequence at the head of a text
* `withoutEscapes_draw`: a styled row without its escape sequences
* `Diagnostic.render_color_decorates`: colour only decorates a diagnostic
-/

namespace Lox

/-! ## Escape sequences -/

/-- The character by which escape sequences start. -/
def escapeChar : Char :=
  '\x1b'

/-- **The escape sequences**: ESC and a bracket, a number, and the letter `m`. -/
def IsEscape (code : List Char) : Prop :=
  ∃ digits, digits ≠ [] ∧ (∀ d ∈ digits, d.isDigit = true) ∧
    code = escapeChar :: '[' :: (digits ++ ['m'])

/-- How many characters the escape sequence at the head of a text has, if there is one. -/
def escapeLength? (text : List Char) : Option Nat :=
  match text with
  | e :: '[' :: rest =>
    let digits := rest.takeWhile Char.isDigit
    if e = escapeChar ∧ digits ≠ [] ∧ rest[digits.length]? = some 'm' then
      some (digits.length + 3)
    else none
  | _ => none

/-- The text without its escape sequences. -/
def withoutEscapes (text : List Char) : List Char :=
  match text with
  | [] => []
  | c :: rest =>
    match escapeLength? (c :: rest) with
    | some n => withoutEscapes (rest.drop (n - 1))
    | none => c :: withoutEscapes rest
termination_by text.length
decreasing_by all_goals simp only [List.length_drop, List.length_cons]; omega

/-- **The escape sequence at the head of a text** is found, and nothing else is taken for one. -/
theorem escapeLength?_eq_some_iff {text : List Char} {n : Nat} :
    escapeLength? text = some n ↔
      ∃ code rest, IsEscape code ∧ text = code ++ rest ∧ code.length = n := by
  constructor
  · intro h
    unfold escapeLength? at h
    split at h
    · next e rest =>
      obtain ⟨⟨rfl, hne, hm⟩, hn⟩ := Option.ite_none_right_eq_some.mp h
      obtain ⟨behind, hsplit⟩ := List.takeWhile_prefix Char.isDigit (l := rest)
      have hdigits : ∀ d ∈ rest.takeWhile Char.isDigit, d.isDigit = true :=
        fun d hd => List.mem_takeWhile_imp hd
      generalize rest.takeWhile Char.isDigit = digits at hne hm hn hsplit hdigits
      subst hsplit
      -- behind the digits stands the letter that ends the sequence
      rw [List.getElem?_append_right (Nat.le_refl _), Nat.sub_self, ← List.head?_eq_getElem?] at hm
      obtain ⟨tail, rfl⟩ := List.head?_eq_some_iff.mp hm
      exact ⟨_, tail, ⟨digits, hne, hdigits, rfl⟩, by simp, by simpa using hn⟩
    · cases h
  · rintro ⟨-, rest, ⟨digits, hne, hdigits, rfl⟩, rfl, rfl⟩
    have hrun : (digits ++ 'm' :: rest).takeWhile Char.isDigit = digits := by
      refine takeWhile_stop hdigits ?_
      rintro _ ⟨rfl⟩
      decide
    simp [escapeLength?, hrun, hne]

/-- An escape sequence at the head of a text is left out. -/
theorem withoutEscapes_append_of_isEscape {code : List Char} (h : IsEscape code)
    (rest : List Char) : withoutEscapes (code ++ rest) = withoutEscapes rest := by
  have hlength := escapeLength?_eq_some_iff.mpr ⟨code, rest, h, rfl, rfl⟩
  obtain ⟨digits, -, -, rfl⟩ := h
  rw [List.cons_append] at hlength ⊢
  rw [withoutEscapes, hlength]
  simp

/-- A character that starts no escape sequence stays. -/
theorem withoutEscapes_cons_of_ne {c : Char} (h : c ≠ escapeChar) (rest : List Char) :
    withoutEscapes (c :: rest) = c :: withoutEscapes rest := by
  have hnone : escapeLength? (c :: rest) = none := by
    rw [Option.eq_none_iff_forall_ne_some]
    intro n hn
    obtain ⟨code, behind, ⟨digits, -, -, rfl⟩, htext, -⟩ := escapeLength?_eq_some_iff.mp hn
    exact h (List.cons.inj htext).1
  rw [withoutEscapes, hnone]

/-- Text without ESC stays. -/
theorem withoutEscapes_append_of_not_mem {text : List Char} (h : escapeChar ∉ text)
    (rest : List Char) : withoutEscapes (text ++ rest) = text ++ withoutEscapes rest := by
  induction text with
  | nil => rfl
  | cons c text ih =>
    rw [List.cons_append, withoutEscapes_cons_of_ne (List.ne_of_not_mem_cons h).symm,
      ih (List.not_mem_of_not_mem_cons h), List.cons_append]

/-- **The text holds no ESC.** -/
def Unescaped (text : String) : Prop :=
  escapeChar ∉ text.toList

instance (text : String) : Decidable (Unescaped text) :=
  inferInstanceAs (Decidable (escapeChar ∉ text.toList))

@[simp] theorem unescaped_append {first second : String} :
    Unescaped (first ++ second) ↔ Unescaped first ∧ Unescaped second := by
  simp [Unescaped, not_or]

@[simp] theorem unescaped_ofList {text : List Char} :
    Unescaped (String.ofList text) ↔ escapeChar ∉ text := by
  rw [Unescaped, String.toList_ofList]

/-! ## Styled texts -/

/-- The code of a style is an escape sequence. -/
theorem Style.isEscape_escape (style : Style) : IsEscape style.escape.toList := by
  refine ⟨style.number.toList, ?_, ?_, by simp [escape, escapeChar]⟩
  all_goals cases style <;> simp [number]

/-- The codes of styles are left out. -/
theorem withoutEscapes_join (styles : List Style) (rest : List Char) :
    withoutEscapes ((String.join (styles.map Style.escape)).toList ++ rest) =
      withoutEscapes rest := by
  rw [String.toList_join, List.flatMap_map]
  induction styles with
  | nil => rfl
  | cons style styles ih =>
    rw [List.flatMap_cons, List.append_assoc,
      withoutEscapes_append_of_isEscape style.isEscape_escape, ih]

/-- **A styled text without its escape sequences** is the text, whatever follows. -/
theorem withoutEscapes_paint {text : String} (h : Unescaped text) (color : Bool)
    (styles : List Style) (rest : List Char) :
    withoutEscapes ((paint color styles text).toList ++ rest) =
      text.toList ++ withoutEscapes rest := by
  unfold paint
  split
  · rw [String.toList_append, String.toList_append, List.append_assoc, List.append_assoc,
      withoutEscapes_join, withoutEscapes_append_of_not_mem h,
      withoutEscapes_append_of_isEscape Style.reset.isEscape_escape]
  · exact withoutEscapes_append_of_not_mem h rest

/-- The texts of the row hold no ESC. -/
def UnescapedRow (row : List Fragment) : Prop :=
  ∀ fragment ∈ row, Unescaped fragment.text

/-- **A styled row without its escape sequences** is the plain row. -/
theorem withoutEscapes_draw {row : List Fragment} (h : UnescapedRow row) (color : Bool)
    (rest : List Char) :
    withoutEscapes ((draw color row).toList ++ rest) =
      (draw false row).toList ++ withoutEscapes rest := by
  rw [Diagnostic.toList_draw, draw, String.toList_join, List.flatMap_map]
  induction row with
  | nil => rfl
  | cons fragment row ih =>
    obtain ⟨hfragment, hrow⟩ := List.forall_mem_cons.mp h
    rw [List.flatMap_cons, List.append_assoc, withoutEscapes_paint hfragment, ih hrow,
      List.flatMap_cons, List.append_assoc]

/-- A plain row of texts without ESC has none. -/
theorem unescaped_draw {row : List Fragment} (h : UnescapedRow row) :
    Unescaped (draw false row) := by
  rw [Unescaped, Diagnostic.toList_draw, List.mem_flatMap]
  rintro ⟨fragment, hfragment, hmem⟩
  exact h fragment hfragment hmem

/-- **Styled rows without their escape sequences** are the plain rows, and these have no ESC. -/
theorem withoutEscapes_rows {rows : List (List Fragment)} (h : ∀ row ∈ rows, UnescapedRow row)
    (color : Bool) :
    withoutEscapes (String.intercalate "\n" (rows.map (draw color))).toList =
        (String.intercalate "\n" (rows.map (draw false))).toList ∧
      Unescaped (String.intercalate "\n" (rows.map (draw false))) := by
  induction rows with
  | nil => exact ⟨by simp [withoutEscapes], by simp [Unescaped]⟩
  | cons row rows ih =>
    obtain ⟨hrow, hrows⟩ := List.forall_mem_cons.mp h
    obtain ⟨hstrip, hplain⟩ := ih hrows
    cases rows with
    | nil =>
      have hstripped := withoutEscapes_draw hrow color []
      simp only [withoutEscapes, List.append_nil] at hstripped
      simpa using ⟨hstripped, unescaped_draw hrow⟩
    | cons next rows =>
      -- an LF stands between the first row and the others
      have hjoin (color : Bool) :
          String.intercalate "\n" ((row :: next :: rows).map (draw color)) =
            draw color row ++ "\n" ++
              String.intercalate "\n" ((next :: rows).map (draw color)) :=
        String.intercalate_cons_of_ne_nil (by simp)
      have hlf : Unescaped "\n" := by decide
      rw [hjoin, hjoin, String.toList_append, String.toList_append, List.append_assoc,
        withoutEscapes_draw hrow, withoutEscapes_append_of_not_mem hlf, hstrip,
        String.toList_append, String.toList_append, List.append_assoc]
      exact ⟨rfl, unescaped_append.mpr
        ⟨unescaped_append.mpr ⟨unescaped_draw hrow, hlf⟩, hplain⟩⟩

namespace Diagnostic

/-! ## The rows of a diagnostic -/

/-- **No text of the diagnostic holds ESC.** -/
structure IsUnescaped (diagnostic : Diagnostic) : Prop where
  code : Unescaped diagnostic.code
  message : Unescaped diagnostic.message
  labels : ∀ label ∈ diagnostic.labels, Unescaped label.message ∧ Unescaped label.span.file
  notes : ∀ note ∈ diagnostic.notes, Unescaped note

/-- The digits of a number are none of the characters of an escape sequence. -/
theorem unescaped_toString (n : Int) : Unescaped (toString n) := by
  have hdigits (n : Nat) : Unescaped n.repr := by
    intro hmem
    rw [Nat.toList_repr] at hmem
    exact absurd (Nat.isDigit_of_mem_toDigits (by decide) (by decide) hmem) (by decide)
  cases n with
  | ofNat n => exact hdigits n
  | negSucc n => exact unescaped_append.mpr ⟨by decide, hdigits _⟩

theorem unescaped_spanText {span : Span} (h : Unescaped span.file) : Unescaped span.text := by
  have htext : span.text =
      span.file ++ ":" ++ toString span.line ++ ":" ++ toString span.start := rfl
  have hcolon : Unescaped ":" := by decide
  simp only [htext, unescaped_append]
  exact ⟨⟨⟨⟨h, hcolon⟩, unescaped_toString _⟩, hcolon⟩, unescaped_toString _⟩

theorem unescaped_mark {label : Label} (h : Unescaped label.message) : Unescaped (mark label) := by
  rw [mark, unescaped_append, unescaped_ofList, List.mem_replicate]
  constructor
  · cases label.primary <;> simp [escapeChar]
  · split
    · decide
    · exact unescaped_append.mpr ⟨by decide, h⟩

theorem unescaped_numberGutter (line : Int) : Unescaped (numberGutter line).text := by
  have hblanks (n : Nat) : escapeChar ∉ List.replicate n ' ' := by
    simp [List.mem_replicate, escapeChar]
  simp only [numberGutter, unescaped_append, unescaped_ofList]
  exact ⟨⟨hblanks _, unescaped_toString line⟩, by decide⟩

theorem unescapedRow_titleRow {diagnostic : Diagnostic} (hcode : Unescaped diagnostic.code)
    (hmessage : Unescaped diagnostic.message) : UnescapedRow diagnostic.titleRow := by
  have hlevel : Unescaped diagnostic.level.name := by
    cases diagnostic.level <;> decide
  simp only [UnescapedRow, titleRow, List.forall_mem_cons, unescaped_append]
  refine ⟨⟨hlevel, ?_⟩, by decide, hmessage, by simp⟩
  split
  · decide
  · simp only [unescaped_append]
    exact ⟨⟨by decide, hcode⟩, by decide⟩

theorem unescapedRow_placeRow {label : Label} (h : Unescaped label.span.file) :
    UnescapedRow (placeRow label) := by
  simp only [UnescapedRow, placeRow, List.forall_mem_cons]
  exact ⟨by decide, by decide, unescaped_append.mpr ⟨by decide, unescaped_spanText h⟩, by simp⟩

theorem unescapedRow_blankGutter : UnescapedRow blankGutter := by
  simp only [UnescapedRow, blankGutter, List.forall_mem_cons]
  exact ⟨by decide, by decide, by simp⟩

theorem unescapedRow_markRow (level : Level) {label : Label} (h : Unescaped label.message) :
    UnescapedRow (markRow level label) := by
  have hblanks : escapeChar ∉ List.replicate (label.span.start - 1).toNat ' ' := by
    simp [List.mem_replicate, escapeChar]
  simp only [UnescapedRow, markRow, List.forall_mem_append, List.forall_mem_cons]
  exact ⟨unescapedRow_blankGutter,
    unescaped_append.mpr ⟨by decide, unescaped_ofList.mpr hblanks⟩, unescaped_mark h, by simp⟩

theorem unescapedRow_noteRow {note : String} (h : Unescaped note) :
    UnescapedRow (noteRow note) := by
  simp only [UnescapedRow, noteRow, List.forall_mem_cons]
  exact ⟨by decide, by decide, by decide, by decide, unescaped_append.mpr ⟨by decide, h⟩, by simp⟩

/-- The rows that show a source line have its characters, and those of the label. -/
theorem unescapedRow_of_mem_labelRows {level : Level} {source : String} {label : Label}
    (hlabel : Unescaped label.message) (hsource : Unescaped source) :
    ∀ row ∈ labelRows level (Text.breakLines source.toList) label, UnescapedRow row := by
  rw [labelRows]
  split
  · simp
  · next line hline =>
    have hmem := (sourceLine?_eq_some hline).2
    have htext : escapeChar ∉ line := fun hesc => hsource (Text.subset_of_mem_breakLines hmem hesc)
    rw [List.forall_mem_cons, List.forall_mem_singleton]
    refine ⟨?_, unescapedRow_markRow level hlabel⟩
    simp only [UnescapedRow, List.forall_mem_cons]
    exact ⟨unescaped_numberGutter _,
      unescaped_append.mpr ⟨by decide, unescaped_ofList.mpr htext⟩, by simp⟩

theorem mem_of_anchor? {labels : List Label} {anchor : Label} (h : anchor? labels = some anchor) :
    anchor ∈ labels := by
  rw [anchor?, Option.or_eq_some_iff] at h
  rcases h with hfind | ⟨-, hhead⟩
  · exact List.mem_of_find?_eq_some hfind
  · exact List.mem_of_head? hhead

/-- **The rows of a diagnostic without ESC** have none. -/
theorem IsUnescaped.rows {diagnostic : Diagnostic} (h : diagnostic.IsUnescaped) {source : String}
    (hsource : Unescaped source) : ∀ row ∈ diagnostic.rows source, UnescapedRow row := by
  intro row hrow
  rw [Diagnostic.rows, List.cons_append, List.mem_cons, List.mem_append, List.mem_map] at hrow
  rcases hrow with rfl | hshown | ⟨note, hnote, rfl⟩
  · exact unescapedRow_titleRow h.code h.message
  · rw [sourceRows] at hshown
    split at hshown
    · cases hshown
    · next anchor hanchor =>
      simp only [List.mem_append, List.mem_cons, List.not_mem_nil, or_false,
        List.mem_flatMap] at hshown
      rcases hshown with ((rfl | rfl) | ⟨label, hlabel, hmem⟩) | rfl
      · exact unescapedRow_placeRow (h.labels anchor (mem_of_anchor? hanchor)).2
      · exact unescapedRow_blankGutter
      · exact unescapedRow_of_mem_labelRows (h.labels label hlabel).1 hsource row hmem
      · exact unescapedRow_blankGutter
  · exact unescapedRow_noteRow (h.notes note hnote)

/-! ## Rendering in colour -/

/-- In colour the first row starts with the code of the level. -/
theorem escape_prefix_titleRow (diagnostic : Diagnostic) :
    diagnostic.level.style.escape.toList <+: (draw true diagnostic.titleRow).toList := by
  simp [draw, titleRow, paint]

theorem prefix_intercalate (first : String) (others : List String) :
    first.toList <+: (String.intercalate "\n" (first :: others)).toList := by
  cases others with
  | nil => simp
  | cons next others =>
    rw [String.intercalate_cons_of_ne_nil (by simp), String.toList_append, String.toList_append,
      List.append_assoc]
    exact List.prefix_append _ _

/-- **Colour only decorates.** Where ESC stands in none of the texts, a diagnostic rendered in colour
is the plain one with escape sequences: without them it is rendered as it is without colour, and that
has no ESC. It starts with the code of its level. -/
theorem render_color_decorates {diagnostic : Diagnostic} {source : String}
    (h : diagnostic.IsUnescaped) (hsource : Unescaped source) :
    withoutEscapes (diagnostic.render source true).toList =
        (diagnostic.render source false).toList ∧
      Unescaped (diagnostic.render source false) ∧
      diagnostic.level.style.escape.toList <+: (diagnostic.render source true).toList := by
  obtain ⟨hstrip, hplain⟩ := withoutEscapes_rows (h.rows hsource) true
  exact ⟨hstrip, hplain, diagnostic.escape_prefix_titleRow.trans (prefix_intercalate _ _)⟩

/-- A warning without a code, whose first label is no line of the source and whose texts go on as the
code in front of them would. -/
theorem render_color_decorates_bracketed :
    let far : Label := ⟨⟨9, 1, 2, "m.lox"⟩, "", true⟩
    let near : Label := ⟨⟨1, 2, 3, "m.lox"⟩, "[0m", false⟩
    let diagnostic : Diagnostic := ⟨"", .warning, "[1m", [far, near], ["0m"]⟩
    diagnostic.IsUnescaped ∧ Unescaped "[m" ∧
      withoutEscapes (diagnostic.render "[m" true).toList =
        ("warning: [1m\n  --> m.lox:9:1\n   |\n  1 | [m\n   |  - [0m\n   |\n" ++
          "   = note: 0m").toList ∧
      "\x1b[93m".toList <+: (diagnostic.render "[m" true).toList := by
  intro far near diagnostic
  have hdiagnostic : diagnostic.IsUnescaped := ⟨by decide, by decide, by decide, by decide⟩
  have hsource : Unescaped "[m" := by decide
  have hplain : diagnostic.render "[m" false =
      "warning: [1m\n  --> m.lox:9:1\n   |\n  1 | [m\n   |  - [0m\n   |\n" ++
        "   = note: 0m" := by decide +kernel
  obtain ⟨hstrip, -, hstart⟩ := render_color_decorates hdiagnostic hsource
  exact ⟨hdiagnostic, hsource, hplain ▸ hstrip, hstart⟩

end Diagnostic

end Lox
