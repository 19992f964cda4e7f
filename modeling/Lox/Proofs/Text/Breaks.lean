import Lox.Proofs.Text.Lines

/-!
# The two rules for lines

A text is cut into lines at its LF characters, and by another rule at every line boundary. A line is
plain if it holds no other boundary, apart from a CR right at its end. Down to a line with only
plain lines above it the two rules agree: the line has the same number by both, and the second rule
leaves out the CR. The one line that the second rule does not have is an empty one at the end of the text.

## Main definitions

* `Text.dropCr`: a line without the CR it ends in
* `Text.IsPlain`: a line without a boundary of its own

## Main results

* `Text.breakLines_append`: a text in front of a boundary is a line
* `Text.getElem?_breakLines`: below plain lines, a plain line has its number by either rule
-/

namespace Lox.Text

/-! ## Plain lines -/

/-- A line without the CR that it ends in. -/
def dropCr (line : List Char) : List Char :=
  if line.getLast? = some '\r' then line.dropLast else line

/-- A line without a boundary of its own: it holds none, but for a CR at its end. -/
def IsPlain (line : List Char) : Prop :=
  ∀ c ∈ dropCr line, isLineBoundary c = false

instance (line : List Char) : Decidable (IsPlain line) :=
  List.decidableBAll (isLineBoundary · = false) (dropCr line)

/-- A line is left as it is, or loses a CR. -/
theorem eq_dropCr (line : List Char) : line = dropCr line ∨ line = dropCr line ++ ['\r'] := by
  unfold dropCr
  split
  case isTrue h =>
    obtain ⟨body, rfl⟩ := List.getLast?_eq_some_iff.mp h
    exact .inr (by rw [List.dropLast_concat])
  case isFalse => exact .inl rfl

/-! ## Lines before a boundary -/

/-- A text without a boundary, in front of one, is a line. -/
theorem breakLines_append {line text : List Char} {lines : List (List Char)}
    (hline : ∀ c ∈ line, isLineBoundary c = false) (htext : breakLines text = [] :: lines) :
    breakLines (line ++ text) = line :: lines := by
  induction line with
  | nil => exact htext
  | cons c line ih =>
    obtain ⟨hc, hline⟩ := List.forall_mem_cons.mp hline
    have hcr : c ≠ '\r' := by
      rintro rfl
      exact absurd hc (by decide)
    -- a CR is a boundary, so that no pair of CR and LF starts here
    rw [List.cons_append, breakLines, if_neg (by simp [hc]), ih hline]
    simp [hcr]

/-- A text without a boundary is one line, unless it is empty. -/
theorem breakLines_of_forall {line : List Char} (hline : ∀ c ∈ line, isLineBoundary c = false)
    (hne : line ≠ []) : breakLines line = [line] := by
  induction line with
  | nil => exact absurd rfl hne
  | cons c line ih =>
    obtain ⟨hc, hline⟩ := List.forall_mem_cons.mp hline
    have hcr : c ≠ '\r' := by
      rintro rfl
      exact absurd hc (by decide)
    rw [breakLines, if_neg (by simp [hc])]
    · cases line with
      | nil => rfl
      | cons d line => rw [ih hline (by simp)]
    · simp [hcr]

/-- A line between boundaries has none. -/
theorem isLineBoundary_of_mem_breakLines {text line : List Char} (h : line ∈ breakLines text) :
    ∀ c ∈ line, isLineBoundary c = false := by
  fun_induction breakLines text generalizing line with
  | case1 => cases h
  | case2 rest ih =>
    rcases List.mem_cons.mp h with rfl | hmem
    · simp
    · exact ih hmem
  | case3 c rest _ _ ih =>
    rcases List.mem_cons.mp h with rfl | hmem
    · simp
    · exact ih hmem
  | case4 c rest _ hc hnil _ =>
    obtain rfl := List.mem_singleton.mp h
    simpa using hc
  | case5 c rest _ hc first lines hlines ih =>
    rcases List.mem_cons.mp h with rfl | hmem
    · have hfirst := ih (hlines ▸ List.mem_cons_self)
      exact List.forall_mem_cons.mpr ⟨by simpa using hc, hfirst⟩
    · exact ih (hlines ▸ List.mem_cons_of_mem _ hmem)

/-- A line between boundaries has characters of the text. -/
theorem subset_of_mem_breakLines {text line : List Char} (h : line ∈ breakLines text) :
    line ⊆ text := by
  fun_induction breakLines text generalizing line with
  | case1 => cases h
  | case2 rest ih =>
    rcases List.mem_cons.mp h with rfl | hmem
    · exact List.nil_subset _
    · exact List.subset_cons_of_subset _ (List.subset_cons_of_subset _ (ih hmem))
  | case3 c rest _ _ ih =>
    rcases List.mem_cons.mp h with rfl | hmem
    · exact List.nil_subset _
    · exact List.subset_cons_of_subset _ (ih hmem)
  | case4 c rest =>
    obtain rfl := List.mem_singleton.mp h
    simp
  | case5 c rest _ _ first lines hlines ih =>
    rcases List.mem_cons.mp h with rfl | hmem
    · exact List.cons_subset_cons c (ih (hlines ▸ List.mem_cons_self))
    · exact List.subset_cons_of_subset _ (ih (hlines ▸ List.mem_cons_of_mem _ hmem))

/-- A plain line in front of an LF. -/
theorem breakLines_lf {line : List Char} (h : IsPlain line) (text : List Char) :
    breakLines (line ++ '\n' :: text) = dropCr line :: breakLines text := by
  have heq := eq_dropCr line
  unfold IsPlain at h
  generalize dropCr line = body at h heq ⊢
  -- the boundary is the LF, or the pair of CR and LF
  rcases heq with rfl | rfl
  · have hstop : breakLines ('\n' :: text) = [] :: breakLines text := by
      rw [breakLines, if_pos (by decide)]
      simp
    exact breakLines_append h hstop
  · have hstop : breakLines ('\r' :: '\n' :: text) = [] :: breakLines text := by
      rw [breakLines]
    rw [List.append_assoc, List.singleton_append]
    exact breakLines_append h hstop

/-- A plain line at the end of a text. -/
theorem breakLines_plain {line : List Char} (h : IsPlain line) (hne : line ≠ []) :
    breakLines line = [dropCr line] := by
  have heq := eq_dropCr line
  unfold IsPlain at h
  generalize dropCr line = body at h heq ⊢
  rcases heq with rfl | rfl
  · exact breakLines_of_forall h hne
  · exact breakLines_append h rfl

/-! ## The two rules agree -/

/-- **Below plain lines, a plain line has its number by either rule.** By the second rule it has
lost its CR, and if it is empty and the last one it is missing. -/
theorem getElem?_breakLines {text line : List Char} {n : Nat}
    (hplain : ∀ line ∈ (splitLines text).take (n + 1), IsPlain line)
    (hline : (splitLines text)[n]? = some line) :
    (breakLines text)[n]? =
      if line = [] ∧ n + 1 = (splitLines text).length then none else some (dropCr line) := by
  -- line by line: the first one ends in an LF, or it is all of the text
  induction n generalizing text with
  | zero =>
    by_cases hmem : '\n' ∈ text
    · obtain ⟨first, rest, rfl, hfirst⟩ := List.eq_append_cons_of_mem hmem
      rw [splitLines_append_lf, splitLines_of_not_mem hfirst,
        List.singleton_append] at hplain hline ⊢
      obtain rfl : first = line := by simpa using hline
      have hrest := List.length_pos_iff.mpr (splitLines_ne_nil rest)
      rw [breakLines_lf (hplain first (by simp)), List.getElem?_cons_zero, if_neg]
      rw [List.length_cons]
      omega
    · rw [splitLines_of_not_mem hmem] at hplain hline ⊢
      obtain rfl : text = line := by simpa using hline
      by_cases hnil : text = []
      · simp [hnil, breakLines]
      · rw [breakLines_plain (hplain text (by simp)) hnil, if_neg (by simp [hnil])]
        rfl
  | succ n ih =>
    by_cases hmem : '\n' ∈ text
    · obtain ⟨first, rest, rfl, hfirst⟩ := List.eq_append_cons_of_mem hmem
      rw [splitLines_append_lf, splitLines_of_not_mem hfirst,
        List.singleton_append] at hplain hline ⊢
      rw [List.take_succ_cons] at hplain
      obtain ⟨hfirst', hrest⟩ := List.forall_mem_cons.mp hplain
      rw [breakLines_lf hfirst', List.getElem?_cons_succ, ih hrest hline, List.length_cons]
      simp only [Nat.add_right_cancel_iff]
    · rw [splitLines_of_not_mem hmem] at hline
      simp at hline

end Lox.Text
