import Lox.Proofs.Token.Lexical
import Lox.Prompt.Command
import Mathlib.Data.List.DropRight

/-!
# What a typed line asks for

A line at the prompt is trimmed. If what is left is neither nothing, nor the word that leaves the
prompt, nor a command, it is a program. Behind the name of a command and a blank stands its argument,
and a trimmed argument arrives there as it was typed.

## Main definitions

* `Entry.IsProgram`: the trimmed lines that are programs

## Main results

* `Text.trim_eq_self_iff`: the texts that are trimmed
* `Text.exists_margin`: a text is its trimmed form between the blanks at its ends
* `Entry.ofLine_of_isProgram`: a line that is a program
* `Entry.ofLine_command`: a command with its argument
-/

namespace Lox

/-! ## Trimmed texts -/

namespace Text

theorem trimEnd_eq_rdropWhile (text : List Char) : trimEnd text = text.rdropWhile isBlank := rfl

theorem trimStart_eq_self_iff {text : List Char} :
    trimStart text = text ↔ ∀ c ∈ text.head?, isBlank c = false := by
  cases text with
  | nil => simp [trimStart]
  | cons c rest =>
    constructor
    · rintro h _ ⟨rfl⟩
      apply Bool.eq_false_iff.mpr
      intro hc
      -- the first character would be missing
      have hlength : (rest.dropWhile isBlank).length = rest.length + 1 := by
        rw [trimStart, List.dropWhile_cons_of_pos hc] at h
        rw [h, List.length_cons]
      have hle := (List.dropWhile_suffix (l := rest) isBlank).length_le
      omega
    · intro h
      rw [trimStart, List.dropWhile_cons_of_neg (by simp [h c rfl])]

theorem trimEnd_eq_self_iff {text : List Char} :
    trimEnd text = text ↔ ∀ c ∈ text.getLast?, isBlank c = false := by
  rw [trimEnd_eq_rdropWhile, List.rdropWhile_eq_self_iff]
  constructor
  · intro h c hc
    obtain ⟨front, rfl⟩ := List.getLast?_eq_some_iff.mp hc
    simpa using h (by simp)
  · intro h hne
    simpa using h _ (List.getLast?_eq_some_getLast hne)

/-- **The trimmed texts** are those with a blank neither in front nor at the end. -/
theorem trim_eq_self_iff {text : List Char} :
    trim text = text ↔
      (∀ c ∈ text.head?, isBlank c = false) ∧ ∀ c ∈ text.getLast?, isBlank c = false := by
  rw [← trimStart_eq_self_iff, ← trimEnd_eq_self_iff, trim]
  constructor
  · intro h
    -- trimming the end makes no text longer
    have hprefix : trimEnd (trimStart text) <+: trimStart text := List.rdropWhile_prefix isBlank _
    have hsuffix : trimStart text <:+ text := List.dropWhile_suffix isBlank
    rw [h] at hprefix
    have hstart : trimStart text = text := hsuffix.eq_of_length_le hprefix.length_le
    exact ⟨hstart, by rwa [hstart] at h⟩
  · rintro ⟨hstart, hend⟩
    rw [hstart, hend]

/-- **A text is its trimmed form between the blanks** that it starts with and some that it ends
with. -/
theorem exists_margin (text : List Char) :
    ∃ margin, text = text.takeWhile isBlank ++ (trim text ++ margin) ∧
      margin ⊆ text.rtakeWhile isBlank := by
  have hstart : text.takeWhile isBlank ++ trimStart text = text :=
    List.takeWhile_append_dropWhile
  have hend : trim text ++ (trimStart text).rtakeWhile isBlank = trimStart text :=
    List.rdropWhile_append_rtakeWhile
  refine ⟨_, by rw [hend, hstart], fun c hc => List.mem_reverse.mpr ?_⟩
  -- what ends the text without the blanks in front ends the text
  have hreverse : text.reverse = (trimStart text).reverse ++ (text.takeWhile isBlank).reverse := by
    rw [← List.reverse_append, hstart]
  have hc : c ∈ (trimStart text).reverse.takeWhile isBlank := List.mem_reverse.mp hc
  rw [hreverse, List.takeWhile_append]
  split
  · exact List.mem_append_left _ ((List.takeWhile_prefix isBlank).subset hc)
  · exact hc

/-- The first word of a text, and the text behind it. -/
theorem firstWord_append {word argument : List Char} (hword : ∀ c ∈ word, isBlank c = false)
    (hne : word ≠ []) (hargument : ∀ c ∈ argument.head?, isBlank c = false) :
    firstWord (word ++ ' ' :: argument) = (word, argument) := by
  have hrun : ∀ c ∈ word, (!isBlank c) = true := fun c hc => by rw [hword c hc]; rfl
  have hstop : ∀ c ∈ (' ' :: argument).head?, (!isBlank c) = false := by
    rintro _ ⟨rfl⟩
    decide
  have hstart : trimStart (word ++ ' ' :: argument) = word ++ ' ' :: argument := by
    refine trimStart_eq_self_iff.mpr fun c hc => hword c ?_
    obtain ⟨d, rest, rfl⟩ := List.exists_cons_of_ne_nil hne
    obtain rfl : d = c := Option.some.inj hc
    exact List.mem_cons_self
  have hrest : trimStart (' ' :: argument) = argument := by
    rw [trimStart, List.dropWhile_cons_of_pos (by decide)]
    exact trimStart_eq_self_iff.mpr hargument
  rw [firstWord, hstart, takeWhile_stop hrun hstop, dropWhile_stop hrun hstop, hrest]

end Text

/-! ## Programs and commands -/

namespace Entry

/-- **The trimmed line is a program**: it is not empty, it does not leave the prompt, and it does not
start with the colon of a command. -/
structure IsProgram (text : List Char) : Prop where
  nonempty : text ≠ []
  stays : text ≠ leaveWord.toList
  plain : text.head? ≠ some ':'

/-- A line asks for the value of a program that it is. -/
theorem ofLine_of_isProgram {line : String} (h : IsProgram (Text.trim line.toList)) :
    ofLine line = .program (String.ofList (Text.trim line.toList)) := by
  rw [ofLine]
  generalize Text.trim line.toList = text at h
  simp only [if_neg h.nonempty, if_neg h.stays]
  split
  · exact absurd rfl h.plain
  · rfl

/-- The names of the commands are words in lower case, each the name of one command. -/
theorem name_cases (command : Command) : ∀ name ∈ command.names,
    (name.toList ≠ [] ∧ name.toList.all (!Text.isBlank ·)) ∧
      Text.lowercase name.toList = name.toList ∧ Command.ofName? name = some command := by
  cases command <;> decide +kernel

/-- **A command with its argument**: behind one of its names and a blank stands a trimmed text. -/
theorem ofLine_command {command : Command} {name argument : String}
    (hname : name ∈ command.names) (hne : argument ≠ "")
    (htrim : Text.trim argument.toList = argument.toList) :
    ofLine (":" ++ name ++ " " ++ argument) = .command command argument := by
  obtain ⟨⟨hword, hblank⟩, hcase, hcommand⟩ := name_cases command name hname
  obtain ⟨hhead, hlast⟩ := Text.trim_eq_self_iff.mp htrim
  have htext : (":" ++ name ++ " " ++ argument).toList =
      ':' :: (name.toList ++ ' ' :: argument.toList) := by simp
  -- the line is trimmed, since its end is that of the argument
  have hline : Text.trim (':' :: (name.toList ++ ' ' :: argument.toList)) =
      ':' :: (name.toList ++ ' ' :: argument.toList) := by
    have hargument : argument.toList ≠ [] := by simpa using hne
    refine Text.trim_eq_self_iff.mpr ⟨?_, fun c hc => hlast c ?_⟩
    · rintro _ ⟨rfl⟩
      decide
    · simpa [List.getLast?_cons, List.getLast?_append, List.getLast?_eq_some_getLast hargument]
        using hc
  have hleave : ':' :: (name.toList ++ ' ' :: argument.toList) ≠ leaveWord.toList := by
    simp [leaveWord]
  have hsplit : Text.firstWord (name.toList ++ ' ' :: argument.toList) =
      (name.toList, argument.toList) :=
    Text.firstWord_append (by simpa using hblank) hword hhead
  rw [ofLine, htext, hline]
  simp only [if_neg (List.cons_ne_nil _ _), if_neg hleave]
  simp only [ofCommandLine, hsplit, hcase, String.ofList_toList, hcommand]

end Entry

end Lox
