import Lox.Token.Scan

/-!
# Scans that can be computed

The scan of a text ends because every step leaves less of the text, and is therefore not computed by
unfolding it. With a bound on the number of steps it recurs on the bound instead. The length of the
text is bound enough, so that the tokens of a given text can be read off.

## Main definitions

* `scanWithin`: the scan of a text within a number of steps

## Main results

* `scanFrom_eq_scanWithin`: as many steps as there are characters are enough
* `tokensOf_eq_scanWithin`: the tokens of a text by such a scan
-/

namespace Lox

/-- The scan of a text, broken off after `bound` steps. -/
def scanWithin (place : Location) (text : List Char) : (bound : Nat) → List Token × Stop
  | 0 => ([], .finished place)
  | bound + 1 =>
    match text with
    | [] => ([], .finished place)
    | c :: rest =>
      match headLexeme c rest with
      | .error fault => ([], .failed ⟨fault, place⟩ (place.after (fault.reach c rest)))
      | .ok cut =>
        let lexeme := c :: rest.take cut.more
        let others := scanWithin (place.after lexeme) (rest.drop cut.more) bound
        ((cut.token? lexeme place).toList ++ others.1, others.2)

/-- **A bound as large as the text breaks no scan off.** -/
theorem scanFrom_eq_scanWithin {text : List Char} {bound : Nat} (h : text.length ≤ bound)
    (place : Location) : scanFrom place text = scanWithin place text bound := by
  induction bound generalizing text place with
  | zero =>
    obtain rfl := List.length_eq_zero_iff.mp (Nat.le_zero.mp h)
    exact scanFrom_nil place
  | succ bound ih =>
    cases text with
    | nil => exact scanFrom_nil place
    | cons c rest =>
      cases hhead : headLexeme c rest with
      | error fault => rw [scanFrom_error hhead, scanWithin, hhead]
      | ok cut =>
        have hrest : (rest.drop cut.more).length ≤ bound := by
          rw [List.length_cons] at h
          rw [List.length_drop]
          omega
        rw [scanFrom_ok hhead, ih hrest, scanWithin, hhead]

/-- The tokens of a text by a scan within as many steps as the text has characters. -/
theorem tokensOf_eq_scanWithin (source : String) (file : Option String) :
    tokensOf source file =
      match scanWithin (.start file) source.toList source.toList.length with
      | (tokens, .finished place) => .ok (tokens ++ [.endOfText place])
      | (_, .failed error _) => .error error := by
  rw [tokensOf, scanText, scanFrom_eq_scanWithin (Nat.le_refl _)]
  rcases scanWithin (.start file) source.toList source.toList.length with
    ⟨tokens, place | _⟩ <;> rfl

end Lox
