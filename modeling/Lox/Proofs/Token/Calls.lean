import Lox.Proofs.Run.Ending
import Lox.Proofs.Token.Bounded
import Lox.Token.Scanner

/-!
# Calls of a scanner

A scanner is asked for a scan of its text, or for its tokens, in any order and as often as its caller
likes. It takes the tokens it holds for those of the whole text. They are, unless its last scan failed
behind a token: then the tokens before the fault are given out as if they were all, and the fault is
not reported again. A scan that fails at the first token leaves none, and the next call scans anew.

## Main definitions

* `ScannerCall`, `Scanner.answers`: calls and the answers to them
* `BreaksOff`: the scan of a text fails behind a token
* `Scanner.Fresh`, `Scanner.Scanned`: the two states of a scanner whose text is kept

## Main results

* `Scanner.scan_eq`: a scan answers as that of a fresh scanner, and leaves the same state
* `Scanner.Scanned.answers`: the answers once a scan has been made
* `Scanner.answers_complete_iff`: when all iterations are complete
* `Scanner.answers_break_off`: an iteration without the end of the text
-/

namespace Lox

/-- What a scanner is asked for: a scan of its text, or its tokens. -/
inductive ScannerCall where
  | scan
  | iterate
deriving DecidableEq, Repr

/-- A call with its answer, and the scanner behind it. -/
def ScannerCall.perform (scanner : Scanner) :
    ScannerCall → Except ScanError (List Token) × Scanner
  | scan => scanner.scan
  | iterate => scanner.tokens

/-- The answers to calls, one after the other. -/
def Scanner.answers (scanner : Scanner) :
    List ScannerCall → List (Except ScanError (List Token))
  | [] => []
  | call :: calls => (call.perform scanner).1 :: (call.perform scanner).2.answers calls

/-- **The scan of a text breaks off**: it fails, and behind a token. -/
def BreaksOff (source : String) (file : Option String) : Prop :=
  (∃ error, tokensOf source file = .error error) ∧ (scanText source file).tokens ≠ []

/-! ## The tokens before a fault -/

/-- A text that is scanned has the tokens of its scan. -/
theorem tokens_scanText_of_tokensOf {source : String} {file : Option String} {tokens : List Token}
    (h : tokensOf source file = .ok tokens) : (scanText source file).tokens = tokens := by
  rw [tokensOf] at h
  cases herror : (scanText source file).error? with
  | none =>
    rw [herror] at h
    exact Except.ok.inj h
  | some error =>
    rw [herror] at h
    cases h

/-- The tokens before a fault do not end in the end of the text: it is not among them. -/
theorem kind_ne_eof_of_tokensOf_error {source : String} {file : Option String} {error : ScanError}
    (h : tokensOf source file = .error error) :
    ∀ token ∈ (scanText source file).tokens, token.kind ≠ .eof := by
  obtain ⟨pieces, c, rest, hmunch, hnone, -⟩ := exists_munch_of_tokensOf_error h
  rw [scanText_of_noLexeme hmunch hnone file]
  exact hmunch.listing_kind_ne_eof file []

/-- Unless a scan breaks off, its tokens are those of the text, or none. -/
theorem tokens_of_not_breaksOff {source : String} {file : Option String}
    (h : ¬ BreaksOff source file) (hne : (scanText source file).tokens ≠ []) :
    tokensOf source file = .ok (scanText source file).tokens := by
  cases hscan : tokensOf source file with
  | ok tokens => rw [tokens_scanText_of_tokensOf hscan]
  | error error => exact absurd ⟨⟨error, hscan⟩, hne⟩ h

namespace Scanner

/-! ## The states of a scanner -/

/-- A scanner with the text of a file that holds no tokens. -/
structure Fresh (source : String) (file : Option String) (scanner : Scanner) : Prop where
  source_eq : scanner.source = source
  file_eq : scanner.file = file
  held_eq : scanner.held = []

/-- A scanner with the text of a file that holds the tokens of a scan of it. -/
structure Scanned (source : String) (file : Option String) (scanner : Scanner) : Prop where
  source_eq : scanner.source = source
  file_eq : scanner.file = file
  held_eq : scanner.held = (scanText source file).tokens

variable {source : String} {file : Option String} {scanner : Scanner}

theorem fresh_ofText (source : String) (file : Option String) :
    Fresh source file (ofText source file) :=
  ⟨rfl, rfl, rfl⟩

/-- **A scan answers with the tokens of the text**, whatever the scanner holds, and leaves a scanner
that holds those of the scan. -/
theorem scan_eq (hsource : scanner.source = source) (hfile : scanner.file = file) :
    scanner.scan.1 = tokensOf source file ∧ Scanned source file scanner.scan.2 := by
  subst hsource hfile
  refine ⟨?_, rfl, rfl, rfl⟩
  unfold scan tokensOf
  cases (scanText scanner.source scanner.file).error? <;> rfl

/-- **The first call scans the text**, whether it asks for a scan or for tokens. -/
theorem Fresh.perform (h : Fresh source file scanner) (call : ScannerCall) :
    (call.perform scanner).1 = tokensOf source file ∧
      Scanned source file (call.perform scanner).2 := by
  cases call with
  | scan => exact scan_eq h.source_eq h.file_eq
  | iterate =>
    have htokens : scanner.tokens = scanner.scan := by rw [tokens, h.held_eq]; rfl
    rw [ScannerCall.perform, htokens]
    exact scan_eq h.source_eq h.file_eq

/-- What a scanner that has scanned its text answers. -/
def laterAnswer (source : String) (file : Option String) :
    ScannerCall → Except ScanError (List Token)
  | .scan => tokensOf source file
  | .iterate =>
    if (scanText source file).tokens.isEmpty then tokensOf source file
    else .ok (scanText source file).tokens

/-- **Any further call leaves the scanner as it is**, and is answered from the text alone. -/
theorem Scanned.perform (h : Scanned source file scanner) (call : ScannerCall) :
    (call.perform scanner).1 = laterAnswer source file call ∧
      Scanned source file (call.perform scanner).2 := by
  cases call with
  | scan => exact scan_eq h.source_eq h.file_eq
  | iterate =>
    rw [ScannerCall.perform, tokens, laterAnswer, h.held_eq]
    split
    · exact scan_eq h.source_eq h.file_eq
    · exact ⟨rfl, h⟩

/-- **The answers once a scan has been made.** -/
theorem Scanned.answers (h : Scanned source file scanner) (calls : List ScannerCall) :
    scanner.answers calls = calls.map (laterAnswer source file) := by
  induction calls generalizing scanner with
  | nil => rfl
  | cons call calls ih =>
    obtain ⟨hanswer, hnext⟩ := h.perform call
    rw [Scanner.answers, hanswer, ih hnext, List.map_cons]

/-- The answers to calls of a fresh scanner: that of a scan comes first. -/
theorem Fresh.answers_cons (h : Fresh source file scanner) (call : ScannerCall)
    (calls : List ScannerCall) :
    scanner.answers (call :: calls) =
      tokensOf source file :: calls.map (laterAnswer source file) := by
  obtain ⟨hanswer, hnext⟩ := h.perform call
  rw [Scanner.answers, hanswer, hnext.answers]

/-- A later iteration is complete unless the scan of the text breaks off. -/
theorem laterAnswer_iterate_iff :
    laterAnswer source file .iterate = tokensOf source file ↔ ¬ BreaksOff source file := by
  rw [laterAnswer]
  split
  · next hnil => exact iff_of_true rfl fun hbreak => hbreak.2 (List.isEmpty_iff.mp hnil)
  · next hne =>
    constructor
    · rintro htokens ⟨⟨error, herror⟩, -⟩
      cases htokens.trans herror
    · intro hbreak
      exact (tokens_of_not_breaksOff hbreak (mt List.isEmpty_iff.mpr hne)).symm

/-! ## Complete iterations -/

/-- **An iteration is complete unless it comes later and the scan of the text breaks off.** Every
scan, the first call, and every call on a text whose scan does not break off answer as the scan of a
fresh scanner: with tokens that end in the end of the text, or with the fault. A later iteration on a
text whose scan breaks off gives the tokens before the fault, without the end of the text. -/
theorem answers_complete_iff (source : String) (file : Option String)
    (calls : List ScannerCall) :
    (∀ i call, calls[i]? = some call →
      (((ofText source file).answers calls)[i]? = some (tokensOf source file) ↔
        ¬ (call = .iterate ∧ 0 < i ∧ BreaksOff source file))) ∧
      (∀ tokens, tokensOf source file = .ok tokens → EndsInEof tokens) ∧
      (BreaksOff source file → ∀ i, calls[i]? = some .iterate → 0 < i →
        ∃ tokens, ((ofText source file).answers calls)[i]? = some (.ok tokens) ∧ tokens ≠ [] ∧
          ∀ token ∈ tokens, token.kind ≠ .eof) := by
  have hfresh := fresh_ofText source file
  refine ⟨?_, fun _ => endsInEof_of_tokensOf, ?_⟩
  · intro i call hcall
    cases calls with
    | nil => cases hcall
    | cons first calls =>
      rw [hfresh.answers_cons]
      cases i with
      | zero => exact iff_of_true rfl fun hlate => absurd hlate.2.1 (Nat.lt_irrefl 0)
      | succ i =>
        rw [List.getElem?_cons_succ] at hcall ⊢
        rw [List.getElem?_map, hcall, Option.map_some, Option.some_inj]
        cases call with
        | scan => exact iff_of_true rfl fun hlate => absurd hlate.1 (by decide)
        | iterate =>
          rw [laterAnswer_iterate_iff]
          simp
  · rintro ⟨⟨error, herror⟩, hne⟩ i hcall hpos
    refine ⟨(scanText source file).tokens, ?_, hne, kind_ne_eof_of_tokensOf_error herror⟩
    obtain ⟨i, rfl⟩ := Nat.exists_eq_succ_of_ne_zero (Nat.ne_of_gt hpos)
    cases calls with
    | nil => cases hcall
    | cons first calls =>
      rw [List.getElem?_cons_succ] at hcall
      rw [hfresh.answers_cons, List.getElem?_cons_succ, List.getElem?_map, hcall,
        Option.map_some, laterAnswer, if_neg (mt List.isEmpty_iff.mp hne)]

/-- **An iteration without the end of the text**: the scan fails at the character behind a number, as
does the first iteration, and the second one gives the number alone. -/
theorem answers_break_off :
    let error : ScanError := ⟨.unexpectedCharacter, ⟨1, 3, 2, none⟩⟩
    let number := Token.ofLexeme .number ['1'] ⟨1, 1, 0, none⟩
    tokensOf "1 @" none = .error error ∧
      (ofText "1 @" none).answers [.iterate, .iterate] = [.error error, .ok [number]] ∧
      ¬ EndsInEof [number] := by
  intro error number
  have hscan : tokensOf "1 @" none = .error error := tokensOf_eq_scanWithin _ _
  have htokens : (scanText "1 @" none).tokens = [number] := by
    rw [scanText, scanFrom_eq_scanWithin (Nat.le_refl _)]
    rfl
  refine ⟨hscan, ?_, ?_⟩
  · rw [(fresh_ofText "1 @" none).answers_cons, List.map_singleton, laterAnswer, htokens, hscan]
    rfl
  · rintro ⟨token, hlast, heof⟩
    obtain rfl := Option.some.inj hlast
    cases heof

end Scanner

end Lox
