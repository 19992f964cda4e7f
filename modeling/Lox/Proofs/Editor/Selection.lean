import Lox.Proofs.Editor.Underline

/-!
# What a range selects

A range in the editor selects characters of one line. The range of a failed run selects what the
failure is about: the first line of the token that failed, or the one character where the scan
stopped. At the end of the text there is nothing to select; the range there is the one place behind
the last line.

## Main definitions

* `LineRange.Selects`: the characters of a line that a range selects
* `LineRange.IsBehindEnd`: the range of the place behind the end of the text

## Main results

* `Token.exists_firstLine`: the first line of a token stands at its range
* `run_failure_selects`: what the range of a failed run selects
-/

namespace Lox

namespace LineRange

/-- **The range selects characters of a line of the text**: it starts behind what stands in front of
them in the line, and ends behind them. -/
def Selects (text : List Char) (range : LineRange) (selected : List Char) : Prop :=
  ∃ (n : Nat) (left right : List Char),
    (Text.splitLines text)[n]? = some (left ++ (selected ++ right)) ∧
      range = ⟨n, left.length, left.length + selected.length⟩

/-- **The range is the place behind the end of the text**: one character wide, and right behind the
last line. -/
def IsBehindEnd (text : List Char) (range : LineRange) : Prop :=
  ∃ (n : Nat) (line : List Char), (Text.splitLines text)[n]? = some line ∧
    n + 1 = (Text.splitLines text).length ∧ range = ⟨n, line.length, line.length + 1⟩

/-- A range that goes on over text without an LF selects that text. -/
theorem selects_onward {selected : List Char} (h : '\n' ∉ selected) (before behind : List Char) :
    (onward before selected.length).Selects (before ++ (selected ++ behind)) selected := by
  refine ⟨before.count '\n', Text.lastLine before, Text.firstLine behind, ?_, rfl⟩
  rw [Text.getElem?_splitLines_append, Text.firstLine_append_of_not_mem h]

/-- A range that goes on by one character from the end of the text is behind it. -/
theorem isBehindEnd_onward (text : List Char) : (onward text 1).IsBehindEnd text :=
  ⟨text.count '\n', Text.lastLine text, Text.getElem?_splitLines_count text,
    (Text.length_splitLines text).symm, rfl⟩

end LineRange

/-! ## Tokens -/

namespace Token

variable {source : String} {file : Option String} {tokens : List Token} {token : Token}

theorem not_mem_firstLine (token : Token) : '\n' ∉ token.firstLine := by
  intro hmem
  simpa using List.mem_takeWhile_imp hmem

/-- The lexeme of a token goes on below its first line, or ends with it. -/
theorem exists_lexemeText (token : Token) :
    ∃ below, token.lexemeText.toList = token.firstLine ++ below := by
  obtain ⟨below, hbelow⟩ := List.takeWhile_prefix (· ≠ '\n') (l := token.lexemeText.toList)
  exact ⟨below, hbelow.symm⟩

/-- **The first line of a token stands at its range.** It is not empty, and the token starts with
it. -/
theorem exists_firstLine (hscan : tokensOf source file = .ok tokens) (hmem : token ∈ tokens)
    (hkind : token.kind ≠ .eof) :
    ∃ before below behind, source.toList = before ++ (token.firstLine ++ (below ++ behind)) ∧
      token.lexemeText.toList = token.firstLine ++ below ∧ token.firstLine ≠ [] ∧
      token.location = .endOf file before ∧
      token.range = .onward before token.firstLine.length := by
  obtain ⟨pieces, hmunch, rfl⟩ := exists_munch_of_tokensOf hscan
  have htoken : token ∈ Piece.listing file [] pieces := by
    rcases List.mem_append.mp hmem with hlist | hlast
    · exact hlist
    · obtain rfl := List.mem_singleton.mp hlast
      exact absurd rfl hkind
  obtain ⟨before, lexeme, behind, htext, hlexical, hlexeme, hplace⟩ :=
    hmunch.exists_lexeme file htoken
  have hspelling : token.lexemeText.toList = lexeme := by
    rw [lexemeText, hlexeme, Option.getD_some, String.toList_ofList]
  -- a lexeme does not start with an LF
  have hne : token.firstLine ≠ [] := by
    obtain ⟨c, tail, rfl⟩ := List.exists_cons_of_ne_nil hlexical.ne_nil
    have hc : c ≠ '\n' := by simpa using hlexical.head?_ne_lf
    simp [firstLine, hspelling, hc]
  obtain ⟨below, hbelow⟩ := token.exists_lexemeText
  refine ⟨before, below, behind, ?_, hbelow, hne, hplace, ?_⟩
  · rw [htext, ← hspelling, hbelow, List.append_assoc]
  · have hpos := List.length_pos_iff.mpr hne
    rw [range, hplace, LineRange.at_endOf, Nat.max_eq_right hpos]

/-- Only the end of the text has no first line. -/
theorem firstLine_ne_nil_iff (hscan : tokensOf source file = .ok tokens)
    (hmem : token ∈ tokens) : token.firstLine ≠ [] ↔ token.kind ≠ .eof := by
  constructor
  · intro hne
    obtain rfl | ⟨hkind, -⟩ := token_cases_of_tokensOf hscan hmem
    · exact absurd rfl hne
    · exact hkind
  · intro hkind
    obtain ⟨-, -, -, -, -, hne, -⟩ := token.exists_firstLine hscan hmem hkind
    exact hne

/-- Only the end of the text is a token without a lexeme. -/
theorem lexemeText_ne_empty_iff (hscan : tokensOf source file = .ok tokens)
    (hmem : token ∈ tokens) : token.lexemeText ≠ "" ↔ token.kind ≠ .eof := by
  rw [← token.firstLine_ne_nil_iff hscan hmem, not_iff_not]
  constructor
  · intro hempty
    rw [firstLine, hempty]
    rfl
  · intro hnil
    -- a lexeme whose first line is empty is that of the end
    obtain rfl | ⟨hkind, -⟩ := token_cases_of_tokensOf hscan hmem
    · rfl
    · exact absurd hnil ((token.firstLine_ne_nil_iff hscan hmem).mpr hkind)

end Token

/-! ## Failed runs -/

/-- A failure at a token of the text has the range of the token. -/
theorem Failure.range_of_token? {failure : Failure} {token : Token}
    (htoken : failure.token? = some token) (hne : token.lexemeText ≠ "") :
    failure.range = token.range := by
  rw [Failure.range, htoken, Option.filter_some, if_pos (by simpa using hne)]

/-- A failure that has no lexeme is marked by one character at its location. -/
theorem Failure.range_of_location? {failure : Failure} {file : Option String}
    {before : List Char} (hplace : failure.location? = some (.endOf file before))
    (hnone : ∀ token, failure.token? = some token → token.lexemeText = "") :
    failure.range = .onward before 1 := by
  have hfilter : failure.token?.filter (·.lexemeText ≠ "") = none := by
    cases htoken : failure.token? with
    | none => rfl
    | some token => simp [hnone token htoken]
  rw [Failure.range, hfilter, Failure.line, hplace]
  exact LineRange.at_endOf file before 1

/-- **Where a scan fails** no lexeme stands, and the range of the failure selects the one character
there. It is a quote if and only if the fault is that a string is not closed. -/
theorem ScanError.range_selects {source : String} {file : Option String} {error : ScanError}
    (hscan : tokensOf source file = .error error) :
    ∃ c rest, source.toList.drop error.location.offset.toNat = c :: rest ∧
      NoLexeme (c :: rest) ∧ (error.fault = .unterminatedString ↔ c = '"') ∧
      error.failure.range.Selects source.toList [c] := by
  obtain ⟨pieces, c, rest, hmunch, hnone, rfl⟩ := exists_munch_of_tokensOf_error hscan
  have htext : source.toList = Piece.spelling pieces ++ ([c] ++ rest) := hmunch.text_eq
  refine ⟨c, rest, by simp [htext], hnone, ?_, ?_⟩
  · by_cases hc : c = '"' <;> simp [ScanFault.atChar, hc]
  · have hrange : (ScanError.failure ⟨.atChar c, .endOf file (Piece.spelling pieces)⟩).range =
        .onward (Piece.spelling pieces) 1 :=
      Failure.range_of_location? rfl fun token htoken => by cases htoken
    have hline : '\n' ∉ [c] := by simpa using hnone.ne_lf.symm
    rw [hrange, htext]
    exact LineRange.selects_onward hline _ _

/-- **The range of a failure at a token of the text** selects the first line of the token, or is
the place behind the end if the token is the end of the text. -/
theorem Failure.range_selects {source : String} {file : Option String} {tokens : List Token}
    {failure : Failure} {token : Token} (hscan : tokensOf source file = .ok tokens)
    (hmem : token ∈ tokens) (htoken : failure.token? = some token) :
    (token.kind ≠ .eof ∧ token.firstLine ≠ [] ∧
        failure.range.Selects source.toList token.firstLine) ∨
      token.kind = .eof ∧ failure.range.IsBehindEnd source.toList := by
  obtain rfl | ⟨hkind, -⟩ := token_cases_of_tokensOf hscan hmem
  · right
    have hplace := Failure.location?_of_token? htoken
    have hrange : failure.range = .onward source.toList 1 := by
      refine range_of_location? hplace fun token' htoken' => ?_
      obtain rfl := Option.some.inj (htoken.symm.trans htoken')
      rfl
    rw [hrange]
    exact ⟨rfl, LineRange.isBehindEnd_onward _⟩
  · left
    obtain ⟨before, below, behind, htext, -, hne, -, hrange⟩ :=
      token.exists_firstLine hscan hmem hkind
    refine ⟨hkind, hne, ?_⟩
    rw [range_of_token? htoken ((token.lexemeText_ne_empty_iff hscan hmem).mpr hkind), hrange,
      htext]
    exact LineRange.selects_onward token.not_mem_firstLine before _

/-- **What the range of a failed run selects.** If the scan failed, it selects the one character at
the location of the error, where no lexeme stands: the opening quote if a string is not closed. Any
other failure is about a token of the text. The range selects the first line of the token, unless
this is the end of the text: there it is the place behind the last line. -/
theorem run_failure_selects {source : String} {file : Option String} {failure : Failure}
    (hfail : (run source file).outcome.failure? = some failure) :
    (failure.stage = .scan ∧ ∃ error c rest, tokensOf source file = .error error ∧
        failure = error.failure ∧ source.toList.drop error.location.offset.toNat = c :: rest ∧
        NoLexeme (c :: rest) ∧ (error.fault = .unterminatedString ↔ c = '"') ∧
        failure.marker.range.Selects source.toList [c]) ∨
      (failure.stage ≠ .scan ∧ ∃ tokens token, tokensOf source file = .ok tokens ∧
        token ∈ tokens ∧ failure.token? = some token ∧
        ((token.kind ≠ .eof ∧ token.firstLine ≠ [] ∧
            failure.marker.range.Selects source.toList token.firstLine) ∨
          token.kind = .eof ∧ failure.marker.range.IsBehindEnd source.toList)) := by
  obtain ⟨error, hscan, rfl⟩ | ⟨tokens, token, hscan, htoken, hmem⟩ := run_failure_cases hfail
  · obtain ⟨c, rest, hdrop, hnone, hquote, hrange⟩ := error.range_selects hscan
    exact .inl ⟨rfl, error, c, rest, hscan, rfl, hdrop, hnone, hquote, hrange⟩
  · have hstage : failure.stage ≠ .scan := by
      cases failure <;> cases htoken <;> simp [Failure.stage]
    exact .inr ⟨hstage, tokens, token, hscan, hmem, htoken,
      Failure.range_selects hscan hmem htoken⟩

/-- The empty text, a string over two lines where a parenthesis is missing, and a quote that is not
closed. -/
theorem run_failure_selects_two_lines :
    let empty := Failure.parse "Expected expression." (.endOfText ⟨1, 1, 0, none⟩)
    let string : Token := ⟨.string, some "\"a\nb\"", .text "a\nb", ⟨2, 2, 4, none⟩⟩
    let unclosed := Failure.parse "Expected ')' after expression." string
    let quote : ScanError := ⟨.unterminatedString, ⟨1, 3, 2, none⟩⟩
    ((run "" none).outcome.failure? = some empty ∧
        empty.marker.range.IsBehindEnd "".toList) ∧
      ((run "(1\n \"a\nb\"" none).outcome.failure? = some unclosed ∧
        unclosed.marker.range.Selects "(1\n \"a\nb\"".toList ['"', 'a']) ∧
      (run "1 \"a\n" none).outcome.failure? = some quote.failure ∧
        quote.failure.marker.range.Selects "1 \"a\n".toList ['"'] := by
  intro empty string unclosed quote
  have hempty : (run "" none).outcome.failure? = some empty := by
    have hscan : tokensOf "" none = .ok [.endOfText ⟨1, 1, 0, none⟩] := tokensOf_eq_scanWithin _ _
    rw [run, hscan]
    rfl
  have hunclosed : (run "(1\n \"a\nb\"" none).outcome.failure? = some unclosed := by
    have hscan : tokensOf "(1\n \"a\nb\"" none =
        .ok [.ofLexeme .leftParen ['('] ⟨1, 1, 0, none⟩, .ofLexeme .number ['1'] ⟨1, 2, 1, none⟩,
          string, .endOfText ⟨3, 3, 9, none⟩] :=
      tokensOf_eq_scanWithin _ _
    rw [run, hscan]
    rfl
  have hstop : tokensOf "1 \"a\n" none = .error quote := tokensOf_eq_scanWithin _ _
  have hquote : (run "1 \"a\n" none).outcome.failure? = some quote.failure := by
    rw [run, hstop]
    rfl
  refine ⟨⟨hempty, ?_⟩, ⟨hunclosed, ?_⟩, hquote, ?_⟩
  · obtain ⟨hstage, -⟩ | ⟨-, _, _, -, -, htoken, ⟨hkind, -⟩ | ⟨-, hend⟩⟩ :=
      run_failure_selects hempty
    · cases hstage
    · cases htoken
      exact absurd rfl hkind
    · exact hend
  · obtain ⟨hstage, -⟩ | ⟨-, _, _, -, -, htoken, ⟨-, -, hrange⟩ | ⟨hkind, -⟩⟩ :=
      run_failure_selects hunclosed
    · cases hstage
    · cases htoken
      have hline : string.firstLine = ['"', 'a'] := by decide
      rwa [hline] at hrange
    · cases htoken
      cases hkind
  · obtain ⟨-, _, _, _, hscan, -, -, -, hopen, hrange⟩ | ⟨hstage, -⟩ :=
      run_failure_selects hquote
    · -- the character is a quote, since the fault is that a string is not closed
      cases hstop.symm.trans hscan
      rwa [hopen.mp rfl] at hrange
    · exact absurd rfl hstage

end Lox
