import Lox.CommandLine.Program

/-!
# Command lines that name a file

A command line of the program may switch on columns and diagnostics, names a command, and gives it
an argument. An argument that starts with a hyphen stands behind the separator `--`, where nothing is
a switch, so that a command line of this form can name any file. It is understood as the request of
the command for that file, with the log at its default level.

## Main definitions

* `IsFlag`: a text by which a switch without an argument is used
* `separated`: an argument, behind a separator if it needs one
* `Task.commandLine`: the command line of a command with its argument

## Main results

* `match?_flags`, `match?_separated`: the matching of flags and a command, and of the argument
* `readArguments_commandLine`: how the command line is understood
-/

namespace Lox.CommandLine

/-- A sequence of steps goes on with the result of the first. -/
theorem bind_ok {ε α β : Type} (a : α) (next : α → Except ε β) :
    (Except.ok a >>= next) = next a := rfl

theorem mapError_ok {ε ε' α : Type} (f : ε → ε') (a : α) :
    (Except.ok a : Except ε α).mapError f = .ok a := rfl

section Matching

variable {named : List (String × Switch)} {slot : Slot}

theorem classifyAll_cons {text : String} {piece : Piece} {rest : List String} {pieces : List Piece}
    (hne : text ≠ "--") (h : classify named text = .ok piece)
    (hrest : classifyAll named rest = .ok pieces) :
    classifyAll named (text :: rest) = .ok (piece :: pieces) := by
  rw [classifyAll, if_neg hne, h, bind_ok, hrest, bind_ok]
  rfl

/-- An argument, behind the separator if it starts with a hyphen. -/
def separated (argument : String) : List String :=
  if argument.toList.head? = some '-' then ["--", argument] else [argument]

/-- **A flag**: a text that uses a switch without an argument. -/
structure IsFlag (named : List (String × Switch)) (text : String) (switch : Switch) : Prop where
  ne : text ≠ "--"
  classify : classify named text = .ok (.switch switch text none)
  takes : switch.takes = .nothing

theorem matchItems_nil : matchItems named slot [] = .ok {} := by
  rw [matchItems]

/-- A flag is used, and the matching goes on behind it. -/
theorem matchItems_flag {text : String} {switch : Switch} {rest : List Item} {later : Matched}
    (hflag : IsFlag named text switch) (h : matchItems named slot rest = .ok later) :
    matchItems named slot ((text, .switch switch text none) :: rest) =
      .ok { later with uses := ⟨switch, none⟩ :: later.uses } := by
  have huses : switchUses named switch text none = .ok ([⟨switch, none⟩], none) := by
    rw [switchUses, hflag.takes]
    rfl
  have hcheck : checkUses [⟨switch, none⟩] = .ok () := by
    rw [checkUses, Use.check, hflag.takes]
    rfl
  -- the check of the uses is one of the steps, and its result is not used
  rw [matchItems, huses, bind_ok]
  change (checkUses [⟨switch, none⟩] >>= fun _ => matchItems named slot rest >>= _) = _
  rw [hcheck, bind_ok, h]
  rfl

/-- A command takes all that follows. -/
theorem matchItems_command (title : Described) (commands : List Described) (text plain : String)
    (rest : List Item) :
    matchItems named (.command title commands) ((text, .plain plain) :: rest) =
      .ok { operand := text :: rest.map (·.1) } := by
  rw [matchItems]
  · simp only [Slot.take?, List.drop_length]
    rw [matchItems_nil]
    exact congrArg (fun operand => (.ok { operand := operand } : Except Halt Matched))
      (List.append_nil _)
  all_goals simp

/-- An argument fills the operand. -/
theorem matchItems_argument (described : Described) (text plain : String) :
    matchItems named (.argument described) [(text, .plain plain)] = .ok { operand := [text] } := by
  rw [matchItems]
  · simp only [Slot.take?, List.drop_nil]
    rw [matchItems_nil]
    rfl
  all_goals simp

/-- So does one behind the separator. -/
theorem matchItems_separator (described : Described) (text plain : String) :
    matchItems named (.argument described) [("--", .separator), (text, .plain plain)] =
      .ok { operand := [text] } := by
  rw [matchItems]
  · simp only [Slot.take?, List.drop_succ_cons, List.drop_nil]
    rw [matchItems_nil]
    rfl
  all_goals simp

/-- **An argument is read as such**, and then fills the operand. -/
theorem exists_pieces_separated (named : List (String × Switch)) (argument : String) :
    ∃ pieces, classifyAll named (separated argument) = .ok pieces ∧
      (separated argument).length = pieces.length ∧
      ∀ described, matchItems named (.argument described) ((separated argument).zip pieces) =
        .ok { operand := [argument] } := by
  unfold separated
  split
  case isTrue =>
    refine ⟨[.separator, .plain argument], ?_, rfl, fun described => ?_⟩
    · rw [classifyAll, if_pos rfl]
      rfl
    · exact matchItems_separator described argument argument
  case isFalse hplain =>
    have hne : argument ≠ "--" := by
      rintro rfl
      exact hplain rfl
    refine ⟨[.plain argument], ?_, rfl, fun described => ?_⟩
    · exact classifyAll_cons hne (by rw [classify, if_pos hplain]) rfl
    · exact matchItems_argument described argument argument

theorem match?_of_matchItems {face : Interface} {arguments : List String} {pieces : List Piece}
    {matched : Matched}
    (hclassify : classifyAll (namedSwitches face.switches) arguments = .ok pieces)
    (hmatch :
      matchItems (namedSwitches face.switches) face.slot (arguments.zip pieces) = .ok matched)
    (hoperand : matched.operand ≠ []) : face.match? arguments = .ok matched := by
  rw [Interface.match?, hclassify, bind_ok, hmatch, bind_ok]
  -- only an operand that is missing is complained about
  split
  · rw [if_neg (by simpa using hoperand)]
    rfl
  · rfl

/-- **The matching of an argument.** -/
theorem match?_separated {face : Interface} {described : Described}
    (hslot : face.slot = .argument described) (argument : String) :
    face.match? (separated argument) = .ok { operand := [argument] } := by
  obtain ⟨pieces, hclassify, -, hmatch⟩ :=
    exists_pieces_separated (namedSwitches face.switches) argument
  exact match?_of_matchItems hclassify (hslot ▸ hmatch described) (by simp)

/-- **Flags in front of a command.** The flags are used, and the command takes the rest. -/
theorem match?_flags {face : Interface} {title : Described} {commands : List Described}
    (hslot : face.slot = .command title commands) {flags : List (String × Switch)}
    (hflags : ∀ flag ∈ flags, IsFlag (namedSwitches face.switches) flag.1 flag.2) {name : String}
    (hne : name ≠ "--") (hname : classify (namedSwitches face.switches) name = .ok (.plain name))
    {rest : List String} {pieces : List Piece}
    (hrest : classifyAll (namedSwitches face.switches) rest = .ok pieces)
    (hlength : rest.length = pieces.length) :
    face.match? (flags.map (·.1) ++ name :: rest) =
      .ok { uses := flags.map (⟨·.2, none⟩), operand := name :: rest } := by
  have hclassify : classifyAll (namedSwitches face.switches) (flags.map (·.1) ++ name :: rest) =
      .ok (flags.map (fun flag => .switch flag.2 flag.1 none) ++ .plain name :: pieces) := by
    induction flags with
    | nil => exact classifyAll_cons hne hname hrest
    | cons flag flags ih =>
      obtain ⟨hflag, hflags⟩ := List.forall_mem_cons.mp hflags
      exact classifyAll_cons hflag.ne hflag.classify (ih hflags)
  have hmatch : matchItems (namedSwitches face.switches) face.slot
      ((flags.map (·.1) ++ name :: rest).zip
        (flags.map (fun flag => .switch flag.2 flag.1 none) ++ .plain name :: pieces)) =
      .ok { uses := flags.map (⟨·.2, none⟩), operand := name :: rest } := by
    -- flag by flag, down to the command, which takes all the rest
    rw [hslot]
    clear hclassify
    induction flags with
    | nil =>
      refine (matchItems_command title commands name name (rest.zip pieces)).trans ?_
      rw [List.map_fst_zip (Nat.le_of_eq hlength)]
      rfl
    | cons flag flags ih =>
      obtain ⟨hflag, hflags⟩ := List.forall_mem_cons.mp hflags
      exact matchItems_flag hflag (ih hflags)
  exact match?_of_matchItems hclassify hmatch (by simp)

end Matching

/-! ## The program's command lines -/

namespace Task

theorem ofName?_name (task : Task) : ofName? task.name = some task := by
  cases task <;> rfl

/-- The name of a command is a plain argument. -/
theorem classify_name (task : Task) :
    task.name ≠ "--" ∧
      classify (namedSwitches mainFace.switches) task.name = .ok (.plain task.name) := by
  cases task <;> exact ⟨by decide, rfl⟩

/-- **The command line of a command with its argument**, with columns or diagnostics switched on. -/
def commandLine (task : Task) (columns diagnostics : Bool) (argument : String) : List String :=
  (if columns then ["--columns"] else []) ++ (if diagnostics then ["--diagnostics"] else []) ++
    task.name :: separated argument

end Task

/-- The flags for columns and diagnostics, with their switches. -/
def reportFlags (columns diagnostics : Bool) : List (String × Switch) :=
  (namedSwitches mainFace.switches).filter fun entry =>
    entry.1 = "--columns" && columns || entry.1 = "--diagnostics" && diagnostics

theorem isFlag_report (columns diagnostics : Bool) :
    ∀ flag ∈ reportFlags columns diagnostics,
      IsFlag (namedSwitches mainFace.switches) flag.1 flag.2 := by
  -- it is enough to look at the two flags together
  have hboth : ∀ flag ∈ reportFlags true true,
      IsFlag (namedSwitches mainFace.switches) flag.1 flag.2 := by
    have heq : reportFlags true true =
        [("--columns", mainFace.switches[3]), ("--diagnostics", mainFace.switches[4])] := rfl
    rw [heq, List.forall_mem_cons, List.forall_mem_singleton]
    exact ⟨⟨by decide, rfl, rfl⟩, ⟨by decide, rfl, rfl⟩⟩
  intro flag hflag
  obtain ⟨hmem, hname⟩ := List.mem_filter.mp hflag
  refine hboth flag (List.mem_filter.mpr ⟨hmem, ?_⟩)
  simp only [Bool.or_eq_true, Bool.and_eq_true] at hname ⊢
  exact hname.imp (⟨·.1, trivial⟩) (⟨·.1, trivial⟩)

/-- Arguments that name a command are understood by the interfaces of the program and of the
command. -/
theorem readArguments_of_match {arguments others : List String} {task : Task}
    {matched inner : Matched} {preferences : Preferences}
    (hmatch : mainFace.match? arguments = .ok matched)
    (hoperand : matched.operand = task.name :: others)
    (hinner : task.face.match? others = .ok inner)
    (hleftOver : matched.leftOver ++ inner.leftOver = [])
    (hpreferences : matched.preferences = .ok preferences) :
    readArguments arguments =
      .ok ⟨preferences, some task, task.request (inner.operand.headD "")⟩ := by
  simp only [readArguments, hmatch, hoperand, task.ofName?_name, hinner, hleftOver, hpreferences,
    mapError_ok, bind_ok]
  rfl

/-- **How the command line is understood.** -/
theorem readArguments_commandLine {task : Task} {described : Described}
    (h : task.slot = .argument described) (columns diagnostics : Bool) (argument : String) :
    readArguments (task.commandLine columns diagnostics argument) =
      .ok ⟨⟨columns, diagnostics, .warning⟩, some task, task.request argument⟩ := by
  have hline : task.commandLine columns diagnostics argument =
      (reportFlags columns diagnostics).map (·.1) ++ task.name :: separated argument := by
    cases columns <;> cases diagnostics <;> rfl
  have hpreferences : Matched.preferences
      { uses := (reportFlags columns diagnostics).map (⟨·.2, none⟩)
        operand := task.name :: separated argument } = .ok ⟨columns, diagnostics, .warning⟩ := by
    cases columns <;> cases diagnostics <;> rfl
  obtain ⟨pieces, hpieces, hlength, -⟩ :=
    exists_pieces_separated (namedSwitches mainFace.switches) argument
  obtain ⟨hne, hname⟩ := task.classify_name
  have hmatch := match?_flags rfl (isFlag_report columns diagnostics) hne hname hpieces hlength
  rw [← hline] at hmatch
  have hface : task.face.slot = .argument described := h
  have hunderstood :=
    readArguments_of_match hmatch rfl (match?_separated hface argument) rfl hpreferences
  exact hunderstood

end Lox.CommandLine
