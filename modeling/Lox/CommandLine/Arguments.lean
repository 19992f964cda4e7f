import Lox.CommandLine.Interface
import Lox.Text.Blank
import Lox.Text.Digit
import Lox.Text.Quoted

/-!
# Matching arguments

The arguments of a program are matched against its interface. An argument that starts with a hyphen
is a switch, unless it is a negative number, contains a space, or stands behind `--`. A long switch
may be shortened as long as no other one is meant, and may hold its argument after an equals sign; a
short one may hold it right behind its letter, and short switches without arguments may share a
hyphen. What matches nothing is left over.

## Main definitions

* `Piece`, `classify`: what an argument looks like
* `Halt`: why the matching ends early
* `Matched`: the result of matching
* `Interface.match?`: the matching of arguments
-/

namespace Lox.CommandLine

/-- A switch whose argument a program cannot do without. -/
inductive NeededSwitch where
  | logLevel
  | source
deriving DecidableEq, Repr

/-- The name of a needed switch. -/
def NeededSwitch.name : NeededSwitch → String
  | logLevel => "--log-level"
  | source => "--source"

/-- Why the matching ends early: the help or the version is asked for, the arguments are refused, or
a needed switch has no argument. -/
inductive Halt where
  | help
  | version
  | refused (message : String)
  | unfilled (needed : NeededSwitch)
deriving DecidableEq, Repr

/-- What an argument looks like: the separator `--`, a plain argument, a switch by one of its names
with what is attached to it, or an unknown switch. -/
inductive Piece where
  | separator
  | plain (text : String)
  | switch (switch : Switch) (name : String) (attached : Option String)
  | unknown (text : String)
deriving DecidableEq, Repr

/-- All switches by their names. -/
def namedSwitches (switches : List Switch) : List (String × Switch) :=
  switches.flatMap fun switch => switch.names.map (·, switch)

/-- Whether the text without its hyphen is an unsigned decimal number; a line end may follow. -/
def isUnsigned (text : List Char) : Bool :=
  let digits (cs : List Char) : Bool := cs.all fun c => (Text.digitValue? c).isSome
  let whole := text.takeWhile (· ≠ '.')
  match text.dropWhile (· ≠ '.') with
  | [] => !whole.isEmpty && digits whole
  | _ :: fraction => digits whole && !fraction.isEmpty && digits fraction

/-- Whether the argument is a negative number. -/
def isNegativeNumber (text : List Char) : Bool :=
  match text with
  | '-' :: rest => isUnsigned rest || (rest.getLast? = some '\n' && isUnsigned rest.dropLast)
  | _ => false

/-- The text before and after the first equals sign, if there is one. -/
def splitEquals (text : String) : String × Option String :=
  let cs := text.toList
  match cs.dropWhile (· ≠ '=') with
  | [] => (text, none)
  | _ :: after => (String.ofList (cs.takeWhile (· ≠ '=')), some (String.ofList after))

/-- What an argument with a long name can mean: each switch it is the beginning of. -/
def longReadings (named : List (String × Switch)) (text : String) : List Piece :=
  let (start, attached) := splitEquals text
  (named.filter fun entry => start.toList.isPrefixOf entry.1.toList).map fun entry =>
    .switch entry.2 entry.1 attached

/-- What an argument with a single hyphen can mean: a short switch with its argument attached, or
the beginning of a name. -/
def shortReadings (named : List (String × Switch)) (text : String) : List Piece :=
  named.filterMap fun entry =>
    if entry.1.toList = text.toList.take 2 then
      some (.switch entry.2 entry.1 (String.ofList (text.toList.drop 2)))
    else if text.toList.isPrefixOf entry.1.toList then some (.switch entry.2 entry.1 none)
    else none

/-- What an argument that is no exact name can mean. -/
def readings (named : List (String × Switch)) (text : String) : List Piece :=
  if "--".toList.isPrefixOf text.toList then longReadings named text
  else shortReadings named text

/-- The names a list of readings goes by. -/
def readingNames (pieces : List Piece) : List String :=
  pieces.filterMap fun
    | .switch _ name _ => some name
    | _ => none

/-- An argument that starts with a hyphen and is no exact name. -/
def classifyInexact (named : List (String × Switch)) (text : String) : Except Halt Piece :=
  match readings named text with
  | [piece] => .ok piece
  | [] =>
    if isNegativeNumber text.toList || ' ' ∈ text.toList then .ok (.plain text)
    else .ok (.unknown text)
  | pieces =>
    let meant := String.intercalate ", " (readingNames pieces)
    .error (.refused s!"ambiguous option: {text} could match {meant}")

/-- What an argument before the separator looks like. -/
def classify (named : List (String × Switch)) (text : String) : Except Halt Piece :=
  if text.toList.head? ≠ some '-' then .ok (.plain text)
  else
    match named.lookup text with
    | some switch => .ok (.switch switch text none)
    | none =>
      if text = "-" then .ok (.plain text)
      else
        match splitEquals text with
        | (name, some attached) =>
          match named.lookup name with
          | some switch => .ok (.switch switch name (some attached))
          | none => classifyInexact named text
        | (_, none) => classifyInexact named text

/-- What the arguments look like; behind the separator all are plain. -/
def classifyAll (named : List (String × Switch)) : List String → Except Halt (List Piece)
  | [] => .ok []
  | text :: rest =>
    if text = "--" then .ok (.separator :: rest.map .plain)
    else do
      let piece ← classify named text
      let pieces ← classifyAll named rest
      return piece :: pieces

/-- A use of a switch, with its argument if it takes one. Even then the argument may be missing. -/
structure Use where
  switch : Switch
  argument : Option String
deriving DecidableEq, Repr

/-- The result of matching: the uses of switches in order, the arguments that fill the operand, and
the arguments left over. -/
structure Matched where
  uses : List Use := []
  operand : List String := []
  leftOver : List String := []
deriving DecidableEq, Repr

/-- The refusal of an argument. -/
def refuse {α : Type} (title message : String) : Except Halt α :=
  .error (.refused s!"argument {title}: {message}")

/-- The refusal of an argument that is attached to a switch without arguments. -/
def refuseAttached {α : Type} (switch : Switch) (attached : String) : Except Halt α :=
  refuse switch.title s!"ignored explicit argument {Text.quoted attached}"

/-- The refusal of a word that is not one of several. -/
def refuseChoice {α : Type} (title word : String) (words : List String) : Except Halt α :=
  let choices := String.intercalate ", " (words.map Text.quoted)
  refuse title s!"invalid choice: {Text.quoted word} (choose from {choices})"

/-- The argument that a text attached to a switch gives it. An attached separator gives none. -/
def attachedArgument (text : List Char) : Option String :=
  if text = "--".toList then none else some (String.ofList text)

/-- The uses in an argument that holds more than a switch, and the switch that still needs the next
argument. The letters of short switches without arguments are followed by another switch. -/
def cluster (named : List (String × Switch)) (switch : Switch) (name : String) :
    List Char → Except Halt (List Use × Option Switch)
  | [] =>
    match switch.takes.label? with
    | some _ => .ok ([⟨switch, some ""⟩], none)
    | none => refuseAttached switch ""
  | letter :: rest =>
    match switch.takes.label?, named.lookup (String.ofList ['-', letter]) with
    | some _, _ => .ok ([⟨switch, attachedArgument (letter :: rest)⟩], none)
    | none, none => refuseAttached switch (String.ofList (letter :: rest))
    | none, some other =>
      if "--".toList.isPrefixOf name.toList then
        refuseAttached switch (String.ofList (letter :: rest))
      else if rest.isEmpty then
        match other.takes.label? with
        | some _ => .ok ([⟨switch, none⟩], some other)
        | none => .ok ([⟨switch, none⟩, ⟨other, none⟩], none)
      else do
        let (uses, open?) ← cluster named other (String.ofList ['-', letter]) rest
        return (⟨switch, none⟩ :: uses, open?)

/-- Whether the character may stand at the ends of an integer: a blank, but no information
separator. -/
def isIntegerBlank (c : Char) : Bool :=
  Text.isBlank c && !('\x1c' ≤ c && c ≤ '\x1f')

/-- The most digits an integer may have. -/
def mostDigits : Nat :=
  4300

/-- The integer a text names: digits of any script, but not too many, single underscores between
them, a sign, and blanks at the ends. -/
def readInteger? (text : String) : Option Int :=
  let body := ((text.toList.dropWhile isIntegerBlank).reverse.dropWhile isIntegerBlank).reverse
  let (negative, digits) := match body with
    | '-' :: rest => (true, rest)
    | '+' :: rest => (false, rest)
    | rest => (false, rest)
  let runs := String.ofList digits |>.splitOn "_"
  if runs.any (·.isEmpty) then none
  else do
    let values ← (digits.filter (· ≠ '_')).mapM Text.digitValue?
    let size : Nat := values.foldl (fun n d => 10 * n + d) 0
    if mostDigits < values.length then none
    else if negative then some (-(size : Int))
    else some size

/-- The effect of a use: the help and the version end the matching, and an argument has to be of its
kind. -/
def Use.check (used : Use) : Except Halt Unit :=
  match used.switch.takes, used.argument with
  | .help, _ => .error .help
  | .version, _ => .error .version
  | .oneOf words, some word =>
    if word ∈ words then .ok () else refuseChoice used.switch.title word words
  | .integer _, some word =>
    if (readInteger? word).isSome then .ok ()
    else refuse used.switch.title s!"invalid int value: {Text.quoted word}"
  | _, _ => .ok ()

/-- The effects of uses, in order. -/
def checkUses : List Use → Except Halt Unit
  | [] => .ok ()
  | used :: rest => do
    used.check
    checkUses rest

/-- An argument with what it looks like. -/
abbrev Item := String × Piece

/-- The arguments that fill the operand, at the start of the items, and the number of items they are
after the first. An argument may stand behind the separator, and one separator behind it belongs to
it; a command takes all that follows. -/
def Slot.take? : Slot → List Item → Option (List String × Nat)
  | argument _, (_, .separator) :: (text, .plain _) :: _ => some ([text], 1)
  | argument _, (text, .plain _) :: (_, .separator) :: _ => some ([text], 1)
  | argument _, (text, .plain _) :: _ => some ([text], 0)
  | command .., (dashes, .separator) :: (text, .plain _) :: rest =>
    some (dashes :: text :: rest.map (·.1), 1 + rest.length)
  | command .., (text, .plain _) :: rest => some (text :: rest.map (·.1), rest.length)
  | _, _ => none

/-- The uses in a switch argument, and the switch that needs the next argument. -/
def switchUses (named : List (String × Switch)) (switch : Switch) (name : String) :
    Option String → Except Halt (List Use × Option Switch)
  | some text => cluster named switch name text.toList
  | none =>
    match switch.takes.label? with
    | some _ => .ok ([], some switch)
    | none => .ok ([⟨switch, none⟩], none)

/-- The use of a switch that needs the next argument, which has to be a plain one. -/
def takeNext (switch : Switch) : List Item → Except Halt Use
  | (text, .plain _) :: _ => .ok ⟨switch, some text⟩
  | _ => refuse switch.title "expected one argument"

/-- The matching of items, when `slot` is the operand that is still open. -/
def matchItems (named : List (String × Switch)) (slot : Slot) : List Item → Except Halt Matched
  | [] => .ok {}
  | (_, .switch switch name attached) :: rest => do
    let (uses, open?) ← switchUses named switch name attached
    let more ← open?.toList.mapM fun last => takeNext last rest
    checkUses (uses ++ more)
    let later ← matchItems named slot (rest.drop more.length)
    return { later with uses := uses ++ more ++ later.uses }
  | (text, .unknown _) :: rest => do
    let later ← matchItems named slot rest
    return { later with leftOver := text :: later.leftOver }
  | (text, piece) :: rest =>
    match slot.take? ((text, piece) :: rest) with
    | some (operand, count) => do
      let later ← matchItems named .empty (rest.drop count)
      return { later with operand := operand ++ later.operand }
    | none => do
      let later ← matchItems named slot rest
      return { later with leftOver := text :: later.leftOver }
termination_by items => items.length
decreasing_by all_goals simp only [List.length_drop, List.length_cons]; omega

/-- The matching of arguments. -/
def Interface.match? (face : Interface) (arguments : List String) : Except Halt Matched := do
  let named := namedSwitches face.switches
  let pieces ← classifyAll named arguments
  let matched ← matchItems named face.slot (arguments.zip pieces)
  match face.slot with
  | .argument described =>
    if matched.operand.isEmpty then
      throw (.refused s!"the following arguments are required: {described.name}")
    else return matched
  | _ => return matched

namespace Matched

/-- Whether a switch is used. -/
def has (matched : Matched) (name : String) : Bool :=
  matched.uses.any fun used => name ∈ used.switch.names

/-- The argument of the last use of a switch, if it is used; the argument itself may be missing. -/
def last? (matched : Matched) (name : String) : Option (Option String) :=
  (matched.uses.reverse.find? fun used => name ∈ used.switch.names).map (·.argument)

end Matched

end Lox.CommandLine
