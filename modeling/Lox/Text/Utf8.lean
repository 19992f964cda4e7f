/-!
# Decoding UTF-8

The characters that a sequence of bytes stands for, or the first place where it stands for none. A
fault covers the bytes that could have begun a character, up to the byte that cannot continue it.

## Main definitions

* `Utf8Fault`: the bytes at fault and why they are
* `decodeUtf8`: the characters of a sequence of bytes
* `unifyLineEnds`: a text with LF for each of CR LF, CR and LF
-/

namespace Lox.Text

/-- Why bytes stand for no character. -/
inductive Utf8Cause where
  | invalidStart
  | invalidContinuation
  | unexpectedEnd
deriving DecidableEq, Repr

/-- The wording of a cause. -/
def Utf8Cause.text : Utf8Cause → String
  | invalidStart => "invalid start byte"
  | invalidContinuation => "invalid continuation byte"
  | unexpectedEnd => "unexpected end of data"

/-- The bytes at fault: `length` of them from `position` on, of which `first` is the first. -/
structure Utf8Fault where
  cause : Utf8Cause
  position : Nat
  length : Nat
  first : UInt8
deriving DecidableEq, Repr

/-- The report of a fault. -/
def Utf8Fault.message (fault : Utf8Fault) : String :=
  let place :=
    if fault.length ≤ 1 then
      let digits := Nat.toDigits 16 fault.first.toNat
      let code := String.ofList (List.replicate (2 - digits.length) '0' ++ digits)
      s!"byte 0x{code} in position {fault.position}"
    else s!"bytes in position {fault.position}-{fault.position + fault.length - 1}"
  s!"'utf-8' codec can't decode {place}: {fault.cause.text}"

/-- Whether the byte continues a character. -/
def isContinuation (b : UInt8) : Bool :=
  0x80 ≤ b && b < 0xC0

/-- Whether `second` may follow the first byte `first`. Shortest forms are required, and surrogates
and values past the last code point have no form. -/
def mayFollow (first second : UInt8) : Bool :=
  isContinuation second &&
    (if first = 0xE0 then 0xA0 ≤ second
    else if first = 0xED then second < 0xA0
    else if first = 0xF0 then 0x90 ≤ second
    else if first = 0xF4 then second < 0x90
    else true)

/-- The number of bytes after a first byte, if it can be one. -/
def followers? (first : UInt8) : Option Nat :=
  if first < 0x80 then some 0
  else if first < 0xC2 then none
  else if first < 0xE0 then some 1
  else if first < 0xF0 then some 2
  else if first < 0xF5 then some 3
  else none

/-- How many of the bytes, at most `count`, continue a character with the given first byte. -/
def continuing (first : UInt8) (count : Nat) (bytes : List UInt8) : Nat :=
  match bytes.take count with
  | [] => 0
  | second :: others =>
    if mayFollow first second then 1 + (others.takeWhile isContinuation).length else 0

/-- The code point of a first byte with `count` bytes after it. -/
def codePoint (first : UInt8) (followers : List UInt8) : Nat :=
  let lead := match followers.length with
    | 0 => first.toNat
    | 1 => first.toNat % 0x20
    | 2 => first.toNat % 0x10
    | _ => first.toNat % 0x8
  followers.foldl (fun n b => n * 0x40 + b.toNat % 0x40) lead

/-- The characters of bytes that start at `position`. -/
def decodeUtf8From (position : Nat) : List UInt8 → Except Utf8Fault (List Char)
  | [] => .ok []
  | first :: rest =>
    match followers? first with
    | none => .error ⟨.invalidStart, position, 1, first⟩
    | some count =>
      let found := continuing first count rest
      if found < count then
        let cause := if rest.length ≤ found then .unexpectedEnd else .invalidContinuation
        .error ⟨cause, position, 1 + found, first⟩
      else
        (decodeUtf8From (position + 1 + count) (rest.drop count)).map
          (Char.ofNat (codePoint first (rest.take count)) :: ·)
termination_by bytes => bytes.length
decreasing_by simp only [List.length_drop, List.length_cons]; omega

/-- The characters of a sequence of bytes. -/
def decodeUtf8 (bytes : List UInt8) : Except Utf8Fault (List Char) :=
  decodeUtf8From 0 bytes

/-- The text with LF at the end of each line. -/
def unifyLineEnds : List Char → List Char
  | [] => []
  | '\r' :: '\n' :: rest => '\n' :: unifyLineEnds rest
  | c :: rest => (if c = '\r' then '\n' else c) :: unifyLineEnds rest

end Lox.Text
