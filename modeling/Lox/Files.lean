import Lox.Text.Quoted
import Lox.Text.Utf8

/-!
# Files

Paths, a folder of files, and the reading of a source text from a file.

## Main definitions

* `Path`, `Path.ofString`: paths without empty and `.` parts
* `SystemError`: the errors of the file system
* `ReadFault`: why a file cannot be read
* `ReadFault.refusal?`: the error of a lookup that is refused
* `Folder`: the files below the working directory
* `Folder.read`: the text of a file

## Main results

* `ReadFault.refusal?_eq_some_iff`: a lookup is refused if its error is not an absence
-/

namespace Lox

/-- A path: what it starts with (nothing, one slash, or two), and its parts. -/
structure Path where
  root : String
  parts : List String
deriving DecidableEq, Repr

namespace Path

/-- The path a text names. Empty parts and `.` name nothing; `..` is kept, since what it names
depends on the part before it. Exactly two slashes at the start are kept apart from one. -/
def ofString (text : String) : Path where
  root :=
    if "///".toList.isPrefixOf text.toList then "/"
    else if "//".toList.isPrefixOf text.toList then "//"
    else if "/".toList.isPrefixOf text.toList then "/"
    else ""
  parts := ((text.toList.splitOn '/').map String.ofList).filter fun part => part ≠ "" && part ≠ "."

/-- The path as text; the path without parts is the working directory. -/
def text (path : Path) : String :=
  let body := path.root ++ String.intercalate "/" path.parts
  if body.isEmpty then "." else body

end Path

/-- An error of the file system: its number and its words. -/
structure SystemError where
  number : Nat
  words : String
deriving DecidableEq, Repr

namespace SystemError

/-- The error of a path that names nothing. -/
def notFound : SystemError :=
  ⟨2, "No such file or directory"⟩

/-- The error of an access without permission: a lookup below a folder that may not be searched, or
the reading of a file that may not be read. -/
def denied : SystemError :=
  ⟨13, "Permission denied"⟩

/-- The error of a path that goes on behind a file. -/
def notFolder : SystemError :=
  ⟨20, "Not a directory"⟩

/-- The error of a folder that is read as a file. -/
def isFolder : SystemError :=
  ⟨21, "Is a directory"⟩

/-- The error of a path, or of a name in it, with too many bytes. -/
def nameTooLong : SystemError :=
  ⟨36, "File name too long"⟩

/-- The error with a number. The words given with it count only if its own are not known. -/
def ofNumber (number : Nat) (words : String) : SystemError :=
  ([notFound, denied, notFolder, isFolder, nameTooLong].find? (·.number = number)).getD
    ⟨number, words⟩

/-- The error as text, with the path it is about. -/
def text (error : SystemError) (path : Path) : String :=
  s!"[Errno {error.number}] {error.words}: {Text.quoted path.text}"

/-- Whether a lookup with this error has found nothing: there is no such file, the descriptor is
bad, the path goes on behind a file, or links lead in a circle. -/
def isAbsence (error : SystemError) : Bool :=
  error.number ∈ [2, 9, 20, 40]

end SystemError

/-- Why a file cannot be read: its lookup has an error, or what it finds cannot be opened or read, or
is no text. -/
inductive ReadFault where
  | lookup (error : SystemError)
  | access (error : SystemError)
  | undecodable (fault : Text.Utf8Fault)
deriving DecidableEq, Repr

namespace ReadFault

/-- The error by which the lookup of a file is refused, if it has not just found nothing. -/
def refusal? : ReadFault → Option SystemError
  | lookup error => if error.isAbsence then none else some error
  | access _ => none
  | undecodable _ => none

/-- A lookup is refused if its error does not mean that there is no such file. -/
theorem refusal?_eq_some_iff {fault : ReadFault} {error : SystemError} :
    fault.refusal? = some error ↔ fault = .lookup error ∧ error.isAbsence = false := by
  cases fault with
  | lookup own =>
    rw [refusal?, Option.ite_none_left_eq_some, Option.some_inj, lookup.injEq,
      Bool.not_eq_true]
    constructor
    · rintro ⟨habsence, rfl⟩
      exact ⟨rfl, habsence⟩
    · rintro ⟨rfl, habsence⟩
      exact ⟨habsence, rfl⟩
  | access | undecodable => simp [refusal?]

/-- The report of a file that is not found, or cannot be read. -/
def message (path : Path) : ReadFault → String
  | lookup _ => s!"Error: File not found: {path.text}"
  | access error => s!"Error: Cannot read {path.text}: {error.text path}"
  | undecodable fault => s!"Error: Cannot read {path.text}: {fault.message}"

end ReadFault

/-- The text of a file with the given bytes. -/
def sourceOfBytes (bytes : List UInt8) : Except ReadFault String :=
  match Text.decodeUtf8 bytes with
  | .ok text => .ok (String.ofList (Text.unifyLineEnds text))
  | .error fault => .error (.undecodable fault)

/-- What a path in a folder names. -/
inductive FolderEntry where
  | file (bytes : List UInt8)
  | folder
deriving DecidableEq, Repr

/-- The files and folders below the working directory, by the parts of their paths. The folders on
the way to an entry need no entry of their own. -/
structure Folder where
  entries : List (List String × FolderEntry)
deriving Repr

namespace Folder

/-- What the parts name, none of them being `..`. -/
def find? (folder : Folder) (parts : List String) : Option FolderEntry :=
  match folder.entries.lookup parts with
  | some entry => some entry
  | none =>
    if parts.isEmpty || folder.entries.any fun entry => parts.isPrefixOf entry.1 then some .folder
    else none

/-- The bytes a name in a folder may have. -/
def nameLimit : Nat :=
  255

/-- The bytes a path may have. -/
def pathLimit : Nat :=
  4095

/-- What the parts name from the folder `place` on. Above the working directory only folders are
known, and `none` stands for those. -/
def resolve (folder : Folder) :
    (place : Option (List String)) → List String → Except ReadFault FolderEntry
  | none, [] => .ok .folder
  | some place, [] =>
    match folder.find? place with
    | some entry => .ok entry
    | none => .error (.lookup .notFound)
  | none, part :: rest =>
    if part = ".." then folder.resolve none rest
    else .error (.lookup (if nameLimit < part.utf8ByteSize then .nameTooLong else .notFound))
  | some place, part :: rest =>
    match folder.find? place with
    | some .folder =>
      if part = ".." then
        folder.resolve (if place.isEmpty then none else some place.dropLast) rest
      else if nameLimit < part.utf8ByteSize then .error (.lookup .nameTooLong)
      else folder.resolve (some (place ++ [part])) rest
    | some (.file _) => .error (.lookup .notFolder)
    | none => .error (.lookup .notFound)

/-- The text of a file. -/
def read (folder : Folder) (path : Path) : Except ReadFault String :=
  if pathLimit < path.text.utf8ByteSize then .error (.lookup .nameTooLong)
  else do
    match ← folder.resolve (if path.root.isEmpty then some [] else none) path.parts with
    | .folder => .error (.access .isFolder)
    | .file bytes => sourceOfBytes bytes

end Folder

end Lox
