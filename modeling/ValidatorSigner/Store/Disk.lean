import ValidatorSigner.Store.Database
import ValidatorSigner.Text.Utf8

/-! # Files

The signer reads key files from a directory and keeps its tables in a database file. Both lie on a
disk, a finite collection of paths. A path text is walked part by part from the root, or from a
working directory that holds nothing of its own; each part but the last has to lead to a directory.

Databases are numbered, and the paths lead to their numbers: who has opened a database goes on with
it when its path is gone.
-/
namespace ValidatorSigner.Store

/-- The parts of a path, from the root down. -/
abbrev FilePath := List String

namespace FilePath

/-- Goes on by one part: an empty part and `.` lead nowhere, and `..` leads up. -/
def enter (path : FilePath) (part : String) : FilePath :=
  if part = "" ∨ part = "." then path
  else if part = ".." then path.dropLast
  else path ++ [part]

def ofText (text : String) : FilePath :=
  (text.splitOn "/").foldl enter []

/-- The directories above a path, from the root down. -/
def ancestors (path : FilePath) : List FilePath :=
  (List.range path.length).map path.take

def size (path : FilePath) : Nat :=
  path.foldl (fun n part => n + 1 + (Text.utf8Bytes part).length) 0

end FilePath

inductive Entry where
  | directory
  | file (content : List UInt8)
  /-- The database of this number. -/
  | database (number : Nat)
deriving DecidableEq, Repr

inductive FileFault where
  | notFound
  | notADirectory
  | isADirectory
  | nameTooLong
  | nulByte
  | notText
deriving DecidableEq, Repr

def FileFault.message : FileFault → String
  | notFound => "No such file or directory (os error 2)"
  | notADirectory => "Not a directory (os error 20)"
  | isADirectory => "Is a directory (os error 21)"
  | nameTooLong => "File name too long (os error 36)"
  | nulByte => "file name contained an unexpected NUL byte"
  | notText => "stream did not contain valid UTF-8"

structure Disk where
  entries : List (FilePath × Entry) := []
  databases : List Database := []
  /-- Where the paths start that do not start at the root. -/
  workingDirectory : FilePath := ["home"]

namespace Disk

def longestName : Nat := 255

def longestText : Nat := 4095

def isTooLong (part : String) : Bool := longestName < (Text.utf8Bytes part).length

def at? (disk : Disk) (path : FilePath) : Option Entry :=
  -- The working directory and those above it are always there.
  if path.isPrefixOf disk.workingDirectory then some .directory else disk.entries.lookup path

def put (disk : Disk) (path : FilePath) (entry : Entry) : Disk :=
  { disk with entries := (path, entry) :: disk.entries.filter (·.1 ≠ path) }

def makeParents (disk : Disk) (path : FilePath) : Disk :=
  path.ancestors.foldl
    (fun disk parent => if (disk.at? parent).isSome then disk else disk.put parent .directory) disk

def remove (disk : Disk) (path : FilePath) : Disk :=
  { disk with entries := disk.entries.filter fun (other, _) => !path.isPrefixOf other }

def addDatabase (disk : Disk) (path : FilePath) (database : Database) : Disk :=
  { disk with databases := disk.databases ++ [database] }.put path
    (.database disk.databases.length)

def walk (disk : Disk) (path : FilePath) : List String → Except FileFault FilePath
  | [] => .ok path
  | part :: rest =>
    -- Nothing but a directory can be left by a further part, be it an empty one.
    match disk.at? path with
    | some .directory =>
      if isTooLong part then .error .nameTooLong else disk.walk (path.enter part) rest
    | some _ => .error .notADirectory
    | none => .error .notFound

def start (disk : Disk) (text : String) : FilePath :=
  if text.startsWith "/" then [] else disk.workingDirectory

def locate (disk : Disk) (text : String) : Except FileFault (FilePath × Entry) :=
  if '\x00' ∈ text.toList then .error .nulByte
  else if text = "" then .error .notFound
  else if longestText < (Text.utf8Bytes text).length then .error .nameTooLong
  else
    match disk.walk (disk.start text) (text.splitOn "/") with
    | .error fault => .error fault
    | .ok path =>
      match disk.at? path with
      | some entry => .ok (path, entry)
      | none => .error .notFound

/-- The names in a directory and what they stand for, in no particular order. -/
def list (disk : Disk) (text : String) : Except FileFault (List (String × Entry)) :=
  match disk.locate text with
  | .error fault => .error fault
  | .ok (path, .directory) =>
    .ok (disk.entries.filterMap fun (other, entry) =>
      match other.getLast? with
      | some name => if other.dropLast = path then some (name, entry) else none
      | none => none)
  | .ok _ => .error .notADirectory

def readEntry : Entry → Except FileFault String
  | .directory => .error .isADirectory
  | .file content =>
    match Text.ofUtf8? content with
    | some text => .ok text
    | none => .error .notText
  | .database _ => .error .notText

def readText (disk : Disk) (text : String) : Except FileFault String :=
  match disk.locate text with
  | .error fault => .error fault
  | .ok (_, entry) => readEntry entry

end Disk
end ValidatorSigner.Store
