import ValidatorSigner.Store.Location

/-! # Addresses of databases

A location is turned into an address, which tells the path of the file, what may be done with it,
and by which file system it is reached. A name that begins with `file:` is written in a form of its
own: an authority, a path and options, in all of which a byte may be written as a percent sign and
two digits. Of a part in which a zero byte is written only what stands before it counts.
-/
namespace ValidatorSigner.Store

inductive FileAccess where
  | undecided
  | readOnly
  | readWrite
  /-- Reading and writing, and creating the file if it is not there. -/
  | create
deriving DecidableEq, Repr

def FileAccess.rank : FileAccess → Nat
  | undecided => 0
  | readOnly => 1
  | readWrite => 2
  | create => 6

inductive FileSystem where
  | ordinary
  /-- Connections share no memory, so no log is written ahead. -/
  | unshared
  /-- Files are kept in memory, and go with the connection. -/
  | memory
deriving DecidableEq, Repr

def FileSystem.ofName? (name : String) : Option FileSystem :=
  if name = "unix" ∨ name = "unix-excl" then some ordinary
  else if name = "unix-none" ∨ name = "unix-dotfile" then some unshared
  else if name = "memdb" then some memory
  else none

structure Address where
  /-- The bytes of the path, still as they were written. -/
  path : List UInt8
  access : FileAccess
  inMemory : Bool
  /-- Whether nobody changes the file while it is open. -/
  immutable : Bool := false
  fileSystem : FileSystem := .ordinary
deriving DecidableEq, Repr

namespace Address

def refusal (code : Nat) (text : String) : AccessFault :=
  .database (.reported (some (toString code)) s!"(code: {code}) {text}")

def upToNul (bytes : List UInt8) : List UInt8 := bytes.takeWhile (· ≠ 0)

def readPart (text : List Char) : List UInt8 :=
  upToNul (Text.Percent.decode (Text.utf8Bytes (String.ofList text)))

def cut (c : Char) (text : List Char) : List Char × List Char :=
  (text.takeWhile (· ≠ c), (text.dropWhile (· ≠ c)).drop 1)

def readOptions (text : List Char) : List (String × List UInt8) :=
  ((String.ofList text).splitOn "&").filterMap fun option =>
    let (name, value) := cut '=' option.toList
    let name := readPart name
    -- An option without a name is left out, though not one without a value.
    if name = [] then none else some (Text.lenientText name, readPart value)

/-- The whole number at the beginning of a text, in base ten or sixteen; zero if there is none, or
if it needs more than 31 bits. -/
def leadingNumber (bytes : List UInt8) : Nat :=
  let digits (base : Nat) (bytes : List UInt8) : List Nat :=
    (bytes.map Text.Hex.digitValue?).takeWhile (fun d => d.any (· < base)) |>.filterMap id
  let value (base : Nat) (digits : List Nat) : Nat := digits.foldl (fun n d => base * n + d) 0
  let decimal := digits 10 bytes
  let n := match bytes with
    | 48 :: mark :: rest =>
      if (mark = 120 ∨ mark = 88) ∧ digits 16 rest ≠ [] then value 16 (digits 16 rest)
      else value 10 decimal
    | _ => value 10 decimal
  if n < 1 <<< 31 then n else 0

def isYes (value : List UInt8) : Bool :=
  let word := String.ofList ((Text.lenientText value).toList.map Char.toLower)
  -- Of a number, the lowest byte decides.
  word = "on" || word = "yes" || word = "true" || leadingNumber value % 256 ≠ 0

def isSet (options : List (String × List UInt8)) (name : String) : Bool :=
  (options.lookup name).any isYes

/-- Applies the option for the access, which may not allow more than before. -/
def applyMode (address : Address) (value : String) : Except AccessFault Address :=
  -- A database in memory allows every access.
  let limit := address.access.rank + if address.inMemory then 128 else 0
  let restrict (access : FileAccess) : Except AccessFault Address :=
    if limit < access.rank then .error (refusal 3 ("access mode not allowed: " ++ value))
    else .ok { address with access, inMemory := false }
  match value with
  | "ro" => restrict .readOnly
  | "rw" => restrict .readWrite
  | "rwc" => restrict .create
  | "memory" => .ok { address with access := .undecided, inMemory := true }
  | _ => .error (refusal 1 ("no such access mode: " ++ value))

def applyOption (address : Address) (option : String × List UInt8) : Except AccessFault Address :=
  let value := Text.lenientText option.2
  if option.1 = "mode" then address.applyMode value
  else if option.1 = "cache" ∧ value ≠ "shared" ∧ value ≠ "private" then
    .error (refusal 1 ("no such cache mode: " ++ value))
  else .ok address

def via (address : Address) : Option String → Except AccessFault Address
  | none => .ok address
  | some name =>
    match FileSystem.ofName? name with
    | some fileSystem => .ok { address with fileSystem }
    | none => .error (refusal 1 ("no such vfs: " ++ name))

/-- Applies the options of a name: first the access, then the file system, which is the last one
that is given, and then what there is to say about the file. -/
def applyOptions (address : Address) (options : List (String × List UInt8)) :
    Except AccessFault Address := do
  let address ← options.foldlM applyOption address
  let named := (options.reverse.lookup "vfs").map Text.lenientText
  let address ← address.via named
  let isUnshared := address.fileSystem = .ordinary ∧ isSet options "nolock"
  return { address with
    immutable := isSet options "immutable"
    fileSystem := if isUnshared then .unshared else address.fileSystem }

/-- Takes the authority off, which can only be this computer. -/
def dropAuthority (text : List Char) : Except AccessFault (List Char) :=
  match text with
  | '/' :: '/' :: rest =>
    let authority := rest.takeWhile (· ≠ '/')
    if authority = [] ∨ authority = "localhost".toList then .ok (rest.drop authority.length)
    else .error (refusal 1 ("invalid uri authority: " ++ String.ofList authority))
  | _ => .ok text

def ofReference (address : Address) (text : List Char) : Except AccessFault Address := do
  let text ← dropAuthority text
  let (path, options) := cut '?' (cut '#' text).1
  { address with path := readPart path }.applyOptions (readOptions options)

def initialAccess (create : Bool) (location : Location) : FileAccess :=
  if location.readOnly then .readOnly else if create then .create else .readWrite

/-- What a blank in the name of a file system becomes on its way. -/
def fileSystemName (name : String) : String :=
  Text.lenientText (upToNul (Text.utf8Bytes name) |>.map fun byte => if byte = 32 then 43 else byte)

def ofLocation (create : Bool) (location : Location) : Except AccessFault Address :=
  let bytes := Text.utf8Bytes location.name
  let address : Address :=
    { path := upToNul bytes, access := initialAccess create location
      inMemory := location.inMemory, immutable := location.immutable }
  -- With one of these settings the name is taken as it stands, even if it begins with `file:`.
  if location.immutable ∨ location.fileSystem?.isSome then
    address.via (location.fileSystem?.map fileSystemName)
  else if 0 ∈ bytes then
    .error (.communication "filename passed to SQLite must not contain nul bytes")
  else
    match location.name.toList with
    | 'f' :: 'i' :: 'l' :: 'e' :: ':' :: rest => address.ofReference rest
    | _ => .ok address

/-- Whether the database is kept in memory, and nothing of it stays. -/
def isVolatile (address : Address) : Bool :=
  address.inMemory || address.path = [] || address.path = ":memory:".toUTF8.toList ||
    address.fileSystem = .memory

end Address
end ValidatorSigner.Store
