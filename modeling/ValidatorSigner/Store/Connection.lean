import ValidatorSigner.Store.Address
import ValidatorSigner.Store.Disk

/-! # Connections

A connection is opened in two steps. The first finds the file of an address, and creates it without
content if it may. The second looks into the file and prepares it: an empty file becomes a database
without tables, and changes go to a log first from then on. A file that nobody changes, and one
that is reached without shared memory, are left as they are.

The path of a database file is simplified before the file is looked for, so directories that `..`
leaves again need not be there.
-/
namespace ValidatorSigner.Store

structure Connection where
  /-- The number of the database; none if it has no file, or an empty one. -/
  number? : Option Nat := none
  /-- The empty file that becomes the database when it is written. -/
  emptyFile? : Option FilePath := none
  readOnly : Bool := false
deriving DecidableEq, Repr

namespace Disk

def longestDatabasePath : Nat := 504

/-- The longest name of a database file with which the name of its journal can be built. -/
def longestDatabaseName : Nat := 247

/-- Goes on by one part of the path of a database file. The part has to be one that could be there:
nothing lies below a file. -/
def simplify (disk : Disk) (path : FilePath) (part : String) : Except AccessFault FilePath :=
  let next := path.enter part
  if next.length ≤ path.length then .ok next
  else
    match disk.at? path with
    -- A directory that is missing may be left again by `..`, so this is no fault yet.
    | none => .ok next
    | some .directory => if isTooLong part then .error (.database .cannotOpen) else .ok next
    | some _ => .error (.database .cannotOpen)

def databasePath (disk : Disk) (text : String) : Except AccessFault FilePath := do
  let path ← (text.splitOn "/").foldlM disk.simplify (disk.start text)
  if path = [] ∨ longestDatabasePath < path.size then .error (.database .cannotOpen) else .ok path

/-- Finds the file of an address, or creates it without content; none if the database is to be kept
in memory. -/
def reach (disk : Disk) (address : Address) : Except AccessFault (Option FilePath × Disk) :=
  if address.isVolatile then .ok (none, disk)
  else
    match disk.databasePath (Text.lenientText address.path) with
    | .error fault => .error fault
    | .ok path =>
      match disk.at? path, disk.at? path.dropLast with
      | some .directory, _ =>
        if address.access = .readOnly then .error (Address.refusal 266 "disk I/O error")
        else .error (.database .cannotOpen)
      | some _, _ => .ok (some path, disk)
      | none, some .directory =>
        if address.access = .create then .ok (some path, disk.put path (.file []))
        else .error (.database .cannotOpen)
      | none, _ => .error (.database .cannotOpen)

def begin (disk : Disk) (address : Address) (path : FilePath) :
    Except AccessFault (Connection × Disk) :=
  if address.immutable then .ok ({ readOnly := true }, disk)
  else if address.fileSystem = .unshared then
    .ok ({ emptyFile? := some path, readOnly := address.access = .readOnly }, disk)
  else if address.access = .readOnly then .error (.database .readOnly)
  else if longestDatabaseName < (Text.utf8Bytes (path.getLastD "")).length then
    .error (.database .cannotOpen)
  else
    .ok ({ number? := some disk.databases.length },
      disk.addDatabase path { Database.blank with writeAhead := true })

def resume (disk : Disk) (address : Address) (number : Nat) (database : Database) :
    Except AccessFault (Connection × Disk) :=
  let connection : Connection :=
    { number? := some number, readOnly := address.immutable || address.access = .readOnly }
  if address.immutable then .ok (connection, disk)
  else if address.fileSystem = .unshared then
    if database.writeAhead then .error (.database .cannotOpen) else .ok (connection, disk)
  else if database.writeAhead then .ok (connection, disk)
  else if connection.readOnly then .error (.database .readOnly)
  else .ok (connection,
    { disk with databases := disk.databases.set number { database with writeAhead := true } })

def prepare (disk : Disk) (address : Address) (file? : Option FilePath) :
    Except AccessFault (Connection × Disk) :=
  match file? with
  | none => .ok ({ readOnly := address.access = .readOnly }, disk)
  | some path =>
    match disk.at? path with
    | some (.file []) => disk.begin address path
    | some (.database number) =>
      match disk.databases[number]? with
      | some database => disk.resume address number database
      | none => .error (.database .cannotOpen)
    | some (.file _) => .error (Address.refusal 26 "file is not a database")
    | _ => .error (.database .cannotOpen)

def read (disk : Disk) (connection : Connection) : Database :=
  let database := (connection.number?.bind fun number => disk.databases[number]?).getD .blank
  { database with readOnly := connection.readOnly }

def write (disk : Disk) (connection : Connection) (database : Database) : Disk × Connection :=
  let database := { database with readOnly := false }
  match connection.number?, connection.emptyFile? with
  | some number, _ =>
    ({ disk with databases := disk.databases.set number database }, connection)
  | none, some path =>
    -- The file stays empty until there is something to write.
    if database = .blank then (disk, connection)
    else
      (disk.addDatabase path database,
        { connection with number? := some disk.databases.length, emptyFile? := none })
  -- Nothing is kept of a database without a file.
  | none, none => (disk, connection)

end Disk
end ValidatorSigner.Store
