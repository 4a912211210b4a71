import ValidatorSigner.Keys.Signer

/-! # Directories of keys

Every YAML file of a directory describes one key. All descriptions are read before the first
signer is made, both in the order of the file names.
-/
namespace ValidatorSigner.Keys

open Store

/-- The part of a file name behind its last dot, if there is something before that dot. -/
def extension? (name : String) : Option String :=
  let parts := name.splitOn "."
  match parts.reverse with
  | last :: (_ :: _ :: _) => some last
  | [last, first] => if first = "" then none else some last
  | _ => none

def isDescription (name : String) : Bool :=
  match extension? name with
  | some ext =>
    let ext := String.ofList (ext.toList.map Char.toLower)
    ext = "yaml" || ext = "yml"
  | none => false

def isFile : Entry → Bool
  | .directory => false
  | _ => true

def join (directory name : String) : String :=
  -- A name that starts at the root needs no directory.
  if name.startsWith "/" then name
  else if directory.endsWith "/" then directory ++ name
  else directory ++ "/" ++ name

def nameBefore (a b : String × Entry) : Bool :=
  !decide (Text.utf8Bytes b.1 < Text.utf8Bytes a.1)

/-- The files of a listing that describe keys, by name. -/
def descriptions (listing : List (String × Entry)) : List (String × Entry) :=
  (listing.filter fun (name, entry) => isDescription name && isFile entry).mergeSort nameBefore

def readSource (path : String) (content : Except FileFault String) : Except KeyError KeySource :=
  match content with
  | .error fault => .error (.unreadable path fault)
  | .ok text =>
    match KeySource.ofYaml text with
    | .ok source => .ok source
    | .error fault => .error (.malformed path fault)

def readSources (directory : String) (listing : List (String × Entry)) :
    Except KeyError (List (String × KeySource)) :=
  (descriptions listing).mapM fun (name, entry) => do
    let path := join directory name
    return (path, ← readSource path (Disk.readEntry entry))

def KeyRing.addSources (fetcher : Option Fetcher) :
    KeyRing → List KeySource → Except KeyError KeyRing
  | ring, [] => .ok ring
  | ring, source :: rest => do
    addSources fetcher (← ring.add (← source.signer fetcher)) rest

def KeyRing.ofListing (directory : String) (listing : List (String × Entry)) :
    Except KeyError KeyRing := do
  KeyRing.addSources none {} ((← readSources directory listing).map (·.2))

end ValidatorSigner.Keys

namespace ValidatorSigner.Store.Disk

open Keys

def keyListing (disk : Disk) (directory : String) : Except KeyError (List (String × Entry)) :=
  match disk.list directory with
  | .ok listing => .ok listing
  | .error fault => .error (.unreadable directory fault)

def keySources (disk : Disk) (directory : String) : Except KeyError (List (String × KeySource)) :=
  disk.keyListing directory >>= readSources directory

def keySource (disk : Disk) (path : String) : Except KeyError KeySource :=
  readSource path (disk.readText path)

def keyRing (disk : Disk) (directory : String) : Except KeyError KeyRing :=
  disk.keyListing directory >>= KeyRing.ofListing directory

end ValidatorSigner.Store.Disk
