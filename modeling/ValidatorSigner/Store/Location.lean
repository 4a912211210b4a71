import ValidatorSigner.Store.Fault
import ValidatorSigner.Text.Percent
import ValidatorSigner.Text.Utf8

/-! # Database locations

A location names a database file, or asks for a database in memory, and may carry settings after
a question mark. What the location says about creating the file yields to the parameters of the
connection.
-/
namespace ValidatorSigner.Store

structure Location where
  name : String
  inMemory : Bool := false
  readOnly : Bool := false
  /-- Whether nobody changes the file while it is open. -/
  immutable : Bool := false
  /-- The way to reach files, if not the ordinary one. -/
  fileSystem? : Option String := none
deriving DecidableEq, Repr

namespace Location

/-- Drops a leading text as often as it is there. -/
def dropLead (lead : List Char) (chars : List Char) : List Char :=
  if lead ≠ [] ∧ lead.isPrefixOf chars then dropLead lead (chars.drop lead.length) else chars
termination_by chars.length
decreasing_by
  rename_i h
  have hp := List.isPrefixOf_iff_prefix.1 h.2
  have hl := hp.length_le
  have h0 : 0 < lead.length := List.length_pos_iff.2 h.1
  simp only [List.length_drop]
  omega

/-- A name or value in the settings, where a plus sign stands for a blank. -/
def settingText (text : String) : String :=
  Text.lenientText (Text.Percent.decode
    ((Text.utf8Bytes text).map fun byte => if byte = 43 then 32 else byte))

def splitSettings (text : String) : List (String × String) :=
  ((text.splitOn "&").filter (· ≠ "")).map fun pair =>
    match pair.splitOn "=" with
    | [] => ("", "")
    | name :: rest => (settingText name, settingText ("=".intercalate rest))

def unknownValue (name value : String) : AccessFault :=
  .settings ("unknown value " ++ Text.quoted value ++ " for \x60" ++ name ++ "\x60")

def applySetting (location : Location) : String × String → Except AccessFault Location
  | ("mode", value) =>
    match value with
    | "ro" => .ok { location with readOnly := true }
    | "rw" | "rwc" => .ok location
    | "memory" => .ok { location with inMemory := true }
    | other => .error (unknownValue "mode" other)
  | ("cache", value) =>
    if value = "private" ∨ value = "shared" then .ok location
    else .error (unknownValue "cache" value)
  | ("immutable", value) =>
    if value = "true" ∨ value = "1" then .ok { location with immutable := true }
    else if value = "false" ∨ value = "0" then .ok { location with immutable := false }
    else .error (unknownValue "immutable" value)
  | ("vfs", value) => .ok { location with fileSystem? := some value }
  | (name, _) =>
    .error (.settings
      ("unknown query parameter \x60" ++ name ++ "\x60 while parsing connection URL"))

/-- The location of a name, before any setting. -/
def ofName (name : String) : Except AccessFault Location :=
  if name = ":memory:" then .ok { name := "", inMemory := true }
  else
    match Text.readUtf8 (Text.Percent.decode (Text.utf8Bytes name)) with
    | .ok name => .ok { name }
    | .error fault => .error (.settings fault.message)

def ofUrl (url : String) : Except AccessFault Location := do
  let chars := dropLead "sqlite:".toList (dropLead "sqlite://".toList url.toList)
  let location ← ofName (String.ofList (chars.takeWhile (· ≠ '?')))
  (splitSettings (String.ofList ((chars.dropWhile (· ≠ '?')).drop 1))).foldlM applySetting location

end Location
end ValidatorSigner.Store
