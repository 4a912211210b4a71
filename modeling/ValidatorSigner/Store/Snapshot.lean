import ValidatorSigner.Store.Disk

/-! # Snapshots

A snapshot shows all rows of a database file in an order of their own: by validator, and then by
slot or target.
-/
namespace ValidatorSigner.Store

inductive Snapshot where
  | noFile
  /-- A file in which tables are missing. -/
  | noTables
  | rows (tables : Tables)

def sortByPair {α : Type} (first second : α → Int) (rows : List α) : List α :=
  rows.mergeSort fun a b => first a < first b || (first a == first b && second a ≤ second b)

def Tables.sorted (t : Tables) : Tables :=
  { t with
    validators := sortByPair (·.id) (fun _ => 0) t.validators
    blocks := sortByPair (·.validator) (·.slot) t.blocks
    attestations := sortByPair (·.validator) (·.target) t.attestations
    watermarks := sortByPair (·.validator) (fun _ => 0) t.watermarks }

def Disk.snapshot (disk : Disk) (path : String) : Snapshot :=
  match disk.at? (FilePath.ofText path) with
  | some (.database number) =>
    match disk.databases[number]? with
    | some database => if database.missing = [] then .rows database.tables.sorted else .noTables
    | none => .noTables
  | some (.file _) => .noTables
  | some .directory | none => .noFile

end ValidatorSigner.Store
