import ValidatorSigner.Store.Database

/-! # Transactions

A transaction reads and changes a database or ends in an error. An error carries no database, so
whoever runs the transaction goes on with the one it had before: nothing of a failed transaction
stays.
-/
namespace ValidatorSigner.Store

/-- A body that runs between the beginning and the end of one transaction. -/
abbrev Transaction (α : Type) := StateT Database (Except StorageError) α

/-- The first number that does not fit a signed 64-bit column. -/
def storeBound : Nat := 1 <<< 63

def toColumn (quantity : Quantity) (value : Nat) : Except StorageError Int :=
  if value < storeBound then .ok value else .error (.outOfRange quantity value)

def ofColumn (table : Table) (value : Int) : Except StorageError Nat :=
  if 0 ≤ value then .ok value.toNat else .error (.corrupt table s!"negative value {value}")

def rootOfColumn (table : Table) (bytes : List UInt8) : Except StorageError Root :=
  match FixedBytes.ofBytes .root bytes with
  | .ok root => .ok root
  | .error e => .error (.corrupt table e.message)

namespace Transaction

variable {α : Type}

def lift (x : Except StorageError α) : Transaction α := fun db => x.map fun a => (a, db)

def fault (f : DatabaseFault) : Transaction α := fun _ => .error (.ofDatabase f)

/-- Reads the tables, once the table in question is known to be there. -/
def reading (table : Table) (read : Tables → Except StorageError α) : Transaction α := fun db =>
  if table ∈ db.missing then .error (.ofDatabase (.missingTable table))
  else (read db.tables).map fun a => (a, db)

/-- Changes the tables, once the table in question is known to be there and writing is allowed. -/
def writing (table : Table) (write : Tables → Except StorageError (α × Tables)) : Transaction α :=
  fun db =>
    if table ∈ db.missing then .error (.ofDatabase (.missingTable table))
    else if db.readOnly then .error (.ofDatabase .readOnly)
    else (write db.tables).map fun (a, tables) => (a, { db with tables := tables })

end Transaction

/-- How an insertion that may meet a row with the same unique columns ends. -/
inductive Insertion where
  | inserted
  | conflict
deriving DecidableEq, Repr

def Insertion.ofFault : DatabaseFault → Except StorageError Insertion
  -- A duplicate is an answer, and not an error.
  | .duplicate _ => .ok .conflict
  | .foreignKey => .error (.constraint DatabaseFault.foreignKey.summary)
  | .epochOrder => .error (.constraint DatabaseFault.epochOrder.summary)
  | fault => .error (.ofDatabase fault)

end ValidatorSigner.Store
