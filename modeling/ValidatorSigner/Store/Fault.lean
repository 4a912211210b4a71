import ValidatorSigner.Text.Numeral

/-! # What can go wrong in the store

Faults come in two layers. An access fault is reported by the connection to the database; a
storage error is what a table operation makes of it, or finds by itself in a value or a row. Only
faults that may pass by themselves make it worth running a transaction again.
-/
namespace ValidatorSigner.Store

inductive Table where
  | validators
  | signedBlocks
  | signedAttestations
  | lowWatermarks
  | metadata
  | databaseVersion
deriving DecidableEq, Repr

namespace Table

def name : Table → String
  | validators => "validators"
  | signedBlocks => "signed_blocks"
  | signedAttestations => "signed_attestations"
  | lowWatermarks => "low_watermarks"
  | metadata => "metadata"
  | databaseVersion => "database_version"

def all : List Table :=
  [validators, signedBlocks, signedAttestations, lowWatermarks, metadata, databaseVersion]

def uniqueColumns : Table → String
  | validators => "validators.public_key"
  | signedBlocks => "signed_blocks.validator_id, signed_blocks.slot"
  | signedAttestations => "signed_attestations.validator_id, signed_attestations.target_epoch"
  | lowWatermarks => "low_watermarks.validator_id"
  | metadata => "metadata.id"
  | databaseVersion => "database_version.id"

end Table

inductive Quantity where
  | slot
  | sourceEpoch
  | targetEpoch
  | batchSize
deriving DecidableEq, Repr

def Quantity.name : Quantity → String
  | slot => "slot"
  | sourceEpoch => "source_epoch"
  | targetEpoch => "target_epoch"
  | batchSize => "batch_size"

inductive DatabaseFault where
  /-- Another connection holds the write lock. -/
  | locked
  | readOnly
  | cannotOpen
  | missingTable (table : Table)
  /-- A row names a validator that is not registered. -/
  | foreignKey
  /-- The source of an attestation lies after its target. -/
  | epochOrder
  /-- A row with these unique columns is present. -/
  | duplicate (table : Table)
  /-- Any other error, with the code as a text. -/
  | reported (code : Option String) (text : String)
deriving DecidableEq, Repr

namespace DatabaseFault

def code? : DatabaseFault → Option String
  | locked => some "5"
  | readOnly => some "8"
  | cannotOpen => some "14"
  | missingTable _ => some "1"
  | foreignKey => some "787"
  | epochOrder => some "275"
  | duplicate _ => some "2067"
  | reported code _ => code

def summary : DatabaseFault → String
  | locked => "database is locked"
  | readOnly => "attempt to write a readonly database"
  | cannotOpen => "unable to open database file"
  | missingTable table => "no such table: " ++ table.name
  | foreignKey => "FOREIGN KEY constraint failed"
  | epochOrder => "CHECK constraint failed: source_epoch <= target_epoch"
  | duplicate table => "UNIQUE constraint failed: " ++ table.uniqueColumns
  | reported _ text => text

def text (fault : DatabaseFault) : String :=
  match fault with
  | reported _ text => text
  -- Faults that the store knows carry their code.
  | _ => "(code: " ++ fault.code?.getD "" ++ ") " ++ fault.summary

def number? (fault : DatabaseFault) : Option Int :=
  fault.code?.bind fun code => Text.readSigned (1 <<< 31) code.toList

/-- Contention, told by the low byte of the code. -/
def isContention (fault : DatabaseFault) : Bool :=
  match fault.number? with
  | some n => n % 256 == 5 || n % 256 == 6
  | none => false

end DatabaseFault

inductive AccessFault where
  | database (fault : DatabaseFault)
  | poolTimedOut
  | poolClosed
  | workerCrashed
  | rowMissing
  | communication (text : String)
  | invalidData (text : String)
  | settings (text : String)
deriving DecidableEq, Repr

namespace AccessFault

def message : AccessFault → String
  | database fault => "error returned from database: " ++ fault.text
  | poolTimedOut => "pool timed out while waiting for an open connection"
  | poolClosed => "attempted to acquire a connection on a closed pool"
  | workerCrashed => "attempted to communicate with a crashed background worker"
  | rowMissing => "no rows returned by a query that expected to return at least one row"
  | communication text => "error communicating with database: " ++ text
  | invalidData text => "encountered unexpected or invalid data: " ++ text
  | settings text => "error with configuration: " ++ text

/-- The text, followed by the text of its cause. -/
def chain (fault : AccessFault) : List String :=
  fault.message :: match fault with
    | database inner => [inner.text]
    | communication text => [text]
    | settings text => [text]
    | _ => []

def isTransient : AccessFault → Bool
  | database fault => fault.isContention
  | poolTimedOut => true
  | workerCrashed => true
  | communication _ => true
  | _ => false

end AccessFault

inductive StorageError where
  | access (fault : AccessFault)
  /-- A number does not fit a signed 64-bit column. -/
  | outOfRange (quantity : Quantity) (value : Nat)
  /-- A constraint failed that the slashing rules do not explain. -/
  | constraint (text : String)
  /-- A stored row has no meaning. -/
  | corrupt (table : Table) (reason : String)
deriving DecidableEq, Repr

namespace StorageError

def label : StorageError → String
  | access _ => "Database"
  | outOfRange .. => "OutOfRange"
  | constraint _ => "ConstraintViolation"
  | corrupt .. => "Corrupt"

def ofDatabase (fault : DatabaseFault) : StorageError := access (.database fault)

def message : StorageError → String
  | access fault => "Database error: " ++ fault.message
  | outOfRange quantity value => s!"{quantity.name} value {value} exceeds the storable range"
  | constraint text => "Constraint violation: " ++ text
  | corrupt table reason => s!"Corrupt row in {table.name}: {reason}"

def chain (error : StorageError) : List String :=
  error.message :: match error with
    | access fault => fault.chain
    | _ => []

/-- Whether running the whole transaction again may succeed. -/
def isRetryable : StorageError → Bool
  | access fault => fault.isTransient
  | _ => false

end StorageError
end ValidatorSigner.Store
