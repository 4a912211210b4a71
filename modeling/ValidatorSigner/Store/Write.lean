import ValidatorSigner.Store.Read

/-! # Changing the tables

Rows are checked against the constraints of their table in a fixed order: the order of the epochs,
then the unique columns, then the registration of the validator. Deletions take at most as many rows
as asked for.
-/
namespace ValidatorSigner.Store

open Protection

namespace Tables

def blockFault? (t : Tables) (row : BlockRow) : Option DatabaseFault :=
  if (t.blocksOf row.validator).any (·.slot = row.slot) then some (.duplicate .signedBlocks)
  else if !t.isRegistered row.validator then some .foreignKey
  else none

def attestationFault? (t : Tables) (row : AttestationRow) : Option DatabaseFault :=
  if row.target < row.source then some .epochOrder
  else if (t.attestationsOf row.validator).any (·.target = row.target) then
    some (.duplicate .signedAttestations)
  else if !t.isRegistered row.validator then some .foreignKey
  else none

def addBlock (t : Tables) (row : BlockRow) : Tables :=
  { t with blocks := t.blocks ++ [row] }

def addAttestation (t : Tables) (row : AttestationRow) : Tables :=
  { t with attestations := t.attestations ++ [row] }

/-- Puts a watermark in the place of the present one of its validator. -/
def putWatermark (t : Tables) (row : WatermarkRow) : Tables :=
  { t with watermarks := t.watermarks.filter (·.validator ≠ row.validator) ++ [row] }

/-- Numbers count up from one, in the order of registration. -/
def nextId (t : Tables) : ValidatorId :=
  (t.validators.map (·.id)).foldl max 0 + 1

def addValidator (t : Tables) (key : PublicKey) : Tables :=
  { t with validators := t.validators ++ [⟨t.nextId, key⟩] }

end Tables

/-- Removes the `limit` lowest of the rows that satisfy the test. Rows that stay keep their places. The
query only bounds the number of rows; that the lowest go first is the order of the index on the key, which
it runs through. -/
def removeLowest {α : Type} (test : α → Bool) (key : α → Int) (limit : Nat)
    (rows : List α) : List α :=
  let doomed := rows.filter test
  -- A row goes if fewer than `limit` of them have a lower key.
  rows.filter fun row => !(test row && doomed.countP (fun other => key other < key row) < limit)

namespace Transaction

/-- Inserts a row that keeps the constraints, or says how it breaks them. -/
def insertUnless (table : Table) (fault? : Tables → Option DatabaseFault)
    (add : Tables → Tables) : Transaction Insertion :=
  writing table fun t =>
    match fault? t with
    | none => .ok (.inserted, add t)
    | some fault => (Insertion.ofFault fault).map fun outcome => (outcome, t)

/-- Inserts a row as it is; any broken constraint is a plain database error. -/
def insertRaw (table : Table) (fault? : Tables → Option DatabaseFault)
    (add : Tables → Tables) : Transaction Unit :=
  writing table fun t =>
    match fault? t with
    | none => .ok ((), add t)
    | some fault => .error (.ofDatabase fault)

def insertValidator (key : PublicKey) : Transaction Insertion :=
  insertUnless .validators
    (fun t => if (t.idOf key).isSome then some (.duplicate .validators) else none)
    (·.addValidator key)

/-- Registers a key unless it is registered, and reads its number back. -/
def registerValidator (key : PublicKey) : Transaction ValidatorId := do
  let _ ← insertValidator key
  match ← findValidator key with
  | some id => return id
  | none => lift (.error (.corrupt .validators s!"no row for {key.toHex} after insert"))

def insertBlock (block : BlockProposal) : Transaction Insertion := do
  let slot ← lift (toColumn .slot block.slot)
  let row : BlockRow := ⟨block.validator, slot, block.root.toList⟩
  insertUnless .signedBlocks (·.blockFault? row) (·.addBlock row)

def insertAttestation (attestation : Attestation) : Transaction Insertion := do
  let source ← lift (toColumn .sourceEpoch attestation.source)
  let target ← lift (toColumn .targetEpoch attestation.target)
  let row : AttestationRow := ⟨attestation.validator, source, target, attestation.root.toList⟩
  insertUnless .signedAttestations (·.attestationFault? row) (·.addAttestation row)

/-- Raises the stored watermark column by column, or stores the first one. -/
def raiseWatermark (w : Watermark) : Transaction Unit := do
  let slot ← lift (toColumn .slot w.slot)
  let source ← lift (toColumn .sourceEpoch w.source)
  let target ← lift (toColumn .targetEpoch w.target)
  writing .lowWatermarks fun t =>
    match t.watermarkOf w.validator with
    | some row =>
      .ok ((), t.putWatermark
        ⟨w.validator, max row.slot slot, max row.source source, max row.target target⟩)
    | none =>
      -- Only a new row has its validator looked up.
      if t.isRegistered w.validator then .ok ((), t.putWatermark ⟨w.validator, slot, source, target⟩)
      else .error (.ofDatabase .foreignKey)

def insertGenesis (root : Root) : Transaction Insertion :=
  insertUnless .metadata
    (fun t => if t.genesis.isSome then some (.duplicate .metadata) else none)
    (fun t => { t with genesis := some root.toList })

def setVersion (version : Int) : Transaction Unit :=
  writing .databaseVersion fun t => .ok ((), { t with version := some version })

def clearVersion : Transaction Unit :=
  writing .databaseVersion fun t => .ok ((), { t with version := none })

def deleteBlocks (id : ValidatorId) (below limit : Nat) : Transaction Nat := do
  let below ← lift (toColumn .slot below)
  let _ ← lift (toColumn .batchSize limit)
  writing .signedBlocks fun t =>
    let kept := removeLowest (fun row => row.validator = id ∧ row.slot < below) (·.slot) limit t.blocks
    .ok (t.blocks.length - kept.length, { t with blocks := kept })

def deleteAttestations (id : ValidatorId) (below limit : Nat) : Transaction Nat := do
  let below ← lift (toColumn .targetEpoch below)
  let _ ← lift (toColumn .batchSize limit)
  writing .signedAttestations fun t =>
    let kept := removeLowest (fun row => row.validator = id ∧ row.target < below) (·.target) limit
      t.attestations
    .ok (t.attestations.length - kept.length, { t with attestations := kept })

def storeBlock (row : BlockRow) : Transaction Unit :=
  insertRaw .signedBlocks (·.blockFault? row) (·.addBlock row)

def storeAttestation (row : AttestationRow) : Transaction Unit :=
  insertRaw .signedAttestations (·.attestationFault? row) (·.addAttestation row)

/-- Stores genesis bytes as given, in the place of those present. -/
def storeGenesis (bytes : List UInt8) : Transaction Unit :=
  writing .metadata fun t => .ok ((), { t with genesis := some bytes })

def storeWatermark (row : WatermarkRow) : Transaction Unit :=
  insertRaw .lowWatermarks
    (fun t => if t.isRegistered row.validator then none else some .foreignKey)
    (·.putWatermark row)

end Transaction
end ValidatorSigner.Store
