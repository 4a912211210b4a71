import ValidatorSigner.Protection.Record
import ValidatorSigner.Store.Transaction

/-! # Reading the tables

Each lookup names the rows it wants and decodes them. Numbers handed in are checked first, before
any row is looked at.
-/
namespace ValidatorSigner.Store

open Protection

/-- Decodes an attestation; the first column that has no meaning is the error. -/
def AttestationRow.decode (row : AttestationRow) : Except StorageError Attestation := do
  let source ← ofColumn .signedAttestations row.source
  let target ← ofColumn .signedAttestations row.target
  let root ← rootOfColumn .signedAttestations row.root
  return ⟨row.validator, source, target, root⟩

def WatermarkRow.decode (row : WatermarkRow) : Except StorageError Watermark := do
  let slot ← ofColumn .lowWatermarks row.slot
  let source ← ofColumn .lowWatermarks row.source
  let target ← ofColumn .lowWatermarks row.target
  return ⟨row.validator, slot, source, target⟩

def decodeOption {α β : Type} (decode : α → Except StorageError β) :
    Option α → Except StorageError (Option β)
  | none => .ok none
  | some row => (decode row).map some

/-- The row with the lowest key, the first of several. -/
def lowestBy? {α : Type} (key : α → Int) : List α → Option α
  | [] => none
  | row :: rest =>
    match lowestBy? key rest with
    | none => some row
    | some other => if key other < key row then some other else some row

namespace Tables

def blocksOf (t : Tables) (id : ValidatorId) : List BlockRow :=
  t.blocks.filter (·.validator = id)

def attestationsOf (t : Tables) (id : ValidatorId) : List AttestationRow :=
  t.attestations.filter (·.validator = id)

def watermarkOf (t : Tables) (id : ValidatorId) : Option WatermarkRow :=
  t.watermarks.find? (·.validator = id)

def idOf (t : Tables) (key : PublicKey) : Option ValidatorId :=
  (t.validators.find? (·.key = key)).map (·.id)

def isRegistered (t : Tables) (id : ValidatorId) : Bool :=
  t.validators.any (·.id = id)

end Tables

namespace Transaction

def findValidator (key : PublicKey) : Transaction (Option ValidatorId) :=
  reading .validators fun t => .ok (t.idOf key)

def allValidators : Transaction (List ValidatorId) :=
  reading .validators fun t => .ok ((t.validators.map (·.id)).mergeSort (· ≤ ·))

def findWatermark (id : ValidatorId) : Transaction (Option Watermark) :=
  reading .lowWatermarks fun t => decodeOption WatermarkRow.decode (t.watermarkOf id)

def findBlock (id : ValidatorId) (slot : Nat) : Transaction (Option BlockProposal) := do
  let column ← lift (toColumn .slot slot)
  reading .signedBlocks fun t =>
    decodeOption
      (fun row => (rootOfColumn .signedBlocks row.root).map fun root => ⟨id, slot, root⟩)
      ((t.blocksOf id).find? (·.slot = column))

def highestSlot (id : ValidatorId) : Transaction (Option Nat) :=
  reading .signedBlocks fun t =>
    decodeOption (ofColumn .signedBlocks) ((t.blocksOf id).map (·.slot)).max?

/-- The lowest slot from `floor` up. -/
def lowestSlot (id : ValidatorId) (floor : Nat) : Transaction (Option Nat) := do
  let column ← lift (toColumn .slot floor)
  reading .signedBlocks fun t =>
    decodeOption (ofColumn .signedBlocks)
      ((((t.blocksOf id).map (·.slot)).filter (column ≤ ·)).min?)

def countBlocks (id : ValidatorId) : Transaction Nat :=
  reading .signedBlocks fun t => .ok (t.blocksOf id).length

def findAttestations (id : ValidatorId) (target : Nat) : Transaction (List Attestation) := do
  let column ← lift (toColumn .targetEpoch target)
  reading .signedAttestations fun t =>
    ((t.attestationsOf id).filter (·.target = column)).mapM AttestationRow.decode

/-- An attestation that strictly surrounds the span from `source` to `target`. The query takes any one of
them; here it is the first on record. The rules only ask whether there is one. -/
def findEnclosing (id : ValidatorId) (source target : Nat) :
    Transaction (Option Attestation) := do
  let low ← lift (toColumn .sourceEpoch source)
  let high ← lift (toColumn .targetEpoch target)
  reading .signedAttestations fun t =>
    decodeOption AttestationRow.decode
      ((t.attestationsOf id).find? fun row => row.source < low ∧ high < row.target)

/-- An attestation that the span from `source` to `target` strictly surrounds; of several, again the first
on record. -/
def findEnclosed (id : ValidatorId) (source target : Nat) :
    Transaction (Option Attestation) := do
  let low ← lift (toColumn .sourceEpoch source)
  let high ← lift (toColumn .targetEpoch target)
  reading .signedAttestations fun t =>
    decodeOption AttestationRow.decode
      ((t.attestationsOf id).find? fun row => low < row.source ∧ row.target < high)

def highestTarget (id : ValidatorId) : Transaction (Option Nat) :=
  reading .signedAttestations fun t =>
    decodeOption (ofColumn .signedAttestations) ((t.attestationsOf id).map (·.target)).max?

/-- Source and target of the attestation with the lowest target from `floor` up. -/
def lowestAttestation (id : ValidatorId) (floor : Nat) : Transaction (Option (Nat × Nat)) := do
  let column ← lift (toColumn .targetEpoch floor)
  reading .signedAttestations fun t =>
    decodeOption
      (fun row => do
        let source ← ofColumn .signedAttestations row.source
        let target ← ofColumn .signedAttestations row.target
        return (source, target))
      (lowestBy? (·.target) ((t.attestationsOf id).filter (column ≤ ·.target)))

def allAttestations (id : ValidatorId) : Transaction (List Attestation) :=
  reading .signedAttestations fun t =>
    ((t.attestationsOf id).mergeSort fun a b => a.target ≤ b.target).mapM AttestationRow.decode

def findGenesis : Transaction (Option Root) :=
  reading .metadata fun t => decodeOption (rootOfColumn .metadata) t.genesis

def findVersion : Transaction (Option Int) :=
  reading .databaseVersion fun t => .ok t.version

end Transaction
end ValidatorSigner.Store
