import ValidatorSigner.Protection.Registry
import ValidatorSigner.Protection.Retention

/-! # Pruning

Pruning first raises the watermark of a validator to the lowest records that are kept, and only
then deletes what lies below it. A deleted record is thus never missed: whatever it would have
refused, the watermark refuses. Deletions run in batches, each in a transaction of its own.
-/
namespace ValidatorSigner.Protection

open Store

namespace Prune

open Transaction

def slotToKeep (id : ValidatorId) (window : Retention) : Transaction (Option Nat) := do
  match ← highestSlot id with
  | none => return none
  | some highest => lowestSlot id (window.blockFloor highest)

/-- Source and target of the lowest attestation that is kept, if there are attestations at all. -/
def attestationToKeep (id : ValidatorId) (window : Retention) :
    Transaction (Option (Nat × Nat)) := do
  match ← highestTarget id with
  | none => return none
  | some highest => lowestAttestation id (window.attestationFloor highest)

/-- Raises the watermark to the lowest records that are kept, and gives the watermark after. -/
def advanceWatermark (id : ValidatorId) (window : Retention) : Transaction Watermark := do
  let current := (← findWatermark id).getD (.floor id)
  let slot := (← slotToKeep id window).getD 0
  let (source, target) := (← attestationToKeep id window).getD (0, 0)
  let next := current.raise ⟨id, slot, source, target⟩
  -- Without a change the database is not written to.
  if next ≠ current then raiseWatermark next
  return next

end Prune

namespace Request

/-- Deletes batch after batch until one is not full, and adds up what was deleted. -/
def deleteBatches (operation : String) (batch : Nat) (delete : Transaction Nat) (total : Nat) :
    Nat → Request Nat
  | 0 => return total
  | rounds + 1 => do
    let deleted ← transactCleaning operation delete
    if deleted < batch then return total + deleted
    else deleteBatches operation batch delete (total + deleted) rounds

def prune (id : ValidatorId) (window : Retention) : Request PruneReport := do
  let batch := max 1 (← get).service.pruning.batchSize
  let watermark ← transactCleaning "prune_watermark" (Prune.advanceWatermark id window)
  let blocks ← deleteBatches "prune_blocks" batch
    (Transaction.deleteBlocks id watermark.slot batch) 0
    ((← get).database.tables.blocks.length + 1)
  let attestations ← deleteBatches "prune_attestations" batch
    (Transaction.deleteAttestations id watermark.target batch) 0
    ((← get).database.tables.attestations.length + 1)
  count (.pruned Table.signedBlocks.name) blocks
  count (.pruned Table.signedAttestations.name) attestations
  return ⟨blocks, attestations, some watermark⟩

def pruneEach (window : Retention) (total : PruneReport) : List ValidatorId → Request PruneReport
  | [] => return total
  | id :: rest => do
    let report ← prune id window
    pruneEach window (total.merge report) rest

def pruneAll (window : Retention) : Request PruneReport := do
  pruneEach window {} (← allIds)

end Request
end ValidatorSigner.Protection
