import ValidatorSigner.Protection.Record

/-! # The slashing rules

Four rules decide whether a candidate may be signed, given the records that bear on it: one block
root per slot, one attestation root per target, no attestation that strictly surrounds another,
and nothing below the low watermark.
-/
namespace ValidatorSigner.Protection

inductive Refusal where
  | doubleBlockProposal
  | doubleVote
  | surroundingVote
  | surroundedVote
  | belowWatermark
  | invalidEpochOrder
  | genesisMismatch
deriving DecidableEq, Repr

namespace Refusal

def label : Refusal → String
  | doubleBlockProposal => "DOUBLE_BLOCK_PROPOSAL"
  | doubleVote => "DOUBLE_VOTE"
  | surroundingVote => "SURROUNDING_VOTE"
  | surroundedVote => "SURROUNDED_VOTE"
  | belowWatermark => "BELOW_WATERMARK"
  | invalidEpochOrder => "INVALID_EPOCH_ORDER"
  | genesisMismatch => "GENESIS_MISMATCH"

def name : Refusal → String
  | doubleBlockProposal => "DoubleBlockProposal"
  | doubleVote => "DoubleVote"
  | surroundingVote => "SurroundingVote"
  | surroundedVote => "SurroundedVote"
  | belowWatermark => "BelowWatermark"
  | invalidEpochOrder => "InvalidEpochOrder"
  | genesisMismatch => "GenesisMismatch"

def all : List Refusal :=
  [doubleBlockProposal, doubleVote, surroundingVote, surroundedVote, belowWatermark,
    invalidEpochOrder, genesisMismatch]

def ofName? (name : String) : Option Refusal :=
  all.find? fun reason => reason.name == name

end Refusal

inductive Verdict where
  /-- Safe and new. -/
  | record
  /-- The same artifact is on record and may be signed again. -/
  | alreadySigned
  | refuse (reason : Refusal)
deriving DecidableEq, Repr

/-- The answer to a request. A refusal is an answer, not an error. -/
inductive Decision where
  | allow
  | deny (reason : Refusal)
deriving DecidableEq, Repr

namespace Decision

def reason? : Decision → Option Refusal
  | allow => none
  | deny reason => some reason

def describe : Decision → String
  | allow => "Allow"
  | deny reason => "Deny(" ++ reason.name ++ ")"

end Decision

/-- The verdict on a block, given the watermark and the block on record for the slot. -/
def checkBlock (candidate : BlockProposal) (watermark : Option Watermark)
    (existing : Option BlockProposal) : Verdict :=
  if ∃ w ∈ watermark, w.BlocksSlot candidate.slot then .refuse .belowWatermark
  else match existing with
    | none => .record
    -- The slot of the record is not looked at again.
    | some prior =>
      if prior.root = candidate.root then .alreadySigned else .refuse .doubleBlockProposal

structure Evidence where
  /-- Records with the target of the candidate. -/
  sameTarget : List Attestation := []
  /-- A record that surrounds the candidate. -/
  enclosing : Option Attestation := none
  /-- A record that the candidate surrounds. -/
  enclosed : Option Attestation := none

def checkAttestation (candidate : Attestation) (watermark : Option Watermark)
    (evidence : Evidence) : Verdict :=
  -- Evidence that does not have the property it was gathered for is passed over.
  let sameTarget := evidence.sameTarget.filter (·.target = candidate.target)
  if candidate.target < candidate.source then .refuse .invalidEpochOrder
  else if ∃ w ∈ watermark, w.BlocksAttestation candidate.source candidate.target then
    .refuse .belowWatermark
  else if ∃ prior ∈ sameTarget, prior.root ≠ candidate.root then .refuse .doubleVote
  else if ∃ prior ∈ evidence.enclosing, prior.Surrounds candidate then .refuse .surroundedVote
  else if ∃ prior ∈ evidence.enclosed, candidate.Surrounds prior then .refuse .surroundingVote
  else if sameTarget.isEmpty then .record
  else .alreadySigned

end ValidatorSigner.Protection
