import ValidatorSigner.Protection.Engine

/-! # Decisions

A decision gathers what is on record, asks the rules, and records what it permits, all in one
transaction. A decision on a chain first checks that the database belongs to that chain; the first
chain to ask is the one it belongs to.
-/
namespace ValidatorSigner.Protection

open Store Telemetry

namespace Decide

open Transaction

/-- Whether the database belongs to the chain with this genesis root. A database that belongs to
none is bound to it. -/
def checkGenesis (root : Root) : Transaction Bool := do
  match ← findGenesis with
  | some recorded => return recorded = root
  | none =>
    match ← insertGenesis root with
    | .inserted => return true
    | .conflict =>
      match ← findGenesis with
      | some recorded => return recorded = root
      | none => lift (.error (.corrupt .metadata "conflicting insert left no genesis row"))

def guardChain : Option Root → Transaction Bool
  | none => return true
  | some root => checkGenesis root

def block (genesis : Option Root) (candidate : BlockProposal) : Transaction Decision := do
  if !(← guardChain genesis) then return .deny .genesisMismatch
  let watermark ← findWatermark candidate.validator
  let existing ← findBlock candidate.validator candidate.slot
  match checkBlock candidate watermark existing with
  | .alreadySigned => return .allow
  | .refuse reason => return .deny reason
  | .record =>
    match ← insertBlock candidate with
    | .inserted => return .allow
    | .conflict => return .deny .doubleBlockProposal

def gatherEvidence (candidate : Attestation) : Transaction Evidence := do
  let id := candidate.validator
  let sameTarget ← findAttestations id candidate.target
  let enclosing ← findEnclosing id candidate.source candidate.target
  let enclosed ← findEnclosed id candidate.source candidate.target
  return { sameTarget, enclosing, enclosed }

def attestation (genesis : Option Root) (candidate : Attestation) :
    Transaction Decision := do
  if !(← guardChain genesis) then return .deny .genesisMismatch
  let watermark ← findWatermark candidate.validator
  let evidence ← gatherEvidence candidate
  match checkAttestation candidate watermark evidence with
  | .alreadySigned => return .allow
  | .refuse reason => return .deny reason
  | .record =>
    match ← insertAttestation candidate with
    | .inserted => return .allow
    | .conflict => return .deny .doubleVote

end Decide

namespace Request

def counted (artifact : Artifact) (decision : Decision) : Request Decision := do
  match decision with
  | .allow => count (.permitted artifact) 1
  | .deny reason => count (.prevented artifact reason.label) 1
  return decision

def maySignBlock (genesis : Option Root) (candidate : BlockProposal) : Request Decision := do
  counted .block (← transact "may_sign_block" (Decide.block genesis candidate))

def maySignAttestation (genesis : Option Root) (candidate : Attestation) :
    Request Decision := do
  -- What can be seen from the candidate alone is refused without a look at the database.
  if candidate.target < candidate.source then
    counted .attestation (.deny .invalidEpochOrder)
  else
    counted .attestation
      (← transact "may_sign_attestation" (Decide.attestation genesis candidate))

def checkGenesis (root : Root) : Request Bool :=
  transact "check_genesis" (Decide.checkGenesis root)

def genesisExists : Request Bool :=
  transact "genesis_root_exists" do return (← Transaction.findGenesis).isSome

end Request
end ValidatorSigner.Protection
