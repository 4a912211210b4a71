import ValidatorSigner.Keys.Signer
import ValidatorSigner.Protection.Decide
import ValidatorSigner.Protection.Registry

/-! # Answering signing requests

Blocks and attestations are signed only if slashing protection permits it. What is signed is the
root that was checked, with the key that was checked. Other messages cannot be slashed for, and
are signed as they come.
-/
namespace ValidatorSigner.Signing

open Keys Protection Telemetry

inductive Duty where
  | block (slot : Nat)
  | attestation (source target : Nat)
deriving DecidableEq, Repr

def Duty.artifact : Duty → Artifact
  | block _ => .block
  | attestation .. => .attestation

inductive Outcome where
  | signed (signature : Signature)
  | refused (reason : Refusal)
deriving DecidableEq

def Outcome.kind : Outcome → RequestOutcome
  | signed _ => .signed
  | refused _ => .refused

inductive HandlerError where
  | unknownKey (key : PublicKey)
  | protection (error : ProtectionError)
deriving DecidableEq

def HandlerError.message : HandlerError → String
  | unknownKey key => "No signing key loaded for " ++ key.toHex
  | protection error => error.message

def permission (key : PublicKey) (genesis : Root) (duty : Duty) (root : Root) :
    Request Decision := do
  -- The validator is registered if it is not yet.
  let id ← Request.resolveValidator key
  match duty with
  | .block slot => Request.maySignBlock (some genesis) ⟨id, slot, root⟩
  | .attestation source target =>
    Request.maySignAttestation (some genesis) ⟨id, source, target, root⟩

def answer (signer : Signer) (root : Root) : Decision → Outcome
  | .allow => .signed (signer.sign root.toList)
  | .deny reason => .refused reason

def countRequest (artifact : Artifact) (outcome : RequestOutcome) (metrics : Metrics) : Metrics :=
  metrics.add (.request artifact outcome) 1

def signProtected (ring : KeyRing) (key : PublicKey) (genesis : Root) (duty : Duty)
    (root : Root) : ExceptT HandlerError (StateM Engine) Outcome := do
  let record (outcome : RequestOutcome) : ExceptT HandlerError (StateM Engine) Unit :=
    modify fun engine => { engine with metrics := countRequest duty.artifact outcome engine.metrics }
  match ring.get? key with
  | none =>
    record .unknownKey
    throw (.unknownKey key)
  | some signer =>
    match ← ExceptT.lift (permission key genesis duty root).run with
    | .error e =>
      record .failed
      throw (.protection e)
    | .ok decision =>
      let outcome := answer signer root decision
      record outcome.kind
      return outcome

def signUnchecked (ring : KeyRing) (artifact : Artifact) (key : PublicKey)
    (message : List UInt8) : ExceptT HandlerError (StateM Metrics) Signature := do
  match ring.get? key with
  | none =>
    modify (countRequest artifact .unknownKey)
    throw (.unknownKey key)
  | some signer =>
    modify (countRequest artifact .signed)
    return signer.sign message

end ValidatorSigner.Signing
