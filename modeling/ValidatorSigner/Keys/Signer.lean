import ValidatorSigner.Keys.Error

/-! # Signers

A signer signs for one public key. Signers are made from key sources; a source that does not hold
its secret needs a fetcher.
-/
namespace ValidatorSigner.Keys

structure Signer where
  key : PublicKey
  sign : List UInt8 → Signature

def Signer.ofSecretKey (secret : Bls.SecretKey) : Signer :=
  ⟨secret.publicKey, secret.sign⟩

def Signer.ofHex (text : String) : Except KeyError Signer :=
  match Bls.SecretKey.ofHex text with
  | .ok secret => .ok (.ofSecretKey secret)
  | .error e => .error (.invalidSecret e)

abbrev Fetcher := SecretRequest → Except KeyError String

def KeySource.signer (fetcher : Option Fetcher) : KeySource → Except KeyError Signer
  | .inline secret => Signer.ofHex secret
  | .remote request =>
    match fetcher with
    | none => .error (.noFetcher request.backend)
    | some fetch => do Signer.ofHex (← fetch request)

/-- The requests that making a signer for a key source sends out. -/
def KeySource.requests (fetcher : Option Fetcher) : KeySource → List SecretRequest
  | .inline _ => []
  | .remote request => if fetcher.isSome then [request] else []

/-- Loaded signers, no two for the same key, in the order in which they were added. -/
structure KeyRing where
  signers : List Signer := []
  nodup : (signers.map (·.key)).Nodup := by exact List.nodup_nil

namespace KeyRing

def get? (ring : KeyRing) (key : PublicKey) : Option Signer :=
  ring.signers.find? (·.key = key)

def add (ring : KeyRing) (signer : Signer) : Except KeyError KeyRing :=
  if h : signer.key ∈ ring.signers.map (·.key) then .error (.duplicate signer.key)
  else .ok
    ⟨ring.signers ++ [signer], by
      rw [List.map_append, List.map_singleton]
      exact List.nodup_append.2 ⟨ring.nodup, by simp, by
        intro a ha b hb
        rw [List.mem_singleton] at hb
        exact fun hab => h (hb ▸ hab ▸ ha)⟩⟩

def keys (ring : KeyRing) : List PublicKey :=
  FixedBytes.sort (ring.signers.map (·.key))

def size (ring : KeyRing) : Nat := ring.signers.length

def isEmpty (ring : KeyRing) : Bool := ring.size == 0

end KeyRing
end ValidatorSigner.Keys
