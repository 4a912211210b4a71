import ValidatorSigner.Bls.KeyPair
import ValidatorSigner.Keys.Source
import ValidatorSigner.Store.Disk

/-! # Errors on the way to a signing key -/
namespace ValidatorSigner.Keys

inductive KeyError where
  | unreadable (path : String) (fault : Store.FileFault)
  | malformed (path : String) (fault : Yaml.Fault)
  | invalidSecret (error : Bls.SecretKeyError)
  /-- A secret would have to be fetched, and nothing is there to fetch it. -/
  | noFetcher (backend : Backend)
  | fetchFailed (service reason : String)
  | duplicate (key : PublicKey)
deriving DecidableEq

namespace KeyError

def label : KeyError → String
  | unreadable .. => "Io"
  | malformed .. => "InvalidMetadata"
  | invalidSecret _ => "InvalidPrivateKey"
  | noFetcher _ => "BackendUnavailable"
  | fetchFailed .. => "SecretFetch"
  | duplicate _ => "DuplicateKey"

def message : KeyError → String
  | unreadable path fault => s!"Failed to read key configuration {path}: {fault.message}"
  -- What exactly is wrong with a description is not told.
  | malformed path _ => "Invalid signing metadata in " ++ path
  | invalidSecret error => "Invalid private key: " ++ error.reason
  | noFetcher backend => s!"No secret fetcher configured for {backend.label} keys"
  | fetchFailed service reason => s!"Failed to fetch secret from {service}: {reason}"
  | duplicate key => "Duplicate signing key " ++ key.toHex

def chain (error : KeyError) : List String :=
  error.message :: match error with
    | unreadable _ fault => [fault.message]
    | _ => []

end KeyError
end ValidatorSigner.Keys
