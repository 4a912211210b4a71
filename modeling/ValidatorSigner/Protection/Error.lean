import ValidatorSigner.Store.Fault

/-! # Errors of slashing protection

A configuration error ends the start of the signer. An infrastructure error ends one request: the
transaction could not be completed, and no answer was reached.
-/
namespace ValidatorSigner.Protection

open Store

inductive ParameterFault where
  | epochsToKeep
  | slotsPerEpoch
  | interval
  | batchSize
deriving DecidableEq, Repr

def ParameterFault.message : ParameterFault → String
  | epochsToKeep => "pruning epochs to keep must be at least 1"
  | slotsPerEpoch => "pruning slots per epoch must be at least 1"
  | interval => "pruning interval must be at least 1 hour"
  | batchSize => "pruning batch size must be at least 1"

inductive ConfigurationError where
  | connectionFailed (url : String) (fault : AccessFault)
  | versionUnreadable (expected : Int) (cause : StorageError)
  | versionMissing (expected : Int)
  | versionMismatch (found expected : Int)
  | missingGenesisRoot
  | invalidParameters (fault : ParameterFault)
deriving DecidableEq, Repr

namespace ConfigurationError

def label : ConfigurationError → String
  | connectionFailed .. => "ConnectionFailed"
  | versionUnreadable .. => "VersionUnreadable"
  | versionMissing _ => "VersionMissing"
  | versionMismatch .. => "VersionMismatch"
  | missingGenesisRoot => "MissingGenesisRoot"
  | invalidParameters _ => "InvalidParameters"

def message : ConfigurationError → String
  | connectionFailed url fault =>
    s!"Failed to connect to slashing protection database {url}: {fault.message}"
  | versionUnreadable expected _ => s!"Failed to read database version, expected {expected}"
  | versionMissing expected =>
    s!"Database version row is missing, expected {expected}, please run migrations and try again."
  | versionMismatch found expected =>
    s!"Database version ({found}) does not match expected version ({expected}), please run " ++
      "migrations and try again."
  | missingGenesisRoot => "No genesis validators root is recorded and one is required"
  | invalidParameters fault => "Invalid slashing protection parameters: " ++ fault.message

def chain (error : ConfigurationError) : List String :=
  error.message :: match error with
    | connectionFailed _ fault => fault.chain
    | versionUnreadable _ cause => cause.chain
    | _ => []

end ConfigurationError

inductive ProtectionError where
  | infrastructure (operation : String) (attempts : Nat) (cause : StorageError)
  | configuration (error : ConfigurationError)
deriving DecidableEq, Repr

namespace ProtectionError

def message : ProtectionError → String
  | infrastructure operation attempts cause =>
    s!"Slashing protection {operation} failed after {attempts} attempt(s): {cause.message}"
  | configuration error => error.message

def chain : ProtectionError → List String
  | infrastructure operation attempts cause =>
    (infrastructure operation attempts cause).message :: cause.chain
  | configuration error => error.chain

def isFatal : ProtectionError → Bool
  | infrastructure .. => false
  | configuration _ => true

end ProtectionError
end ValidatorSigner.Protection
