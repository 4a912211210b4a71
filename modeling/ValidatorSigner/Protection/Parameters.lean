import ValidatorSigner.Protection.Error
import ValidatorSigner.Protection.Retention
import ValidatorSigner.Store.Retry

/-! # Parameters of slashing protection -/
namespace ValidatorSigner.Protection

structure PruningParameters where
  enabled : Bool := false
  epochsToKeep : Nat := 250
  slotsPerEpoch : Nat := 32
  interval : Duration := .ofSeconds 86400
  atBoot : Bool := false
  batchSize : Nat := 10000
deriving DecidableEq, Repr

namespace PruningParameters

def retention (p : PruningParameters) : Retention := ⟨p.epochsToKeep, p.slotsPerEpoch⟩

def fault? (p : PruningParameters) : Option ParameterFault :=
  -- Nothing is asked of parameters that are not in use.
  if !p.enabled then none
  else if p.epochsToKeep = 0 then some .epochsToKeep
  else if p.slotsPerEpoch = 0 then some .slotsPerEpoch
  else if p.interval = .zero then some .interval
  else if p.batchSize = 0 then some .batchSize
  else none

def validate (p : PruningParameters) : Except ConfigurationError Unit :=
  match p.fault? with
  | none => .ok ()
  | some fault => .error (.invalidParameters fault)

end PruningParameters

structure DatabaseParameters where
  url : String
  maxConnections : Nat := 1
  acquireTimeout : Duration := .ofSeconds 10
  busyTimeout : Duration := .ofMilliseconds 5000
  createIfMissing : Bool := false
deriving DecidableEq, Repr

structure ProtectionParameters where
  database : DatabaseParameters
  pruningPoolSize : Nat := 1
  retry : Store.RetryPolicy := .standard
  requireGenesisRoot : Bool := false
  pruning : PruningParameters := {}
deriving DecidableEq, Repr

end ValidatorSigner.Protection
