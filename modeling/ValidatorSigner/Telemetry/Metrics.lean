/-! # Counters

Counters are kept by series: the family together with the values of its labels. A series is shown
once it has been touched; the gauge of loaded keys is always shown.
-/
namespace ValidatorSigner.Telemetry

inductive Artifact where
  | block
  | attestation
  | unprotected
deriving DecidableEq, Repr

def Artifact.label : Artifact → String
  | block => "block"
  | attestation => "attestation"
  | unprotected => "unprotected"

inductive RequestOutcome where
  | signed
  | refused
  | failed
  | unknownKey
deriving DecidableEq, Repr

def RequestOutcome.label : RequestOutcome → String
  | signed => "signed"
  | refused => "refused"
  | failed => "failed"
  | unknownKey => "unknown_key"

inductive Family where
  | requests
  | permitted
  | prevented
  | pruned
  | retries
deriving DecidableEq, Repr

namespace Family

def all : List Family := [requests, permitted, prevented, pruned, retries]

def name : Family → String
  | requests => "signer_signing_requests_total"
  | permitted => "slashing_protection_permitted_total"
  | prevented => "slashing_protection_prevented_total"
  | pruned => "slashing_protection_pruned_records_total"
  | retries => "slashing_protection_retries_total"

def help : Family → String
  | requests => "Total number of signing requests handled"
  | permitted => "Total number of signings permitted by slashing protection"
  | prevented => "Total number of signings prevented by slashing protection"
  | pruned => "Total number of historical rows deleted by pruning"
  | retries => "Total number of retried slashing protection transactions"

def labels : Family → List String
  | requests => ["artifact", "outcome"]
  | permitted => ["artifact"]
  | prevented => ["artifact", "reason"]
  | pruned => ["table"]
  | retries => ["operation"]

end Family

/-- One counter: a family and a value for each of its labels. -/
structure Series where
  family : Family
  values : List String
deriving DecidableEq, Repr

namespace Series

def request (artifact : Artifact) (outcome : RequestOutcome) : Series :=
  ⟨.requests, [artifact.label, outcome.label]⟩

def permitted (artifact : Artifact) : Series := ⟨.permitted, [artifact.label]⟩

def prevented (artifact : Artifact) (reason : String) : Series :=
  ⟨.prevented, [artifact.label, reason]⟩

def pruned (table : String) : Series := ⟨.pruned, [table]⟩

def retried (operation : String) : Series := ⟨.retries, [operation]⟩

def line (series : Series) (count : Nat) : String :=
  let pair (label value : String) : String := label ++ "=\"" ++ value ++ "\""
  series.family.name ++ "\x7b" ++
    ",".intercalate (List.zipWith pair series.family.labels series.values) ++ "\x7d " ++
    toString count

end Series

structure Metrics where
  counts : List (Series × Nat) := []
  loadedKeys : Nat := 0

namespace Metrics

/-- Adds to a counter in a list of counters, which it joins with its first addition. -/
def addTo (series : Series) (n : Nat) : List (Series × Nat) → List (Series × Nat)
  | [] => [(series, n)]
  | (other, count) :: rest =>
    if other = series then (other, count + n) :: rest else (other, count) :: addTo series n rest

def add (m : Metrics) (series : Series) (n : Nat) : Metrics :=
  { m with counts := addTo series n m.counts }

def count (m : Metrics) (series : Series) : Nat := (m.counts.lookup series).getD 0

def familyLines (m : Metrics) (family : Family) : List String :=
  let own := m.counts.filter (·.1.family = family)
  let sorted := own.mergeSort fun a b => !decide (b.1.values < a.1.values)
  if sorted.isEmpty then []
  else
    ("# HELP " ++ family.name ++ " " ++ family.help) :: ("# TYPE " ++ family.name ++ " counter") ::
      sorted.map fun (series, n) => series.line n

/-- The whole report: the gauge, then every touched family. -/
def report (m : Metrics) : List String :=
  ["# HELP signer_loaded_keys Number of keys loaded for signing",
    "# TYPE signer_loaded_keys gauge", s!"signer_loaded_keys {m.loadedKeys}"] ++
  Family.all.flatMap m.familyLines

end Metrics
end ValidatorSigner.Telemetry
