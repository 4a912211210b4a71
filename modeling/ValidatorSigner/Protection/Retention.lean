import ValidatorSigner.Protection.Record

/-! # How far back records are kept

Retention is counted in epochs back from the highest record. Floors never go below zero, and a window
that 64 bits cannot count is as long as they can count.
-/
namespace ValidatorSigner.Protection

/-- The window of records that one prune run keeps. -/
structure Retention where
  epochsToKeep : Nat
  slotsPerEpoch : Nat
deriving DecidableEq, Repr

namespace Retention

/-- The product of two numbers of 64 bits, as far as it goes. -/
def saturatingMul (a b : Nat) : Nat := min (a * b) (1 <<< 64 - 1)

/-- The lowest slot to keep, below the highest recorded slot. -/
def blockFloor (window : Retention) (highest : Nat) : Nat :=
  highest - saturatingMul window.epochsToKeep window.slotsPerEpoch

def attestationFloor (window : Retention) (highest : Nat) : Nat :=
  highest - window.epochsToKeep

end Retention

/-- What a prune run removed, and the watermark it left for a single validator. -/
structure PruneReport where
  deletedBlocks : Nat := 0
  deletedAttestations : Nat := 0
  watermark : Option Watermark := none
deriving DecidableEq

/-- Adds the counts of another run; the watermark stays. -/
def PruneReport.merge (total part : PruneReport) : PruneReport :=
  { total with
    deletedBlocks := total.deletedBlocks + part.deletedBlocks
    deletedAttestations := total.deletedAttestations + part.deletedAttestations }

end ValidatorSigner.Protection
