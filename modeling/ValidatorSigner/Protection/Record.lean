import ValidatorSigner.FixedBytes

/-! # Signed blocks, attestations and low watermarks

Slots and epochs are counted from the start of the chain. They travel as unsigned 64-bit numbers
and are stored as signed ones; here they are natural numbers, and the store refuses what it cannot
hold.
-/
namespace ValidatorSigner.Protection

/-- The number under which a validator key is registered, a signed 64-bit number. -/
abbrev ValidatorId := Int

structure BlockProposal where
  validator : ValidatorId
  slot : Nat
  root : Root
deriving DecidableEq

structure Attestation where
  validator : ValidatorId
  source : Nat
  target : Nat
  root : Root
deriving DecidableEq

namespace Attestation

/-- Strict containment of the span of another attestation. -/
def Surrounds (a b : Attestation) : Prop := a.source < b.source ∧ b.target < a.target

instance (a b : Attestation) : Decidable (a.Surrounds b) :=
  inferInstanceAs (Decidable (_ ∧ _))

def Repeats (a b : Attestation) : Prop := a.target = b.target ∧ a.root = b.root

instance (a b : Attestation) : Decidable (a.Repeats b) :=
  inferInstanceAs (Decidable (_ ∧ _))

end Attestation

/-- The floor of one validator, below which every request is refused. -/
structure Watermark where
  validator : ValidatorId
  slot : Nat
  source : Nat
  target : Nat
deriving DecidableEq

namespace Watermark

/-- The watermark that refuses nothing. -/
def floor (validator : ValidatorId) : Watermark := ⟨validator, 0, 0, 0⟩

def raise (a b : Watermark) : Watermark :=
  ⟨a.validator, max a.slot b.slot, max a.source b.source, max a.target b.target⟩

def BlocksSlot (w : Watermark) (slot : Nat) : Prop := slot < w.slot

instance (w : Watermark) (slot : Nat) : Decidable (w.BlocksSlot slot) :=
  inferInstanceAs (Decidable (_ < _))

def BlocksAttestation (w : Watermark) (source target : Nat) : Prop :=
  target < w.target ∨ source < w.source

instance (w : Watermark) (source target : Nat) : Decidable (w.BlocksAttestation source target) :=
  inferInstanceAs (Decidable (_ ∨ _))

end Watermark
end ValidatorSigner.Protection
