import ValidatorSigner.Proofs.Protection.Decision
import ValidatorSigner.Proofs.Protection.Watermark

/-! # What was ever recorded

Pruning deletes rows, but slashing is a matter of everything ever signed. Tables guard a history when
every row of it is still there or lies below the watermark, and when no attestation below the target of
the watermark has its source above the source of the watermark. Then whatever a deleted row would have
refused, the watermark refuses.
-/
namespace ValidatorSigner.Store

def BlockRow.Apart (a b : BlockRow) : Prop := a.validator = b.validator → a.slot ≠ b.slot

/-- Attestations of different validators, or with different targets and none around the other. -/
def AttestationRow.Apart (a b : AttestationRow) : Prop :=
  a.validator = b.validator → a.target ≠ b.target ∧ ¬ a.Surrounds b ∧ ¬ b.Surrounds a

end ValidatorSigner.Store

namespace ValidatorSigner.Protection
open Store

/-- All rows that were ever recorded, in order. -/
structure History where
  blocks : List BlockRow := []
  attestations : List AttestationRow := []

/-- No slashable pair of rows, and no attestation whose source lies after its target. -/
structure History.Lawful (h : History) : Prop where
  blocks : h.blocks.Pairwise BlockRow.Apart
  attestations : h.attestations.Pairwise AttestationRow.Apart
  ordered : ∀ r ∈ h.attestations, r.source ≤ r.target

namespace History.Lawful
variable {h : History}

theorem eq_of_slot (hl : h.Lawful) {a b : BlockRow} (ha : a ∈ h.blocks) (hb : b ∈ h.blocks)
    (hv : a.validator = b.validator) (hs : a.slot = b.slot) : a = b := by
  have hp : h.blocks.Pairwise fun a b => a.validator = b.validator → a.slot = b.slot → a = b :=
    hl.blocks.imp fun hab hv hs => absurd hs (hab hv)
  have hf : h.blocks.Pairwise (flip fun a b => a.validator = b.validator → a.slot = b.slot → a = b) :=
    hp.imp fun hab hv hs => (hab hv.symm hs.symm).symm
  exact List.Pairwise.forall_of_forall_of_flip (fun _ _ _ _ => rfl) hp hf ha hb hv hs

/-- Two attestations of a validator are one, or they are apart. -/
theorem eq_or_apart (hl : h.Lawful) {a b : AttestationRow} (ha : a ∈ h.attestations) (hb : b ∈ h.attestations) :
    a = b ∨ a.Apart b := by
  have hp : h.attestations.Pairwise fun a b => a = b ∨ a.Apart b := hl.attestations.imp Or.inr
  have hf : h.attestations.Pairwise (flip fun a b => a = b ∨ a.Apart b) :=
    hl.attestations.imp fun hab => .inr fun hv => by
      obtain ⟨h1, h2, h3⟩ := hab hv.symm
      exact ⟨h1.symm, h3, h2⟩
  exact List.Pairwise.forall_of_forall_of_flip (fun _ _ => .inl rfl) hp hf ha hb

theorem eq_of_target (hl : h.Lawful) {a b : AttestationRow} (ha : a ∈ h.attestations) (hb : b ∈ h.attestations)
    (hv : a.validator = b.validator) (ht : a.target = b.target) : a = b := by
  rcases hl.eq_or_apart ha hb with he | hab
  · exact he
  · exact absurd ht (hab hv).1

/-- The source of an attestation grows with its target. -/
theorem source_le (hl : h.Lawful) {a b : AttestationRow} (ha : a ∈ h.attestations) (hb : b ∈ h.attestations)
    (hv : a.validator = b.validator) (ht : a.target ≤ b.target) : a.source ≤ b.source := by
  rcases hl.eq_or_apart ha hb with rfl | hab
  · exact Int.le_refl _
  · obtain ⟨hne, -, hn⟩ := hab hv
    simp only [AttestationRow.Surrounds] at hn
    omega

end History.Lawful

/-- These tables refuse whatever the history speaks against. -/
structure Guards (t : Tables) (h : History) : Prop where
  lawful : h.Lawful
  blocksLegible : ∀ r ∈ h.blocks, r.Legible
  attestationsLegible : ∀ r ∈ h.attestations, r.Legible
  blockOwners : ∀ r ∈ h.blocks, t.isRegistered r.validator = true
  attestationOwners : ∀ r ∈ h.attestations, t.isRegistered r.validator = true
  watermarks : ∀ r ∈ t.watermarks, r.Legible
  genesis : ∀ bytes ∈ t.genesis, ∃ root : Root, root.toList = bytes
  blocks : t.blocks.Sublist h.blocks
  attestations : t.attestations.Sublist h.attestations
  blocksGone : ∀ r ∈ h.blocks, r ∉ t.blocks → r.slot < (t.floorOf r.validator).slot
  attestationsGone : ∀ r ∈ h.attestations, r ∉ t.attestations → r.target < (t.floorOf r.validator).target
  attestationsBelow : ∀ r ∈ h.attestations, r.target < (t.floorOf r.validator).target →
    r.source ≤ (t.floorOf r.validator).source
  slotRecorded : ∀ id, (t.floorOf id).slot = 0 ∨ ∃ r ∈ h.blocks, r.validator = id ∧ r.slot = (t.floorOf id).slot
  pairRecorded : ∀ id, ((t.floorOf id).source = 0 ∧ (t.floorOf id).target = 0) ∨
    ∃ r ∈ h.attestations, r.validator = id ∧ r.source = (t.floorOf id).source ∧ r.target = (t.floorOf id).target

theorem guards_empty (version : Option Int) : Guards { version := version } {} where
  lawful := ⟨List.Pairwise.nil, List.Pairwise.nil, fun _ hr => by cases hr⟩
  blocksLegible _ hr := by cases hr
  attestationsLegible _ hr := by cases hr
  blockOwners _ hr := by cases hr
  attestationOwners _ hr := by cases hr
  watermarks _ hr := by cases hr
  genesis _ hr := by cases hr
  blocks := List.Sublist.slnil
  attestations := List.Sublist.slnil
  blocksGone _ hr := by cases hr
  attestationsGone _ hr := by cases hr
  attestationsBelow _ hr := by cases hr
  slotRecorded _ := .inl rfl
  pairRecorded _ := .inl ⟨rfl, rfl⟩

namespace Guards
variable {t t' : Tables} {h : History}

theorem wellFormed (g : Guards t h) : t.WellFormed where
  blocks r hr := g.blocksLegible r (g.blocks.subset hr)
  attestations r hr := g.attestationsLegible r (g.attestations.subset hr)
  watermarks := g.watermarks
  genesis := g.genesis
  blockOwners r hr := g.blockOwners r (g.blocks.subset hr)
  attestationOwners r hr := g.attestationOwners r (g.attestations.subset hr)
  oneBlock _ ha _ hb := g.lawful.eq_of_slot (g.blocks.subset ha) (g.blocks.subset hb)

/-- A permitted new block is apart from every block ever recorded. -/
theorem block_apart (g : Guards t h) {c : BlockProposal} (hv : Scan.block t c = .record) :
    ∀ r ∈ h.blocks, r.Apart c.row := by
  intro r hr hid hs
  have hid : r.validator = c.validator := hid
  have hs : r.slot = (c.slot : Int) := hs
  obtain ⟨hfloor, hnew⟩ := Scan.block_record hv
  by_cases hm : r ∈ t.blocks
  · exact hnew r (Tables.mem_blocksOf.mpr ⟨hm, hid⟩) hs
  · have hgone := g.blocksGone r hr hm
    rw [hid] at hgone
    omega

/-- A permitted new attestation is apart from every attestation ever recorded. -/
theorem attestation_apart (g : Guards t h) {c : Attestation} (hv : Scan.attestation t c = .record) :
    ∀ r ∈ h.attestations, r.Apart c.row := by
  intro r hr hid
  have hid : r.validator = c.validator := hid
  obtain ⟨-, ht, hs, hnew⟩ := Scan.attestation_record hv
  by_cases hm : r ∈ t.attestations
  · exact hnew r (Tables.mem_attestationsOf.mpr ⟨hm, hid⟩)
  · have hgone := g.attestationsGone r hr hm
    have hbelow := g.attestationsBelow r hr hgone
    rw [hid] at hgone hbelow
    simp only [AttestationRow.Surrounds, Attestation.row]
    omega

theorem addBlock (g : Guards t h) {c : BlockProposal} (hv : Scan.block t c = .record) (hs : c.slot < storeBound)
    (hr : t.isRegistered c.validator = true) :
    Guards (t.addBlock c.row) { h with blocks := h.blocks ++ [c.row] } where
  lawful :=
    { g.lawful with
      blocks := List.pairwise_append.mpr ⟨g.lawful.blocks, List.pairwise_singleton _ _, fun a ha b hb =>
        List.mem_singleton.mp hb ▸ g.block_apart hv a ha⟩ }
  blocksLegible r hm := by
    rcases List.mem_append.mp hm with hm | hm
    · exact g.blocksLegible r hm
    · exact List.mem_singleton.mp hm ▸ ⟨c, hs, rfl⟩
  attestationsLegible := g.attestationsLegible
  blockOwners r hm := by
    rcases List.mem_append.mp hm with hm | hm
    · exact g.blockOwners r hm
    · obtain rfl := List.mem_singleton.mp hm
      exact hr
  attestationOwners := g.attestationOwners
  watermarks := g.watermarks
  genesis := g.genesis
  blocks := g.blocks.append (List.Sublist.refl _)
  attestations := g.attestations
  blocksGone r hm hn := by
    rcases List.mem_append.mp hm with hm | hm
    · exact g.blocksGone r hm fun ht => hn (List.mem_append_left _ ht)
    · exact absurd (List.mem_append_right _ hm) hn
  attestationsGone := g.attestationsGone
  attestationsBelow := g.attestationsBelow
  slotRecorded id := (g.slotRecorded id).imp_right fun ⟨r, hm, he⟩ => ⟨r, List.mem_append_left _ hm, he⟩
  pairRecorded := g.pairRecorded

theorem addAttestation (g : Guards t h) {c : Attestation} (hv : Scan.attestation t c = .record)
    (ht : c.target < storeBound) (hr : t.isRegistered c.validator = true) :
    Guards (t.addAttestation c.row) { h with attestations := h.attestations ++ [c.row] } where
  lawful :=
    { g.lawful with
      attestations := List.pairwise_append.mpr ⟨g.lawful.attestations, List.pairwise_singleton _ _,
        fun a ha b hb => List.mem_singleton.mp hb ▸ g.attestation_apart hv a ha⟩
      ordered := fun r hm => by
        rcases List.mem_append.mp hm with hm | hm
        · exact g.lawful.ordered r hm
        · obtain ⟨ho, -⟩ := Scan.attestation_record hv
          obtain rfl := List.mem_singleton.mp hm
          simpa [Attestation.row] using ho }
  blocksLegible := g.blocksLegible
  attestationsLegible r hm := by
    rcases List.mem_append.mp hm with hm | hm
    · exact g.attestationsLegible r hm
    · obtain ⟨ho, -⟩ := Scan.attestation_record hv
      exact List.mem_singleton.mp hm ▸ ⟨c, Nat.lt_of_le_of_lt ho ht, ht, rfl⟩
  blockOwners := g.blockOwners
  attestationOwners r hm := by
    rcases List.mem_append.mp hm with hm | hm
    · exact g.attestationOwners r hm
    · obtain rfl := List.mem_singleton.mp hm
      exact hr
  watermarks := g.watermarks
  genesis := g.genesis
  blocks := g.blocks
  attestations := g.attestations.append (List.Sublist.refl _)
  blocksGone := g.blocksGone
  attestationsGone r hm hn := by
    rcases List.mem_append.mp hm with hm | hm
    · exact g.attestationsGone r hm fun ht => hn (List.mem_append_left _ ht)
    · exact absurd (List.mem_append_right _ hm) hn
  attestationsBelow r hm hlt := by
    rcases List.mem_append.mp hm with hm | hm
    · exact g.attestationsBelow r hm hlt
    · obtain ⟨-, hge, -⟩ := Scan.attestation_record hv
      obtain rfl := List.mem_singleton.mp hm
      exact absurd hlt (Int.not_lt.mpr hge)
  slotRecorded := g.slotRecorded
  pairRecorded id := (g.pairRecorded id).imp_right fun ⟨r, hm, he⟩ => ⟨r, List.mem_append_left _ hm, he⟩

end Guards
end ValidatorSigner.Protection
