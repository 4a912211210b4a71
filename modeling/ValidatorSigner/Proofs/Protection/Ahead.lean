import ValidatorSigner.Proofs.Protection.Effect

/-! # Tables that are ahead in pruning

Two stores that have seen the same requests may have pruned differently far. The one that is ahead has the
higher watermarks; from those on both hold the same rows, and what the other one still holds below them has
no greater sources. Then the one that is ahead answers alike, or refuses below its watermark.
-/
namespace ValidatorSigner.Protection
open Store

/-- The tables `p` have pruned at least as far as the tables `u`. -/
structure Ahead (p u : Tables) : Prop where
  validators : p.validators = u.validators
  genesis : p.genesis = u.genesis
  slots : ∀ id, (u.floorOf id).slot ≤ (p.floorOf id).slot
  sources : ∀ id, (u.floorOf id).source ≤ (p.floorOf id).source
  targets : ∀ id, (u.floorOf id).target ≤ (p.floorOf id).target
  blocks : ∀ r : BlockRow, (p.floorOf r.validator).slot ≤ r.slot → (r ∈ p.blocks ↔ r ∈ u.blocks)
  attestations : ∀ r : AttestationRow, (p.floorOf r.validator).target ≤ r.target →
    (r ∈ p.attestations ↔ r ∈ u.attestations)
  below : ∀ r ∈ u.attestations, r.target < (p.floorOf r.validator).target → r.source ≤ (p.floorOf r.validator).source

section Recorded
variable {t : Tables} {h : History}

/-- The slot of a watermark is the slot of a block that is still there. -/
theorem Guards.slot_present (g : Guards t h) (id : ValidatorId) :
    (t.floorOf id).slot = 0 ∨ ∃ r ∈ t.blocksOf id, r.slot = (t.floorOf id).slot := by
  rcases g.slotRecorded id with h0 | ⟨r, hr, rfl, hs⟩
  · exact .inl h0
  · by_cases hm : r ∈ t.blocks
    · exact .inr ⟨r, Tables.mem_blocksOf.mpr ⟨hm, rfl⟩, hs⟩
    · have := g.blocksGone r hr hm
      omega

/-- Source and target of a watermark are those of an attestation that is still there. -/
theorem Guards.pair_present (g : Guards t h) (id : ValidatorId) :
    ((t.floorOf id).source = 0 ∧ (t.floorOf id).target = 0) ∨
      ∃ r ∈ t.attestationsOf id, r.source = (t.floorOf id).source ∧ r.target = (t.floorOf id).target := by
  rcases g.pairRecorded id with h0 | ⟨r, hr, rfl, hs, ht⟩
  · exact .inl h0
  · by_cases hm : r ∈ t.attestations
    · exact .inr ⟨r, Tables.mem_attestationsOf.mpr ⟨hm, rfl⟩, hs, ht⟩
    · have := g.attestationsGone r hr hm
      omega

end Recorded

namespace Ahead
variable {p p' u u' : Tables} {hp hu : History}

theorem refl (g : Guards p hp) : Ahead p p where
  validators := rfl
  genesis := rfl
  slots _ := Int.le_refl _
  sources _ := Int.le_refl _
  targets _ := Int.le_refl _
  blocks _ _ := Iff.rfl
  attestations _ _ := Iff.rfl
  below r hr := g.attestationsBelow r (g.attestations.subset hr)

theorem isRegistered (ha : Ahead p u) (id : ValidatorId) : p.isRegistered id = u.isRegistered id := by
  simp only [Tables.isRegistered, ha.validators]

theorem symm (ha : Ahead p u) (g : Guards p hp) (he : p.watermarks = u.watermarks) : Ahead u p := by
  have hf : ∀ id, u.floorOf id = p.floorOf id := fun id => by simp only [Tables.floorOf, Tables.watermarkOf, he]
  exact {
    validators := ha.validators.symm
    genesis := ha.genesis.symm
    slots := fun id => by simp only [hf, Int.le_refl]
    sources := fun id => by simp only [hf, Int.le_refl]
    targets := fun id => by simp only [hf, Int.le_refl]
    blocks := fun r hr => (ha.blocks r (by rwa [← hf])).symm
    attestations := fun r hr => (ha.attestations r (by rwa [← hf])).symm
    below := fun r hr hlt => by
      rw [hf] at hlt ⊢
      exact g.attestationsBelow r (g.attestations.subset hr) hlt }

theorem exists_block_iff (ha : Ahead p u) {id : ValidatorId} {slot : Int} (hs : (p.floorOf id).slot ≤ slot)
    (P : BlockRow → Prop) :
    (∃ r ∈ p.blocksOf id, r.slot = slot ∧ P r) ↔ ∃ r ∈ u.blocksOf id, r.slot = slot ∧ P r := by
  have hm (r : BlockRow) (hr : r.slot = slot) : r ∈ p.blocksOf id ↔ r ∈ u.blocksOf id := by
    rw [Tables.mem_blocksOf, Tables.mem_blocksOf]
    by_cases hid : r.validator = id
    · rw [ha.blocks r (by rw [hid, hr]; exact hs)]
    · simp [hid]
  exact ⟨fun ⟨r, hr, he, hP⟩ => ⟨r, (hm r he).mp hr, he, hP⟩, fun ⟨r, hr, he, hP⟩ => ⟨r, (hm r he).mpr hr, he, hP⟩⟩

theorem scan_block (ha : Ahead p u) {c : BlockProposal} (hs : (p.floorOf c.validator).slot ≤ c.slot) :
    Scan.block p c = Scan.block u c := by
  have h1 : ¬ (c.slot : Int) < (p.floorOf c.validator).slot := Int.not_lt.mpr hs
  have h2 : ¬ (c.slot : Int) < (u.floorOf c.validator).slot :=
    Int.not_lt.mpr (Int.le_trans (ha.slots _) hs)
  have h3 := ha.exists_block_iff hs fun r => r.root ≠ c.root.toList
  have h4 : (∃ r ∈ p.blocksOf c.validator, r.slot = (c.slot : Int)) ↔
      ∃ r ∈ u.blocksOf c.validator, r.slot = (c.slot : Int) := by
    simpa using ha.exists_block_iff hs fun _ => True
  simp only [Scan.block, if_neg h1, if_neg h2, h3, h4]

theorem mem_attestationsOf_iff (ha : Ahead p u) {id : ValidatorId} {r : AttestationRow}
    (ht : (p.floorOf id).target ≤ r.target) : r ∈ p.attestationsOf id ↔ r ∈ u.attestationsOf id := by
  rw [Tables.mem_attestationsOf, Tables.mem_attestationsOf]
  by_cases hid : r.validator = id
  · rw [ha.attestations r (by rwa [hid])]
  · simp [hid]

theorem scan_attestation (ha : Ahead p u) (g : Guards p hp) {c : Attestation}
    (ht : (p.floorOf c.validator).target ≤ c.target) (hs : (p.floorOf c.validator).source ≤ c.source) :
    Scan.attestation p c = Scan.attestation u c := by
  have h1 : ¬ ((c.target : Int) < (p.floorOf c.validator).target ∨
      (c.source : Int) < (p.floorOf c.validator).source) := by
    omega
  have h2 : ¬ ((c.target : Int) < (u.floorOf c.validator).target ∨
      (c.source : Int) < (u.floorOf c.validator).source) := by
    have := ha.targets c.validator
    have := ha.sources c.validator
    omega
  have same_target (P : AttestationRow → Prop) :
      (∃ r ∈ p.attestationsOf c.validator, r.target = (c.target : Int) ∧ P r) ↔
      ∃ r ∈ u.attestationsOf c.validator, r.target = (c.target : Int) ∧ P r := by
    constructor
    · rintro ⟨r, hr, he, hP⟩
      exact ⟨r, (ha.mem_attestationsOf_iff (by omega)).mp hr, he, hP⟩
    · rintro ⟨r, hr, he, hP⟩
      exact ⟨r, (ha.mem_attestationsOf_iff (by omega)).mpr hr, he, hP⟩
  have h3 := same_target fun r => r.root ≠ c.root.toList
  have h4 : (∃ r ∈ p.attestationsOf c.validator, r.target = (c.target : Int)) ↔
      ∃ r ∈ u.attestationsOf c.validator, r.target = (c.target : Int) := by
    simpa using same_target fun _ => True
  have h5 : (∃ r ∈ p.attestationsOf c.validator, r.Surrounds c.row) ↔
      ∃ r ∈ u.attestationsOf c.validator, r.Surrounds c.row := by
    have hge {r : AttestationRow} (hr : r.Surrounds c.row) : (p.floorOf c.validator).target ≤ r.target := by
      simp only [AttestationRow.Surrounds, Attestation.row] at hr
      omega
    constructor
    · rintro ⟨r, hr, hsur⟩
      exact ⟨r, (ha.mem_attestationsOf_iff (hge hsur)).mp hr, hsur⟩
    · rintro ⟨r, hr, hsur⟩
      exact ⟨r, (ha.mem_attestationsOf_iff (hge hsur)).mpr hr, hsur⟩
  -- A row below the watermark has no source that the candidate could lie around.
  have h6 : (∃ r ∈ p.attestationsOf c.validator, c.row.Surrounds r) ↔
      ∃ r ∈ u.attestationsOf c.validator, c.row.Surrounds r := by
    constructor
    · rintro ⟨r, hr, hsur⟩
      obtain ⟨hm, hid⟩ := Tables.mem_attestationsOf.mp hr
      have hge : (p.floorOf c.validator).target ≤ r.target := by
        by_cases hlt : r.target < (p.floorOf c.validator).target
        · have := g.attestationsBelow r (g.attestations.subset hm) (by rwa [hid])
          rw [hid] at this
          simp only [AttestationRow.Surrounds, Attestation.row] at hsur
          omega
        · exact Int.not_lt.mp hlt
      exact ⟨r, (ha.mem_attestationsOf_iff hge).mp hr, hsur⟩
    · rintro ⟨r, hr, hsur⟩
      obtain ⟨hm, hid⟩ := Tables.mem_attestationsOf.mp hr
      have hge : (p.floorOf c.validator).target ≤ r.target := by
        by_cases hlt : r.target < (p.floorOf c.validator).target
        · have := ha.below r hm (by rwa [hid])
          rw [hid] at this
          simp only [AttestationRow.Surrounds, Attestation.row] at hsur
          omega
        · exact Int.not_lt.mp hlt
      exact ⟨r, (ha.mem_attestationsOf_iff hge).mpr hr, hsur⟩
  simp only [Scan.attestation, if_neg h1, if_neg h2, h3, h4, h5, h6]

theorem frame (ha : Ahead p u) (hv : p'.validators = u'.validators) (hg : p'.genesis = u'.genesis)
    (hp : p'.blocks = p.blocks ∧ p'.attestations = p.attestations ∧ p'.watermarks = p.watermarks)
    (hu : u'.blocks = u.blocks ∧ u'.attestations = u.attestations ∧ u'.watermarks = u.watermarks) : Ahead p' u' := by
  obtain ⟨hpb, hpa, hpw⟩ := hp
  obtain ⟨hub, hua, huw⟩ := hu
  have hfp : ∀ id, p'.floorOf id = p.floorOf id := fun id => by simp only [Tables.floorOf, Tables.watermarkOf, hpw]
  have hfu : ∀ id, u'.floorOf id = u.floorOf id := fun id => by simp only [Tables.floorOf, Tables.watermarkOf, huw]
  constructor
  · exact hv
  · exact hg
  · simpa only [hfp, hfu] using ha.slots
  · simpa only [hfp, hfu] using ha.sources
  · simpa only [hfp, hfu] using ha.targets
  · simpa only [hfp, hpb, hub] using ha.blocks
  · simpa only [hfp, hpa, hua] using ha.attestations
  · simpa only [hfp, hua] using ha.below

theorem addBlock (ha : Ahead p u) (row : BlockRow) : Ahead (p.addBlock row) (u.addBlock row) where
  validators := ha.validators
  genesis := ha.genesis
  slots := ha.slots
  sources := ha.sources
  targets := ha.targets
  blocks r hr := by
    simp only [Tables.addBlock, List.mem_append, ha.blocks r hr]
  attestations := ha.attestations
  below := ha.below

theorem addAttestation (ha : Ahead p u) {row : AttestationRow} (ht : (p.floorOf row.validator).target ≤ row.target) :
    Ahead (p.addAttestation row) (u.addAttestation row) where
  validators := ha.validators
  genesis := ha.genesis
  slots := ha.slots
  sources := ha.sources
  targets := ha.targets
  blocks := ha.blocks
  attestations r hr := by
    simp only [Tables.addAttestation, List.mem_append, ha.attestations r hr]
  below r hr hlt := by
    rcases List.mem_append.mp hr with hr | hr
    · exact ha.below r hr hlt
    · obtain rfl := List.mem_singleton.mp hr
      exact absurd hlt (Int.not_lt.mpr ht)

/-- A block that only the other side permits lies below the watermark. -/
theorem addBlock_below (ha : Ahead p u) {row : BlockRow} (hs : row.slot < (p.floorOf row.validator).slot) :
    Ahead p (u.addBlock row) where
  validators := ha.validators
  genesis := ha.genesis
  slots := ha.slots
  sources := ha.sources
  targets := ha.targets
  blocks r hr := by
    have hne : r ≠ row := by
      rintro rfl
      omega
    simp only [Tables.addBlock, List.mem_append, List.mem_singleton, hne, or_false, ha.blocks r hr]
  attestations := ha.attestations
  below := ha.below

/-- An attestation that only the other side permits lies below the watermark with its target, and not above
it with its source: the attestation that the watermark stands for is on record on both sides. -/
theorem addAttestation_below (ha : Ahead p u) (g : Guards p hp) {c : Attestation}
    (hv : Scan.attestation u c = .record)
    (hb : (c.target : Int) < (p.floorOf c.validator).target ∨ (c.source : Int) < (p.floorOf c.validator).source) :
    Ahead p (u.addAttestation c.row) := by
  obtain ⟨hle, -, -, hnew⟩ := Scan.attestation_record hv
  have hkey : (c.target : Int) < (p.floorOf c.validator).target ∧
      (c.source : Int) ≤ (p.floorOf c.validator).source := by
    rcases g.pair_present c.validator with ⟨h1, h2⟩ | ⟨r, hr, hs, ht⟩
    · omega
    · have hm : r ∈ u.attestationsOf c.validator := (ha.mem_attestationsOf_iff (by omega)).mp hr
      obtain ⟨h1, h2, h3⟩ := hnew r hm
      simp only [AttestationRow.Surrounds, Attestation.row] at h2 h3
      omega
  exact {
    validators := ha.validators
    genesis := ha.genesis
    slots := ha.slots
    sources := ha.sources
    targets := ha.targets
    blocks := ha.blocks
    attestations := fun r hr => by
      have hne : r ≠ c.row := by
        rintro rfl
        simp only [Attestation.row] at hr
        omega
      simp only [Tables.addAttestation, List.mem_append, List.mem_singleton, hne, or_false, ha.attestations r hr]
    below := fun r hr hlt => by
      rcases List.mem_append.mp hr with hr | hr
      · exact ha.below r hr hlt
      · obtain rfl := List.mem_singleton.mp hr
        exact hkey.2 }

theorem forget_left (ha : Ahead p u) (hf : Forgets p p') : Ahead p' u := by
  have hfloor := hf.floorOf
  constructor
  · rw [hf.rest]
    exact ha.validators
  · rw [hf.rest]
    exact ha.genesis
  · simpa only [hfloor] using ha.slots
  · simpa only [hfloor] using ha.sources
  · simpa only [hfloor] using ha.targets
  · intro r hr
    rw [hfloor] at hr
    rw [← ha.blocks r hr]
    refine ⟨fun hm => hf.blocks.subset hm, fun hm => Decidable.byContradiction fun hn => ?_⟩
    have := hf.blocksGone r hm hn
    omega
  · intro r hr
    rw [hfloor] at hr
    rw [← ha.attestations r hr]
    refine ⟨fun hm => hf.attestations.subset hm, fun hm => Decidable.byContradiction fun hn => ?_⟩
    have := hf.attestationsGone r hm hn
    omega
  · simpa only [hfloor] using ha.below

theorem forget_right (ha : Ahead p u) (hf : Forgets u u') : Ahead p u' := by
  have hfloor := hf.floorOf
  constructor
  · rw [hf.rest]
    exact ha.validators
  · rw [hf.rest]
    exact ha.genesis
  · simpa only [hfloor] using ha.slots
  · simpa only [hfloor] using ha.sources
  · simpa only [hfloor] using ha.targets
  · intro r hr
    rw [ha.blocks r hr]
    refine ⟨fun hm => Decidable.byContradiction fun hn => ?_, fun hm => hf.blocks.subset hm⟩
    have := hf.blocksGone r hm hn
    have := ha.slots r.validator
    omega
  · intro r hr
    rw [ha.attestations r hr]
    refine ⟨fun hm => Decidable.byContradiction fun hn => ?_, fun hm => hf.attestations.subset hm⟩
    have := hf.attestationsGone r hm hn
    have := ha.targets r.validator
    omega
  · exact fun r hr => ha.below r (hf.attestations.subset hr)

theorem raise_left (ha : Ahead p u) (g : Guards p hp) (gu : Guards u hu) (id : ValidatorId) (window : Retention) :
    Ahead (raised p id window) u := by
  have hfloor (other : ValidatorId) : (raised p id window).floorOf other =
      if other = id then nextFloor p id window else p.floorOf other := floorOf_raised ..
  have hge (other : ValidatorId) : (p.floorOf other).slot ≤ ((raised p id window).floorOf other).slot ∧
      (p.floorOf other).source ≤ ((raised p id window).floorOf other).source ∧
      (p.floorOf other).target ≤ ((raised p id window).floorOf other).target := by
    rw [hfloor]
    split
    · rename_i he
      rw [he]
      exact nextFloor_ge p id window
    · exact ⟨Int.le_refl _, Int.le_refl _, Int.le_refl _⟩
  obtain ⟨hvalidators, hgenesis, hblocks, hattestations⟩ := raised_rest p id window
  constructor
  · exact hvalidators.trans ha.validators
  · exact hgenesis.trans ha.genesis
  · exact fun other => Int.le_trans (ha.slots other) (hge other).1
  · exact fun other => Int.le_trans (ha.sources other) (hge other).2.1
  · exact fun other => Int.le_trans (ha.targets other) (hge other).2.2
  · intro r hr
    rw [hblocks]
    exact ha.blocks r (Int.le_trans (hge _).1 hr)
  · intro r hr
    rw [hattestations]
    exact ha.attestations r (Int.le_trans (hge _).2.2 hr)
  · intro r hr hlt
    rw [hfloor] at hlt ⊢
    split at hlt
    · rename_i hid
      rw [if_pos hid]
      rcases g.nextFloor_pair id window with ⟨hs, ht⟩ | ⟨low, hlow, hs, ht⟩
      · have := ha.below r hr (by rw [hid]; omega)
        rw [hid] at this
        omega
      · -- The row that is kept is on record on the other side too.
        have hge := nextFloor_ge p id window
        have hm := (ha.mem_attestationsOf_iff (by omega)).mp hlow
        obtain ⟨hm, hlid⟩ := Tables.mem_attestationsOf.mp hm
        have := gu.lawful.source_le (gu.attestations.subset hr) (gu.attestations.subset hm) (hid.trans hlid.symm)
          (by omega)
        omega
    · rename_i hid
      rw [if_neg hid]
      exact ha.below r hr hlt

/-- The side that is ahead stays ahead when both raise a watermark. -/
theorem nextFloor_le (ha : Ahead p u) (g : Guards p hp) (gu : Guards u hu) (id : ValidatorId) (window : Retention) :
    (nextFloor u id window).slot ≤ (nextFloor p id window).slot ∧
      (nextFloor u id window).source ≤ (nextFloor p id window).source ∧
      (nextFloor u id window).target ≤ (nextFloor p id window).target := by
  have hslot : keptKey (·.slot) window.blockFloor (u.blocksOf id) ≤
      max (p.floorOf id).slot (keptKey (·.slot) window.blockFloor (p.blocksOf id)) := by
    refine keptKey_le window.blockFloor_le (fun r hr => (slot_bounds (blocksOf_legible g.wellFormed id r hr)).1)
      (fun r hr => (slot_bounds (blocksOf_legible gu.wellFormed id r hr)).1) (g.slot_present id) fun r hr => ?_
    rw [Tables.mem_blocksOf, Tables.mem_blocksOf]
    by_cases hid : r.validator = id
    · rw [ha.blocks r (by rwa [hid])]
    · simp [hid]
  have htarget : keptKey (·.target) window.attestationFloor (u.attestationsOf id) ≤
      max (p.floorOf id).target (keptKey (·.target) window.attestationFloor (p.attestationsOf id)) := by
    refine keptKey_le window.attestationFloor_le
      (fun r hr => (epoch_bounds (attestationsOf_legible g.wellFormed id r hr)).2.2.1)
      (fun r hr => (epoch_bounds (attestationsOf_legible gu.wellFormed id r hr)).2.2.1) ?_
      fun r hr => ha.mem_attestationsOf_iff hr
    exact (g.pair_present id).imp (·.2) fun ⟨r, hr, _, ht⟩ => ⟨r, hr, ht⟩
  have hslots := ha.slots id
  have htargets := ha.targets id
  have hsources := ha.sources id
  have ht : (nextFloor u id window).target ≤ (nextFloor p id window).target := by
    simp only [nextFloor]
    omega
  refine ⟨by simp only [nextFloor]; omega, ?_, ht⟩
  obtain ⟨-, hsource, htge⟩ := nextFloor_ge p id window
  rcases gu.nextFloor_pair id window with ⟨hs, -⟩ | ⟨low, hlow, hls, hlt⟩
  · omega
  obtain ⟨hm, hlid⟩ := Tables.mem_attestationsOf.mp hlow
  have hraised : (raised p id window).floorOf id = nextFloor p id window := by rw [floorOf_raised, if_pos rfl]
  rw [← hls]
  by_cases hlt' : low.target < (nextFloor p id window).target
  · have := (ha.raise_left g gu id window).below low hm (by rwa [hlid, hraised])
    rwa [hlid, hraised] at this
  · -- Both watermarks stand at one target, hence for one attestation.
    have hmp := (ha.mem_attestationsOf_iff (by omega)).mpr hlow
    obtain ⟨hmp, -⟩ := Tables.mem_attestationsOf.mp hmp
    rcases (g.raise id window).pairRecorded id with ⟨h1, h2⟩ | ⟨r, hr, hrid, hrs, hrt⟩
    · have := gu.lawful.ordered low (gu.attestations.subset hm)
      rw [hraised] at h1 h2
      omega
    · rw [hraised] at hrs hrt
      have := g.lawful.source_le (g.attestations.subset hmp) hr (hlid.trans hrid.symm) (by omega)
      omega

theorem raise_both (ha : Ahead p u) (g : Guards p hp) (gu : Guards u hu) (id : ValidatorId) (window : Retention) :
    Ahead (raised p id window) (raised u id window) := by
  have hl := ha.raise_left g gu id window
  have hle := ha.nextFloor_le g gu id window
  have hfp := fun other => floorOf_raised p id other window
  have hfu := fun other => floorOf_raised u id other window
  obtain ⟨hvalidators, hgenesis, hblocks, hattestations⟩ := raised_rest u id window
  have hfloors (other : ValidatorId) :
      ((raised u id window).floorOf other).slot ≤ ((raised p id window).floorOf other).slot ∧
      ((raised u id window).floorOf other).source ≤ ((raised p id window).floorOf other).source ∧
      ((raised u id window).floorOf other).target ≤ ((raised p id window).floorOf other).target := by
    rw [hfp, hfu]
    split
    · exact hle
    · exact ⟨ha.slots other, ha.sources other, ha.targets other⟩
  constructor
  · exact hl.validators.trans hvalidators.symm
  · exact hl.genesis.trans hgenesis.symm
  · exact fun other => (hfloors other).1
  · exact fun other => (hfloors other).2.1
  · exact fun other => (hfloors other).2.2
  · rw [hblocks]
    exact hl.blocks
  · rw [hattestations]
    exact hl.attestations
  · rw [hattestations]
    exact hl.below

end Ahead
end ValidatorSigner.Protection
