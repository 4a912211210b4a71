import ValidatorSigner.Proofs.Protection.Exactness

/-! # The rows of some validators

All validators share the same tables. Two states of the tables are the same for some of the validators when
these have the same rows in both, while the others may have any. Whatever is recorded, decided or pruned for
one validator depends on the rows of that one alone, and touches no others.
-/
namespace ValidatorSigner.Protection
open Store

/-- The same validators are registered and the chain is the same, and some of the validators have the same
rows and the same watermark. -/
structure SameFor (who : ValidatorId → Prop) (t t' : Tables) : Prop where
  validators : t'.validators = t.validators
  genesis : t'.genesis = t.genesis
  version : t'.version = t.version
  blocks : ∀ id, who id → t'.blocksOf id = t.blocksOf id
  attestations : ∀ id, who id → t'.attestationsOf id = t.attestationsOf id
  watermarks : ∀ id, who id → t'.watermarkOf id = t.watermarkOf id

namespace SameFor
variable {who : ValidatorId → Prop} {t t' t'' : Tables} {id : ValidatorId} {window : Retention}

theorem refl (who : ValidatorId → Prop) (t : Tables) : SameFor who t t :=
  ⟨rfl, rfl, rfl, fun _ _ => rfl, fun _ _ => rfl, fun _ _ => rfl⟩

theorem symm (hs : SameFor who t t') : SameFor who t' t where
  validators := hs.validators.symm
  genesis := hs.genesis.symm
  version := hs.version.symm
  blocks id hid := (hs.blocks id hid).symm
  attestations id hid := (hs.attestations id hid).symm
  watermarks id hid := (hs.watermarks id hid).symm

theorem trans (h₁ : SameFor who t t') (h₂ : SameFor who t' t'') : SameFor who t t'' where
  validators := h₂.validators.trans h₁.validators
  genesis := h₂.genesis.trans h₁.genesis
  version := h₂.version.trans h₁.version
  blocks id hid := (h₂.blocks id hid).trans (h₁.blocks id hid)
  attestations id hid := (h₂.attestations id hid).trans (h₁.attestations id hid)
  watermarks id hid := (h₂.watermarks id hid).trans (h₁.watermarks id hid)

theorem mono {less : ValidatorId → Prop} (hs : SameFor who t t') (hl : ∀ id, less id → who id) :
    SameFor less t t' where
  validators := hs.validators
  genesis := hs.genesis
  version := hs.version
  blocks id hid := hs.blocks id (hl id hid)
  attestations id hid := hs.attestations id (hl id hid)
  watermarks id hid := hs.watermarks id (hl id hid)

/-- What is the same for some and for the others is the same for all. -/
theorem union {others : ValidatorId → Prop} (hs : SameFor who t t') (ho : SameFor others t t') :
    SameFor (fun id => who id ∨ others id) t t' where
  validators := hs.validators
  genesis := hs.genesis
  version := hs.version
  blocks id hid := hid.elim (hs.blocks id) (ho.blocks id)
  attestations id hid := hid.elim (hs.attestations id) (ho.attestations id)
  watermarks id hid := hid.elim (hs.watermarks id) (ho.watermarks id)

theorem floorOf (hs : SameFor who t t') (hid : who id) : t'.floorOf id = t.floorOf id := by
  rw [Tables.floorOf, Tables.floorOf, hs.watermarks id hid]

theorem isRegistered (hs : SameFor who t t') (id : ValidatorId) : t'.isRegistered id = t.isRegistered id := by
  rw [Tables.isRegistered, Tables.isRegistered, hs.validators]

theorem idOf (hs : SameFor who t t') (key : PublicKey) : t'.idOf key = t.idOf key := by
  rw [Tables.idOf, Tables.idOf, hs.validators]

/-- Tables that are the same for all validators hold the same rows. -/
theorem perm_blocks (hs : SameFor (fun _ => True) t t') : t'.blocks.Perm t.blocks := by
  refine List.perm_iff_count.mpr fun r => ?_
  have hb := hs.blocks r.validator trivial
  rw [← List.count_filter (p := fun row => row.validator = r.validator) (by simp) (l := t'.blocks)]
  rw [← List.count_filter (p := fun row => row.validator = r.validator) (by simp) (l := t.blocks)]
  exact congrArg (List.count r) hb

theorem perm_attestations (hs : SameFor (fun _ => True) t t') : t'.attestations.Perm t.attestations := by
  refine List.perm_iff_count.mpr fun r => ?_
  have ha := hs.attestations r.validator trivial
  rw [← List.count_filter (p := fun row => row.validator = r.validator) (by simp) (l := t'.attestations)]
  rw [← List.count_filter (p := fun row => row.validator = r.validator) (by simp) (l := t.attestations)]
  exact congrArg (List.count r) ha

theorem scan_block (hs : SameFor who t t') {c : BlockProposal} (hc : who c.validator) :
    Scan.block t' c = Scan.block t c := by
  simp only [Scan.block, hs.floorOf hc, hs.blocks c.validator hc]

theorem scan_attestation (hs : SameFor who t t') {c : Attestation} (hc : who c.validator) :
    Scan.attestation t' c = Scan.attestation t c := by
  simp only [Scan.attestation, hs.floorOf hc, hs.attestations c.validator hc]

theorem addBlock (hs : SameFor who t t') (row : BlockRow) : SameFor who (t.addBlock row) (t'.addBlock row) where
  validators := hs.validators
  genesis := hs.genesis
  version := hs.version
  blocks id hid := by
    have hb := hs.blocks id hid
    unfold Tables.blocksOf at hb ⊢
    simp only [Tables.addBlock, List.filter_append, hb]
  attestations := hs.attestations
  watermarks := hs.watermarks

theorem addAttestation (hs : SameFor who t t') (row : AttestationRow) :
    SameFor who (t.addAttestation row) (t'.addAttestation row) where
  validators := hs.validators
  genesis := hs.genesis
  version := hs.version
  blocks := hs.blocks
  attestations id hid := by
    have ha := hs.attestations id hid
    unfold Tables.attestationsOf at ha ⊢
    simp only [Tables.addAttestation, List.filter_append, ha]
  watermarks := hs.watermarks

theorem addBlock_beyond (row : BlockRow) (hn : ¬ who row.validator) (t : Tables) :
    SameFor who t (t.addBlock row) where
  validators := rfl
  genesis := rfl
  version := rfl
  blocks id hid := by
    have hne : row.validator ≠ id := fun he => hn (he ▸ hid)
    unfold Tables.blocksOf
    simp [Tables.addBlock, List.filter_append, hne]
  attestations _ _ := rfl
  watermarks _ _ := rfl

theorem addAttestation_beyond (row : AttestationRow) (hn : ¬ who row.validator) (t : Tables) :
    SameFor who t (t.addAttestation row) where
  validators := rfl
  genesis := rfl
  version := rfl
  blocks _ _ := rfl
  attestations id hid := by
    have hne : row.validator ≠ id := fun he => hn (he ▸ hid)
    unfold Tables.attestationsOf
    simp [Tables.addAttestation, List.filter_append, hne]
  watermarks _ _ := rfl

theorem bind (hs : SameFor who t t') (root : Root) : SameFor who (bound t root) (bound t' root) where
  validators := hs.validators
  genesis := rfl
  version := hs.version
  blocks := hs.blocks
  attestations := hs.attestations
  watermarks := hs.watermarks

theorem enrol (hs : SameFor who t t') (key : PublicKey) :
    (Protection.enrol t' key).1 = (Protection.enrol t key).1 ∧
      SameFor who (Protection.enrol t key).2 (Protection.enrol t' key).2 := by
  have hnext : t'.nextId = t.nextId := by
    rw [Tables.nextId, Tables.nextId, hs.validators]
  unfold Protection.enrol
  rw [hs.idOf]
  cases t.idOf key with
  | some id => exact ⟨rfl, hs⟩
  | none =>
    refine ⟨hnext, ?_, hs.genesis, hs.version, hs.blocks, hs.attestations, hs.watermarks⟩
    simp only [Tables.addValidator, hs.validators, hnext]

theorem enrolAll (hs : SameFor who t t') (keys : List PublicKey) :
    (Protection.enrolAll t' keys).1 = (Protection.enrolAll t keys).1 ∧
      SameFor who (Protection.enrolAll t keys).2 (Protection.enrolAll t' keys).2 := by
  induction keys generalizing t t' with
  | nil => exact ⟨rfl, hs⟩
  | cons key rest ih =>
    obtain ⟨hfirst, hs₁⟩ := hs.enrol key
    obtain ⟨hrest, hs₂⟩ := ih hs₁
    exact ⟨congrArg₂ List.cons hfirst hrest, hs₂⟩

theorem nextFloor (hs : SameFor who t t') (hid : who id) (window : Retention) :
    nextFloor t' id window = nextFloor t id window := by
  simp only [Protection.nextFloor, keptAttestation, hs.floorOf hid, hs.blocks id hid, hs.attestations id hid]

theorem watermarkOf_raised (t : Tables) (id other : ValidatorId) (window : Retention) :
    (raised t id window).watermarkOf other =
      if other = id ∧ Protection.nextFloor t id window ≠ t.floorOf id then some (Protection.nextFloor t id window)
      else t.watermarkOf other := by
  unfold raised
  by_cases he : Protection.nextFloor t id window = t.floorOf id
  · rw [if_pos he, if_neg fun h => h.2 he]
  · have hv : (Protection.nextFloor t id window).validator = id := rfl
    rw [if_neg he, Tables.watermarkOf_putWatermark, hv]
    by_cases hid : other = id
    · rw [if_pos hid, if_pos ⟨hid, he⟩]
    · rw [if_neg hid, if_neg fun h => hid h.1]

theorem rest_raised (t : Tables) (id : ValidatorId) (window : Retention) :
    raised t id window = { t with watermarks := (raised t id window).watermarks } := by
  unfold raised
  split <;> rfl

theorem raised (hs : SameFor who t t') (hid : who id) (window : Retention) :
    SameFor who (Protection.raised t id window) (Protection.raised t' id window) := by
  have hw (other : ValidatorId) (ho : who other) :
      (Protection.raised t' id window).watermarkOf other = (Protection.raised t id window).watermarkOf other := by
    rw [watermarkOf_raised, watermarkOf_raised, hs.nextFloor hid, hs.floorOf hid, hs.watermarks other ho]
  rw [rest_raised t, rest_raised t'] at hw ⊢
  exact ⟨hs.validators, hs.genesis, hs.version, hs.blocks, hs.attestations, hw⟩

theorem raised_beyond (hn : ¬ who id) (t : Tables) (window : Retention) :
    SameFor who t (Protection.raised t id window) := by
  have hw (other : ValidatorId) (ho : who other) :
      (Protection.raised t id window).watermarkOf other = t.watermarkOf other := by
    refine (watermarkOf_raised t id other window).trans (if_neg ?_)
    rintro ⟨rfl, -⟩
    exact hn ho
  rw [rest_raised t] at hw ⊢
  exact ⟨rfl, rfl, rfl, fun _ _ => rfl, fun _ _ => rfl, hw⟩

theorem pruned_beyond (hn : ¬ who id) (t : Tables) (window : Retention) :
    SameFor who t (Protection.pruned t id window) where
  validators := (raised_beyond hn t window).validators
  genesis := (raised_beyond hn t window).genesis
  version := (raised_beyond hn t window).version
  blocks _ ho := blocksOf_pruned_of_ne fun he => hn (he ▸ ho)
  attestations _ ho := attestationsOf_pruned_of_ne fun he => hn (he ▸ ho)
  watermarks := (raised_beyond hn t window).watermarks

theorem pruned_other {other : ValidatorId} (hne : other ≠ id) (t : Tables) (window : Retention) :
    SameFor (· = other) t (Protection.pruned t id window) :=
  pruned_beyond (fun he => hne he.symm) t window

theorem pruned (hs : SameFor who t t') (hid : who id) (window : Retention) :
    SameFor who (pruned t id window) (pruned t' id window) := by
  have hself (t : Tables) : SameFor (· ≠ id) t (Protection.pruned t id window) :=
    pruned_beyond (fun hn => hn rfl) t window
  have hnext := hs.nextFloor hid window
  have hframe : SameFor (fun other => who other ∧ other ≠ id) (Protection.pruned t id window)
      (Protection.pruned t' id window) :=
    ((hself t).symm.mono fun _ h => h.2).trans ((hs.mono fun _ h => h.1).trans ((hself t').mono fun _ h => h.2))
  refine ⟨hframe.validators, hframe.genesis, hframe.version, fun other ho => ?_, fun other ho => ?_, fun other ho => ?_⟩
  · by_cases he : other = id
    · rw [he, blocksOf_pruned, blocksOf_pruned, hs.blocks id hid, hnext]
    · exact hframe.blocks other ⟨ho, he⟩
  · by_cases he : other = id
    · rw [he, attestationsOf_pruned, attestationsOf_pruned, hs.attestations id hid, hnext]
    · exact hframe.attestations other ⟨ho, he⟩
  · exact (hs.raised hid window).watermarks other ho

/-- What is removed below a watermark is counted in the rows of its validator. -/
theorem sweptReport (hs : SameFor who t t') {w : WatermarkRow} (hw : who w.validator) :
    sweptReport t' w = sweptReport t w := by
  have hblocks (t : Tables) : t.blocks.countP w.passesBlock =
      (t.blocksOf w.validator).countP (fun r => r.slot < w.slot) := by
    rw [Tables.blocksOf, List.countP_filter]
    exact List.countP_congr fun r _ => by simp [WatermarkRow.passesBlock, and_comm]
  have hattestations (t : Tables) : t.attestations.countP w.passesAttestation =
      (t.attestationsOf w.validator).countP (fun r => r.target < w.target) := by
    rw [Tables.attestationsOf, List.countP_filter]
    exact List.countP_congr fun r _ => by simp [WatermarkRow.passesAttestation, and_comm]
  simp only [Protection.sweptReport, hblocks, hattestations, hs.blocks _ hw, hs.attestations _ hw]

end SameFor
end ValidatorSigner.Protection
