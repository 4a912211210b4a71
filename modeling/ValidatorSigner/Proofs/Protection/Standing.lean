import ValidatorSigner.Proofs.Protection.Unobservable
import ValidatorSigner.Proofs.Protection.Untouched

/-! # Where watermarks stand

A watermark is raised part by part, and yet its source and its target are always those of one attestation
that is still on record. Nothing but pruning moves it, and it only moves up. So pruning never reaches the
highest records of a validator.
-/
namespace ValidatorSigner.Protection
open Store Telemetry

def Rises (t t' : Tables) : Prop :=
  ∀ id, (t.floorOf id).slot ≤ (t'.floorOf id).slot ∧ (t.floorOf id).source ≤ (t'.floorOf id).source ∧
    (t.floorOf id).target ≤ (t'.floorOf id).target

section Tables
variable {t t' t'' : Tables} {o : Offer} {h : History}

theorem Rises.refl (t : Tables) : Rises t t := fun _ => ⟨Int.le_refl _, Int.le_refl _, Int.le_refl _⟩

theorem Rises.trans (h₁ : Rises t t') (h₂ : Rises t' t'') : Rises t t'' := by
  intro id
  obtain ⟨hslot₁, hsource₁, htarget₁⟩ := h₁ id
  obtain ⟨hslot₂, hsource₂, htarget₂⟩ := h₂ id
  exact ⟨Int.le_trans hslot₁ hslot₂, Int.le_trans hsource₁ hsource₂, Int.le_trans htarget₁ htarget₂⟩

theorem rises_raised (t : Tables) (id : ValidatorId) (window : Retention) : Rises t (raised t id window) := by
  intro other
  rw [floorOf_raised]
  split
  · rename_i he
    subst he
    exact nextFloor_ge t other window
  · exact Rises.refl t other

theorem Quiet.rises (hq : Quiet t t') : Rises t t' := by
  cases hq with
  | enrol => exact .refl t
  | bind => exact .refl t
  | stamp => exact .refl t
  | trim ht =>
    cases ht with
    | raise id window => exact rises_raised t id window
    | forget hf =>
      intro id
      rw [hf.floorOf]
      exact Rises.refl t id

theorem rises_of_quietly (hq : Quietly t t') : Rises t t' := by
  induction hq with
  | refl => exact .refl t
  | tail _ hq ih => exact ih.trans hq.rises

theorem Change.rises (hc : Change t o t') : Rises t t' := by
  cases hc with
  | quiet hq => exact rises_of_quietly hq
  | block hq =>
    have hr := rises_of_quietly hq
    exact hr
  | attestation hq =>
    have hr := rises_of_quietly hq
    exact hr

/-- An attestation that the watermark does not refuse for its target, it does not refuse for its source. -/
theorem Guards.floor_source_le (g : Guards t h) {r : AttestationRow} (hr : r ∈ t.attestations)
    (ht : (t.floorOf r.validator).target ≤ r.target) : (t.floorOf r.validator).source ≤ r.source := by
  have hm := g.attestations.subset hr
  rcases g.pairRecorded r.validator with ⟨h0, -⟩ | ⟨low, hlow, hid, hs, hlt⟩
  · have := (epoch_bounds (g.attestationsLegible r hm)).1
    omega
  · have := g.lawful.source_le hlow hm hid (by omega)
    omega

/-- A block that is gone lies below another one that is still there. -/
theorem Guards.block_kept (g : Guards t' h) (hsub : t'.blocks ⊆ t.blocks) {r : BlockRow} (hr : r ∈ h.blocks)
    (htop : ∀ other ∈ t.blocks, other.validator = r.validator → other.slot ≤ r.slot) : r ∈ t'.blocks := by
  refine Decidable.byContradiction fun hn => ?_
  have hgone := g.blocksGone r hr hn
  rcases g.slot_present r.validator with h0 | ⟨low, hlow, hs⟩
  · have := (slot_bounds (g.blocksLegible r hr)).1
    omega
  · obtain ⟨hm, hid⟩ := Tables.mem_blocksOf.mp hlow
    have := htop low (hsub hm) hid
    omega

theorem Guards.attestation_kept (g : Guards t' h) (hsub : t'.attestations ⊆ t.attestations) {r : AttestationRow}
    (hr : r ∈ h.attestations)
    (htop : ∀ other ∈ t.attestations, other.validator = r.validator → other.target ≤ r.target) :
    r ∈ t'.attestations := by
  refine Decidable.byContradiction fun hn => ?_
  have hgone := g.attestationsGone r hr hn
  rcases g.pair_present r.validator with ⟨-, h0⟩ | ⟨low, hlow, -, ht⟩
  · have := (epoch_bounds (g.attestationsLegible r hr)).2.2.1
    omega
  · obtain ⟨hm, hid⟩ := Tables.mem_attestationsOf.mp hlow
    have := htop low (hsub hm) hid
    omega

theorem Change.block_kept (hc : Change t o t') (g : Guards t h) {r : BlockRow} (hr : r ∈ t.blocks)
    (htop : ∀ other ∈ t.blocks, other.validator = r.validator → other.slot ≤ r.slot) : r ∈ t'.blocks := by
  have quietly {t₁ : Tables} (hq : Quietly t t₁) : r ∈ t₁.blocks :=
    (g.quietly hq).block_kept (sublist_of_quietly hq).1.subset (g.blocks.subset hr) htop
  cases hc with
  | quiet hq => exact quietly hq
  | block hq => exact List.mem_append_left _ (quietly hq)
  | attestation hq =>
    have hm := quietly hq
    exact hm

theorem Change.attestation_kept (hc : Change t o t') (g : Guards t h) {r : AttestationRow} (hr : r ∈ t.attestations)
    (htop : ∀ other ∈ t.attestations, other.validator = r.validator → other.target ≤ r.target) :
    r ∈ t'.attestations := by
  have quietly {t₁ : Tables} (hq : Quietly t t₁) : r ∈ t₁.attestations :=
    (g.quietly hq).attestation_kept (sublist_of_quietly hq).2.subset (g.attestations.subset hr) htop
  cases hc with
  | quiet hq => exact quietly hq
  | block hq =>
    have hm := quietly hq
    exact hm
  | attestation hq => exact List.mem_append_left _ (quietly hq)

end Tables

/-- A request that does not prune moves no watermark. -/
theorem performWithin_watermarks (rounds : ValidatorId → Rounds) {op : Operation} (ho : op.prunes = false) :
    Request.Keeps Tables.watermarks (op.performWithin rounds) := by
  cases op with
  | resolveValidator key => exact (Request.keeps_resolveValidator (fun _ _ => rfl) key).answered _
  | registerValidators keys => exact (Request.keeps_registerValidators (fun _ _ => rfl) keys).answered _
  | validatorId key => exact (Request.keeps_validatorId key).answered _
  | allIds => exact Request.keeps_allIds.answered _
  | checkGenesis root => exact (Request.keeps_checkGenesis fun _ => rfl).answered _
  | genesisExists => exact Request.keeps_genesisExists.answered _
  | maySignBlock genesis c => exact (Request.keeps_maySignBlock (fun _ _ _ => rfl) (fun _ _ => rfl) c).answered _
  | maySignAttestation genesis c =>
    exact (Request.keeps_maySignAttestation (fun _ _ _ => rfl) (fun _ _ => rfl) c).answered _
  | prune id window => cases ho
  | pruneAll window => cases ho

namespace Run
variable {run : Run}

/-- Whatever happens changes the tables as a request does, if at all. -/
theorem Sound.change_next (hs : run.Sound) (rounds : ValidatorId → Rounds) (event : Event) :
    ∃ o, Change run.engine.tables o (run.next (·.performWithin rounds) event).engine.tables := by
  cases event with
  | request op => exact ⟨op.offer, (performWithin_leads rounds op hs.engine).change⟩
  | restart service => exact ⟨.nothing, .quiet .refl⟩
  | disturb locked decisions cleaning => exact ⟨.nothing, .quiet .refl⟩

theorem Sound.rises_afterWithin (hs : run.Sound) (script : List (Event × (ValidatorId → Rounds))) :
    Rises run.engine.tables (run.afterWithin script).engine.tables := by
  induction script generalizing run with
  | nil => exact .refl _
  | cons step rest ih =>
    obtain ⟨_, hc⟩ := hs.change_next step.2 step.1
    exact hc.rises.trans (ih (hs.next step.2 step.1))

/-- In a run whose prune runs may stop after any number of batches, every watermark stands at the slot of a block
and at the source and the target of one attestation that are on record. What is on record from its target on has
no lower source. It never falls, it rises by pruning alone, and the highest records of a validator stay. -/
theorem watermarks_stand_on_records (writeAhead locked : Bool) (metrics : Metrics) (service : Service)
    (script : List (Event × (ValidatorId → Rounds))) :
    let run := ({ engine := .fresh writeAhead locked metrics service } : Run).afterWithin script
    let t := run.engine.tables
    (∀ id, ((t.floorOf id).slot = 0 ∨ ∃ r ∈ t.blocks, r.validator = id ∧ r.slot = (t.floorOf id).slot) ∧
      (((t.floorOf id).source = 0 ∧ (t.floorOf id).target = 0) ∨ ∃ r ∈ t.attestations,
        r.validator = id ∧ r.source = (t.floorOf id).source ∧ r.target = (t.floorOf id).target) ∧
      ∀ r ∈ t.attestations, r.validator = id → (t.floorOf id).target ≤ r.target →
        (t.floorOf id).source ≤ r.source) ∧
    (∀ more id, let later := (run.afterWithin more).engine.tables.floorOf id
      (t.floorOf id).slot ≤ later.slot ∧ (t.floorOf id).source ≤ later.source ∧
        (t.floorOf id).target ≤ later.target) ∧
    ∀ event rounds, let t' := (run.next (·.performWithin rounds) event).engine.tables
      ((∀ op, event = .request op → op.prunes = false) → t'.watermarks = t.watermarks) ∧
      (∀ r ∈ t.blocks, (∀ other ∈ t.blocks, other.validator = r.validator → other.slot ≤ r.slot) →
        r ∈ t'.blocks) ∧
      ∀ r ∈ t.attestations, (∀ other ∈ t.attestations, other.validator = r.validator → other.target ≤ r.target) →
        r ∈ t'.attestations := by
  intro run t
  obtain ⟨hs, -⟩ := reached writeAhead locked metrics service script
  have g : Guards t run.history := hs.engine.guards
  refine ⟨fun id => ⟨?_, ?_, ?_⟩, fun more id => hs.rises_afterWithin more id, fun event rounds => ⟨?_, ?_, ?_⟩⟩
  · refine (g.slot_present id).imp_right fun ⟨r, hr, hslot⟩ => ?_
    obtain ⟨hm, hid⟩ := Tables.mem_blocksOf.mp hr
    exact ⟨r, hm, hid, hslot⟩
  · refine (g.pair_present id).imp_right fun ⟨r, hr, hpair⟩ => ?_
    obtain ⟨hm, hid⟩ := Tables.mem_attestationsOf.mp hr
    exact ⟨r, hm, hid, hpair⟩
  · rintro r hr rfl ht
    exact g.floor_source_le hr ht
  · intro hquiet
    cases event with
    | request op => exact performWithin_watermarks rounds (hquiet op rfl) run.engine
    | restart service => rfl
    | disturb locked decisions cleaning => rfl
  · intro r hr htop
    obtain ⟨_, hc⟩ := hs.change_next rounds event
    exact hc.block_kept g hr htop
  · intro r hr htop
    obtain ⟨_, hc⟩ := hs.change_next rounds event
    exact hc.attestation_kept g hr htop

/-- The watermark of an interrupted prune run stands on a row, and the highest row outlives a prune run that keeps
nothing else. -/
theorem watermarks_stand_on_interrupted_prune :
    let run := sampleStart.afterWithin sampleScript
    let t := run.engine.tables
    let t' := (run.next (·.performWithin fun _ => .all) (.request (.prune 1 ⟨0, 32⟩))).engine.tables
    (t.floorOf 1).target = 2 ∧ (∃ r ∈ t.attestations, r.validator = 1 ∧ r.source = 1 ∧ r.target = 2) ∧
      t'.attestations.length = 1 ∧ ∃ r ∈ t'.attestations, r.target = 3 := by
  intro run t t'
  obtain ⟨hstand, -, hstep⟩ := watermarks_stand_on_records false false {} {} sampleScript
  obtain ⟨-, -, hkept⟩ := hstep (.request (.prune 1 ⟨0, 32⟩)) fun _ => .all
  have hfloor : (t.floorOf 1).source = 1 ∧ (t.floorOf 1).target = 2 := by decide
  have hrow : ∃ r ∈ t.attestations, r.target = 3 ∧
      ∀ other ∈ t.attestations, other.validator = r.validator → other.target ≤ r.target := by decide
  refine ⟨hfloor.2, ?_, by decide, ?_⟩
  · obtain ⟨-, hpair, -⟩ := hstand 1
    rcases hpair with ⟨h0, -⟩ | ⟨r, hr, hid, hs, ht⟩
    · exact absurd (h0.symm.trans hfloor.1) (by decide)
    · exact ⟨r, hr, hid, hs.trans hfloor.1, ht.trans hfloor.2⟩
  · obtain ⟨r, hr, ht, htop⟩ := hrow
    exact ⟨r, hkept r hr htop, ht⟩

end Run
end ValidatorSigner.Protection
