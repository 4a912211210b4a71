import ValidatorSigner.Proofs.Protection.Standing
import ValidatorSigner.Proofs.Protection.Batches

/-! # Exact pruning

A prune run keeps of a validator the rows from a floor on, which is counted back from the highest record and
does not lie below the watermark. The lowest rows that are left become the watermark, so that a second run
finds nothing to do. None of this depends on the size of the batches.
-/
namespace ValidatorSigner.Store
section Lowest
variable {α : Type} {key : α → Int} {floor : Nat → Nat} {rows rows' : List α} {low low' r top : α}

/-- A row lies above the floor exactly if it does not lie below the lowest row that is kept. -/
theorem IsKept.key_le_iff (hk : IsKept key floor rows low) (ht : top ∈ rows) (hmax : ∀ r ∈ rows, key r ≤ key top)
    (hr : r ∈ rows) : key low ≤ key r ↔ (floor (key top).toNat : Int) ≤ key r := by
  obtain ⟨top', ht', hmax', -, hge, hmin⟩ := hk
  have he : key top' = key top := Int.le_antisymm (hmax top' ht') (hmax' top ht)
  rw [he] at hge hmin
  exact ⟨fun hle => Int.le_trans hge hle, hmin r hr⟩

/-- Among fewer rows nothing higher is kept than a row that was above the floor before. -/
theorem IsKept.key_le_of_subset (hf : ∀ m n, m ≤ n → floor m ≤ floor n) (hk : IsKept key floor rows low)
    (hk' : IsKept key floor rows' low') (hsub : rows' ⊆ rows) (hr : r ∈ rows') (hle : key low ≤ key r) :
    key low' ≤ key r := by
  obtain ⟨top, -, hmax, -, hge, -⟩ := hk
  obtain ⟨top', ht', -, -, -, hmin'⟩ := hk'
  have hfloor : floor (key top').toNat ≤ floor (key top).toNat :=
    hf _ _ (Int.toNat_le_toNat (hmax top' (hsub ht')))
  exact hmin' r hr (by omega)

end Lowest
end ValidatorSigner.Store

namespace ValidatorSigner.Protection
open Store Telemetry

section Owners
variable {α : Type} (owner : α → ValidatorId) (key : α → Int) (floor : Int) (rows : List α) {id other : ValidatorId}

/-- When the rows of an owner go that lie below a floor, the owner keeps those from the floor on. -/
theorem filter_own_kept :
    (rows.filter fun r => !decide (owner r = id ∧ key r < floor)).filter (owner · = id) =
      (rows.filter (owner · = id)).filter fun r => floor ≤ key r := by
  rw [List.filter_filter, List.filter_filter]
  refine List.filter_congr fun r _ => ?_
  by_cases hid : owner r = id
  · simp only [hid, true_and, decide_true, Bool.true_and, Bool.and_true, ← decide_not, Int.not_lt]
  · simp [hid]

/-- Other owners keep all rows. -/
theorem filter_other_kept (hne : other ≠ id) :
    (rows.filter fun r => !decide (owner r = id ∧ key r < floor)).filter (owner · = other) =
      rows.filter (owner · = other) := by
  rw [List.filter_filter]
  refine List.filter_congr fun r _ => ?_
  by_cases hr : owner r = other
  · simp [hr, hne]
  · simp [hr]

end Owners

section Pruned
variable {t : Tables} {id : ValidatorId} {window : Retention}

/-- A window that 64 bits cannot count reaches back to the beginning anyway. -/
theorem Retention.blockFloor_eq (window : Retention) {highest : Nat} (h : highest < 2 ^ 64) :
    window.blockFloor highest = highest - window.epochsToKeep * window.slotsPerEpoch := by
  unfold blockFloor saturatingMul
  omega

theorem Retention.blockFloor_mono (window : Retention) {m n : Nat} (h : m ≤ n) :
    window.blockFloor m ≤ window.blockFloor n := Nat.sub_le_sub_right h _

theorem Retention.attestationFloor_mono (window : Retention) {m n : Nat} (h : m ≤ n) :
    window.attestationFloor m ≤ window.attestationFloor n := Nat.sub_le_sub_right h _

theorem floorOf_pruned (other : ValidatorId) :
    (pruned t id window).floorOf other = if other = id then nextFloor t id window else t.floorOf other :=
  floorOf_raised t id other window

theorem blocks_pruned :
    (pruned t id window).blocks = t.blocks.filter fun r => !(nextFloor t id window).passesBlock r := by
  simp only [pruned, swept, (raised_rest t id window).2.2.1]

theorem attestations_pruned :
    (pruned t id window).attestations =
      t.attestations.filter fun r => !(nextFloor t id window).passesAttestation r := by
  simp only [pruned, swept, (raised_rest t id window).2.2.2]

theorem blocksOf_pruned :
    (pruned t id window).blocksOf id = (t.blocksOf id).filter fun r => (nextFloor t id window).slot ≤ r.slot := by
  unfold Tables.blocksOf
  rw [blocks_pruned]
  exact filter_own_kept BlockRow.validator BlockRow.slot _ _

theorem attestationsOf_pruned :
    (pruned t id window).attestationsOf id =
      (t.attestationsOf id).filter fun r => (nextFloor t id window).target ≤ r.target := by
  unfold Tables.attestationsOf
  rw [attestations_pruned]
  exact filter_own_kept AttestationRow.validator AttestationRow.target _ _

theorem blocksOf_pruned_of_ne {other : ValidatorId} (hne : other ≠ id) :
    (pruned t id window).blocksOf other = t.blocksOf other := by
  unfold Tables.blocksOf
  rw [blocks_pruned]
  exact filter_other_kept BlockRow.validator BlockRow.slot _ _ hne

theorem attestationsOf_pruned_of_ne {other : ValidatorId} (hne : other ≠ id) :
    (pruned t id window).attestationsOf other = t.attestationsOf other := by
  unfold Tables.attestationsOf
  rw [attestations_pruned]
  exact filter_other_kept AttestationRow.validator AttestationRow.target _ _ hne

theorem forgets_swept {w : WatermarkRow} (hw : t.floorOf w.validator = w) : Forgets t (swept t w) where
  rest := rfl
  blocks := List.filter_sublist
  attestations := List.filter_sublist
  blocksGone r hr hn := by
    have hp : w.passesBlock r = true := by
      refine Decidable.byContradiction fun hp => hn (List.mem_filter.mpr ⟨hr, ?_⟩)
      simp [hp]
    obtain ⟨hid, hlt⟩ : r.validator = w.validator ∧ r.slot < w.slot := of_decide_eq_true hp
    rw [hid, hw]
    exact hlt
  attestationsGone r hr hn := by
    have hp : w.passesAttestation r = true := by
      refine Decidable.byContradiction fun hp => hn (List.mem_filter.mpr ⟨hr, ?_⟩)
      simp [hp]
    obtain ⟨hid, hlt⟩ : r.validator = w.validator ∧ r.target < w.target := of_decide_eq_true hp
    rw [hid, hw]
    exact hlt

theorem swept_swept (t : Tables) (w : WatermarkRow) : swept (swept t w) w = swept t w := by
  simp only [swept, List.filter_filter, Bool.and_self]

theorem sweptReport_swept (t : Tables) (w : WatermarkRow) : sweptReport (swept t w) w = ⟨0, 0, some w.value⟩ := by
  have hblocks : (swept t w).blocks.countP w.passesBlock = 0 := by simp [swept]
  have hattestations : (swept t w).attestations.countP w.passesAttestation = 0 := by simp [swept]
  simp only [sweptReport, hblocks, hattestations]

end Pruned

namespace Guards
variable {t : Tables} {h : History} {id : ValidatorId} {window : Retention}

theorem pruned (g : Guards t h) (id : ValidatorId) (window : Retention) : Guards (pruned t id window) h := by
  refine (g.raise id window).forget (forgets_swept ?_)
  rw [floorOf_raised]
  exact if_pos rfl

theorem blocks_cases (g : Guards t h) (id : ValidatorId) (window : Retention) :
    t.blocksOf id = [] ∧ (nextFloor t id window).slot = (t.floorOf id).slot ∨
      ∃ low, IsKept (·.slot) window.blockFloor (t.blocksOf id) low ∧
        (nextFloor t id window).slot = max (t.floorOf id).slot low.slot := by
  have hb := watermark_bounds (g.wellFormed.floorOf id)
  rcases kept_cases window.blockFloor_le
      fun r hr => (slot_bounds (blocksOf_legible g.wellFormed id r hr)).1 with ⟨he, hk⟩ | ⟨low, hk, hlow⟩
  · refine .inl ⟨he, ?_⟩
    simp only [nextFloor, keptKey, hk, Option.map_none, Option.getD_none]
    omega
  · refine .inr ⟨low, hlow, ?_⟩
    simp only [nextFloor, keptKey, hk, Option.map_some, Option.getD_some]

theorem attestations_cases (g : Guards t h) (id : ValidatorId) (window : Retention) :
    t.attestationsOf id = [] ∧ (nextFloor t id window).source = (t.floorOf id).source ∧
        (nextFloor t id window).target = (t.floorOf id).target ∨
      ∃ low, IsKept (·.target) window.attestationFloor (t.attestationsOf id) low ∧
        (nextFloor t id window).source = max (t.floorOf id).source low.source ∧
        (nextFloor t id window).target = max (t.floorOf id).target low.target := by
  have hb := watermark_bounds (g.wellFormed.floorOf id)
  rcases kept_cases window.attestationFloor_le
      fun r hr => (epoch_bounds (attestationsOf_legible g.wellFormed id r hr)).2.2.1 with ⟨he, hk⟩ | ⟨low, hk, hlow⟩
  · refine .inl ⟨he, ?_, ?_⟩
    · simp only [nextFloor, keptAttestation, hk, Option.map_none, Option.getD_none]
      omega
    · simp only [nextFloor, keptKey, hk, Option.map_none, Option.getD_none]
      omega
  · refine .inr ⟨low, hlow, ?_, ?_⟩
    · simp only [nextFloor, keptAttestation, hk, Option.map_some, Option.getD_some]
    · simp only [nextFloor, keptKey, hk, Option.map_some, Option.getD_some]

/-- The next watermark has the slot of a block that stays, if there are blocks at all. -/
theorem nextFloor_slot_present (g : Guards t h) (window : Retention) (hne : t.blocksOf id ≠ []) :
    ∃ r ∈ (Protection.pruned t id window).blocksOf id, r.slot = (nextFloor t id window).slot := by
  have hpresent := (g.pruned id window).slot_present id
  rw [floorOf_pruned, if_pos rfl] at hpresent
  rcases hpresent with h0 | hrow
  · rcases g.blocks_cases id window with ⟨he, -⟩ | ⟨low, hk, hs⟩
    · exact absurd he hne
    · have := (slot_bounds (blocksOf_legible g.wellFormed id low hk.mem)).1
      refine ⟨low, ?_, by omega⟩
      rw [blocksOf_pruned]
      exact List.mem_filter.mpr ⟨hk.mem, decide_eq_true (by omega)⟩
  · exact hrow

/-- The next watermark has source and target of an attestation that stays, if there are attestations at all. -/
theorem nextFloor_pair_present (g : Guards t h) (window : Retention) (hne : t.attestationsOf id ≠ []) :
    ∃ r ∈ (Protection.pruned t id window).attestationsOf id, r.source = (nextFloor t id window).source ∧
      r.target = (nextFloor t id window).target := by
  have hpresent := (g.pruned id window).pair_present id
  rw [floorOf_pruned, if_pos rfl] at hpresent
  rcases hpresent with ⟨h0, h0'⟩ | hrow
  · rcases g.attestations_cases id window with ⟨he, -⟩ | ⟨low, hk, hs, ht⟩
    · exact absurd he hne
    · have := epoch_bounds (attestationsOf_legible g.wellFormed id low hk.mem)
      refine ⟨low, ?_, by omega, by omega⟩
      rw [attestationsOf_pruned]
      exact List.mem_filter.mpr ⟨hk.mem, decide_eq_true (by omega)⟩
  · exact hrow

/-- A second run with the same window would raise the watermark to where it stands. -/
theorem nextFloor_pruned (g : Guards t h) :
    nextFloor (Protection.pruned t id window) id window = nextFloor t id window := by
  have g' := g.pruned id window
  have hfloor : (Protection.pruned t id window).floorOf id = nextFloor t id window := by
    rw [floorOf_pruned, if_pos rfl]
  have hslot : (nextFloor (Protection.pruned t id window) id window).slot = (nextFloor t id window).slot := by
    rcases g'.blocks_cases id window with ⟨-, hs⟩ | ⟨low', hk', hs⟩
    · rw [hs, hfloor]
    · have hsub : (Protection.pruned t id window).blocksOf id ⊆ t.blocksOf id := by
        rw [blocksOf_pruned]
        exact List.filter_sublist.subset
      obtain ⟨r, hr, hrs⟩ := g.nextFloor_slot_present window (List.ne_nil_of_mem (hsub hk'.mem))
      rcases g.blocks_cases id window with ⟨he, -⟩ | ⟨low, hk, hlow⟩
      · exact absurd he (List.ne_nil_of_mem (hsub hk'.mem))
      · have := hk.key_le_of_subset (fun _ _ => window.blockFloor_mono) hk' hsub hr (by omega)
        rw [hs, hfloor]
        omega
  have hpair : (nextFloor (Protection.pruned t id window) id window).source = (nextFloor t id window).source ∧
      (nextFloor (Protection.pruned t id window) id window).target = (nextFloor t id window).target := by
    rcases g'.attestations_cases id window with ⟨-, hs, ht⟩ | ⟨low', hk', hs, ht⟩
    · rw [hs, ht, hfloor]
      exact ⟨rfl, rfl⟩
    · have hsub : (Protection.pruned t id window).attestationsOf id ⊆ t.attestationsOf id := by
        rw [attestationsOf_pruned]
        exact List.filter_sublist.subset
      obtain ⟨r, hr, hrs, hrt⟩ := g.nextFloor_pair_present window (List.ne_nil_of_mem (hsub hk'.mem))
      rcases g.attestations_cases id window with ⟨he, -⟩ | ⟨low, hk, -, hlow⟩
      · exact absurd he (List.ne_nil_of_mem (hsub hk'.mem))
      · have hle := hk.key_le_of_subset (fun _ _ => window.attestationFloor_mono) hk' hsub hr (by omega)
        have hmem := hk'.mem
        rw [attestationsOf_pruned] at hmem
        have hge : (nextFloor t id window).target ≤ low'.target := of_decide_eq_true (List.mem_filter.mp hmem).2
        -- Two attestations with one target are one, so that the sources agree as well.
        obtain ⟨hm, hid⟩ := Tables.mem_attestationsOf.mp hr
        obtain ⟨hm', hid'⟩ := Tables.mem_attestationsOf.mp hk'.mem
        obtain rfl : low' = r := g'.lawful.eq_of_target (g'.attestations.subset hm') (g'.attestations.subset hm)
          (hid'.trans hid.symm) (by omega)
        rw [hs, ht, hfloor]
        omega
  calc nextFloor (Protection.pruned t id window) id window
      = ⟨id, (nextFloor (Protection.pruned t id window) id window).slot,
          (nextFloor (Protection.pruned t id window) id window).source,
          (nextFloor (Protection.pruned t id window) id window).target⟩ := rfl
    _ = nextFloor t id window := by
      rw [hslot, hpair.1, hpair.2]
      rfl

theorem pruned_pruned (g : Guards t h) :
    Protection.pruned (Protection.pruned t id window) id window = Protection.pruned t id window := by
  have hfloor : (Protection.pruned t id window).floorOf id = nextFloor t id window := by
    rw [floorOf_pruned, if_pos rfl]
  have hraised : raised (Protection.pruned t id window) id window = Protection.pruned t id window :=
    if_pos (g.nextFloor_pruned.trans hfloor.symm)
  rw [Protection.pruned, hraised, g.nextFloor_pruned]
  exact swept_swept _ _

end Guards
/-- What is left of tables when the rows of one validator are pruned: those from a floor on that is counted
back from his highest record, and a watermark that stands at the lowest of them. -/
structure KeepsWindow (window : Retention) (id : ValidatorId) (t t' : Tables) : Prop where
  blocks : ∀ top ∈ t.blocksOf id, (∀ r ∈ t.blocksOf id, r.slot ≤ top.slot) →
    t'.blocksOf id = (t.blocksOf id).filter fun r =>
      max (t.floorOf id).slot ↑(top.slot.toNat - window.epochsToKeep * window.slotsPerEpoch) ≤ r.slot
  attestations : ∀ top ∈ t.attestationsOf id, (∀ r ∈ t.attestationsOf id, r.target ≤ top.target) →
    t'.attestationsOf id = (t.attestationsOf id).filter fun r =>
      max (t.floorOf id).target ↑(top.target.toNat - window.epochsToKeep) ≤ r.target
  noBlocks : t.blocksOf id = [] → t'.blocksOf id = [] ∧ (t'.floorOf id).slot = (t.floorOf id).slot
  noAttestations : t.attestationsOf id = [] → t'.attestationsOf id = [] ∧
    (t'.floorOf id).source = (t.floorOf id).source ∧ (t'.floorOf id).target = (t.floorOf id).target
  lowestBlock : t.blocksOf id ≠ [] → ∃ low ∈ t'.blocksOf id, low.slot = (t'.floorOf id).slot
  lowestAttestation : t.attestationsOf id ≠ [] → ∃ low ∈ t'.attestationsOf id,
    low.source = (t'.floorOf id).source ∧ low.target = (t'.floorOf id).target
  blocksAbove : ∀ r ∈ t'.blocksOf id, (t'.floorOf id).slot ≤ r.slot
  attestationsAbove : ∀ r ∈ t'.attestationsOf id,
    (t'.floorOf id).source ≤ r.source ∧ (t'.floorOf id).target ≤ r.target

theorem Guards.keepsWindow {t : Tables} {h : History} (g : Guards t h) (window : Retention) (id : ValidatorId) :
    KeepsWindow window id t (Protection.pruned t id window) := by
  have g' := g.pruned id window
  have hfloor : (Protection.pruned t id window).floorOf id = nextFloor t id window := by
    rw [floorOf_pruned, if_pos rfl]
  constructor
  · intro top ht hmax
    rw [blocksOf_pruned]
    refine List.filter_congr fun r hr => ?_
    rcases g.blocks_cases id window with ⟨he, -⟩ | ⟨low, hk, hs⟩
    · exact absurd he (List.ne_nil_of_mem hr)
    · have hiff := hk.key_le_iff ht hmax hr
      have htop := (slot_bounds (blocksOf_legible g.wellFormed id top ht)).2
      rw [storeBound_eq] at htop
      rw [window.blockFloor_eq (by omega)] at hiff
      rw [decide_eq_decide, hs, Int.max_le, Int.max_le, hiff]
  · intro top ht hmax
    rw [attestationsOf_pruned]
    refine List.filter_congr fun r hr => ?_
    rcases g.attestations_cases id window with ⟨he, -⟩ | ⟨low, hk, -, hs⟩
    · exact absurd he (List.ne_nil_of_mem hr)
    · have hiff := hk.key_le_iff ht hmax hr
      rw [decide_eq_decide, hs, Int.max_le, Int.max_le, hiff]
      rfl
  · intro he
    rw [blocksOf_pruned, he, hfloor]
    rcases g.blocks_cases id window with ⟨-, hs⟩ | ⟨low, hk, -⟩
    · exact ⟨rfl, hs⟩
    · exact absurd he (List.ne_nil_of_mem hk.mem)
  · intro he
    rw [attestationsOf_pruned, he, hfloor]
    rcases g.attestations_cases id window with ⟨-, hs, ht⟩ | ⟨low, hk, -⟩
    · exact ⟨rfl, hs, ht⟩
    · exact absurd he (List.ne_nil_of_mem hk.mem)
  · intro hne
    rw [hfloor]
    exact g.nextFloor_slot_present window hne
  · intro hne
    rw [hfloor]
    exact g.nextFloor_pair_present window hne
  · intro r hr
    rw [blocksOf_pruned] at hr
    rw [hfloor]
    exact of_decide_eq_true (List.mem_filter.mp hr).2
  · intro r hr
    have hge : (nextFloor t id window).target ≤ r.target := by
      rw [attestationsOf_pruned] at hr
      exact of_decide_eq_true (List.mem_filter.mp hr).2
    obtain ⟨hm, rfl⟩ := Tables.mem_attestationsOf.mp hr
    rw [← hfloor] at hge
    exact ⟨g'.floor_source_le hm hge, hge⟩

/-- A run over tables that were pruned already deletes nothing. -/
theorem prune_again {e : Engine} {t : Tables} {h : History} {id : ValidatorId} {window : Retention}
    (hm : e.database.missing = []) (g : Guards t h) (ht : e.tables = pruned t id window)
    (hr : e.database.readOnly = false) (hf : e.obstacle? e.service.cleaning = none)
    (hb : e.service.pruning.batchSize < storeBound) :
    Request.prune id window e =
      (.ok ⟨0, 0, some (nextFloor t id window).value⟩,
        { e with metrics := PruneReport.counted ⟨0, 0, none⟩ e.metrics }) := by
  have hw : e.tables.WellFormed := by
    rw [ht]
    exact (g.pruned id window).wellFormed
  have hnone : sweptReport e.tables (nextFloor t id window) = ⟨0, 0, some (nextFloor t id window).value⟩ := by
    rw [ht]
    exact sweptReport_swept _ _
  have hsame : pruned e.tables id window = e.tables := by
    rw [ht, g.pruned_pruned]
  have hnext : nextFloor e.tables id window = nextFloor t id window := by
    rw [ht, g.nextFloor_pruned]
  rw [prune_of_free hm hw hr hf hb, hnext, hnone, hsame]
  rfl

abbrev Engine.withBatch (e : Engine) (batch : Nat) : Engine :=
  { e with service := { e.service with pruning := { e.service.pruning with batchSize := batch } } }

namespace Run

/-- After any run, a prune run that can begin keeps exactly the window, in the rows and in the watermark, and
reports the rows that are gone. The size of the batches, up to the largest that can be stored, makes no
difference, and a second run with the same window finds nothing to do. -/
theorem prune_exact (writeAhead locked : Bool) (metrics : Metrics) (service : Service)
    (script : List (Event × (ValidatorId → Rounds))) (id : ValidatorId) (window : Retention) :
    let run : Run := { engine := .fresh writeAhead locked metrics service }
    let e := (run.afterWithin script).engine
    e.obstacle? e.service.cleaning = none →
      ∃ t' report, KeepsWindow window id e.tables t' ∧
        report.deletedBlocks + t'.blocks.length = e.tables.blocks.length ∧
        report.deletedAttestations + t'.attestations.length = e.tables.attestations.length ∧
        report.watermark = some (t'.floorOf id).value ∧
        ∀ batch < storeBound,
          let after := { (e.withBatch batch).withTables t' with metrics := report.counted e.metrics }
          Request.prune id window (e.withBatch batch) = (.ok report, after) ∧
            ∀ again < storeBound,
              Request.prune id window (after.withBatch again) =
                (.ok ⟨0, 0, report.watermark⟩,
                  { after.withBatch again with metrics := PruneReport.counted ⟨0, 0, none⟩ after.metrics }) := by
  intro run e hf
  obtain ⟨hs, hwrite⟩ := reached writeAhead locked metrics service script
  have g : Guards e.tables (run.afterWithin script).history := hs.engine.guards
  have g' := g.pruned id window
  have hfloor : (pruned e.tables id window).floorOf id = nextFloor e.tables id window := by
    rw [floorOf_pruned, if_pos rfl]
  refine ⟨pruned e.tables id window, sweptReport e.tables (nextFloor e.tables id window), g.keepsWindow window id,
    ?_, ?_, ?_, fun batch hb => ⟨?_, fun again ha => ?_⟩⟩
  · rw [blocks_pruned]
    exact (length_eq_countP_add_filter ..).symm
  · rw [attestations_pruned]
    exact (length_eq_countP_add_filter ..).symm
  · rw [hfloor]
    rfl
  · exact prune_of_free (e := e.withBatch batch) hs.engine.installed g.wellFormed hwrite hf hb id window
  · exact prune_again hs.engine.installed g rfl hwrite hf ha

/-- A prune run that was cut short is brought to its end: one of three attestations goes, whatever the batches. -/
theorem prune_exact_interrupted :
    let e := (sampleStart.afterWithin sampleScript).engine
    e.obstacle? e.service.cleaning = none ∧ (e.tables.attestationsOf 1).map (·.target) = [1, 2, 3] ∧
      ∃ t', (t'.attestationsOf 1).map (·.target) = [2, 3] ∧
        ∀ batch < storeBound, ∃ after, after.tables = t' ∧
          Request.prune 1 ⟨1, 32⟩ (e.withBatch batch) = (.ok ⟨0, 1, some ⟨1, 0, 1, 2⟩⟩, after) := by
  intro e
  have hf : e.obstacle? e.service.cleaning = none := by decide
  obtain ⟨t', report, hkeeps, -, -, -, hprune⟩ := prune_exact false false {} {} sampleScript 1 ⟨1, 32⟩ hf
  refine ⟨hf, by decide, t', ?_, fun batch hb => ?_⟩
  · have htop : (⟨1, 2, 3, List.replicate 32 7⟩ : AttestationRow) ∈ e.tables.attestationsOf 1 := by decide
    rw [hkeeps.attestations _ htop (by decide)]
    decide
  · have hone : (Request.prune 1 ⟨1, 32⟩ (e.withBatch 1)).1 = .ok ⟨0, 1, some ⟨1, 0, 1, 2⟩⟩ := by rfl
    obtain ⟨hfirst, -⟩ := hprune 1 (by decide)
    obtain rfl : report = ⟨0, 1, some ⟨1, 0, 1, 2⟩⟩ := Except.ok.inj ((congrArg Prod.fst hfirst).symm.trans hone)
    obtain ⟨hbatch, -⟩ := hprune batch hb
    exact ⟨_, rfl, hbatch⟩

end Run
end ValidatorSigner.Protection
