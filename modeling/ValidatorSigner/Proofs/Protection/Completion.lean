import Mathlib.Algebra.GroupWithZero.Nat
import ValidatorSigner.Proofs.Protection.Together

/-! # When pruning succeeds

A prune run succeeds exactly if its transactions can begin, the database can be written to and the size of its
batches fits a column. Then no row of the validator is left below the watermark. Pruning all validators succeeds
exactly if each of them can be pruned.
-/
namespace ValidatorSigner.Protection
open Store Telemetry

structure Clear (t : Tables) (id : ValidatorId) : Prop where
  blocks : ∀ r ∈ t.blocksOf id, (t.floorOf id).slot ≤ r.slot
  attestations : ∀ r ∈ t.attestationsOf id, (t.floorOf id).source ≤ r.source ∧ (t.floorOf id).target ≤ r.target

def Engine.CanPrune (e : Engine) : Prop := e.CanSweep e.service.pruning.batchSize

section Tables
variable {t t' : Tables} {h : History} {id : ValidatorId} {window : Retention}

theorem SameFor.clear (hs : SameFor (· = id) t t') (hc : Clear t id) : Clear t' id := by
  constructor
  · intro r hr
    rw [hs.blocks id rfl] at hr
    rw [hs.floorOf rfl]
    exact hc.blocks r hr
  · intro r hr
    rw [hs.attestations id rfl] at hr
    rw [hs.floorOf rfl]
    exact hc.attestations r hr

theorem Guards.clear_pruned (g : Guards t h) : Clear (Protection.pruned t id window) id :=
  ⟨(g.keepsWindow window id).blocksAbove, (g.keepsWindow window id).attestationsAbove⟩

theorem Guards.clear_prunedEach (g : Guards t h) {ids : List ValidatorId} (hd : ids.Nodup) (hid : id ∈ ids) :
    Clear (prunedEach t window ids) id := (prunedEach_self t window hd hid).clear g.clear_pruned

end Tables

section Requests
variable {e e' : Engine} {h : History} {id : ValidatorId} {window : Retention} {report total : PruneReport}

/-- A prune run that succeeds had nothing in its way. -/
theorem of_prune_ok (hm : e.database.missing = []) (hw : e.tables.WellFormed)
    (hp : Request.prune id window e = (.ok report, e')) :
    e.CanPrune ∧ e'.tables = pruned e.tables id window := by
  by_cases hr : e.database.readOnly = true
  · obtain ⟨operation, cause, hfailed⟩ := prune_of_readOnly hm hw hr id window
    rw [hfailed] at hp
    cases hp
  have hr : e.database.readOnly = false := by simpa using hr
  rw [prune_apply hm hw hr] at hp
  cases hf : e.obstacle? e.service.cleaning with
  | some fault =>
    rw [hf] at hp
    cases hp
  | none =>
    simp only [hf] at hp
    split at hp
    · rename_i hb
      cases hp
      exact ⟨⟨hf, hr, hb⟩, rfl⟩
    · cases hp

theorem prune_ok_iff (hm : e.database.missing = []) (hw : e.tables.WellFormed) (id : ValidatorId) (window : Retention) :
    (∃ report e', Request.prune id window e = (.ok report, e')) ↔ e.CanPrune := by
  constructor
  · rintro ⟨report, e', hp⟩
    exact (of_prune_ok hm hw hp).1
  · rintro ⟨hf, hr, hb⟩
    exact ⟨_, _, prune_of_free hm hw hr hf hb id window⟩

/-- Pruning in turn succeeds exactly if each validator can be pruned, if there is one. -/
theorem of_pruneEach_ok (hs : e.Sound h) {ids : List ValidatorId} (hd : ids.Nodup)
    (hp : Request.pruneEach window total ids e = (.ok report, e')) :
    (ids = [] ∨ e.CanPrune) ∧ e'.tables = prunedEach e.tables window ids := by
  cases ids with
  | nil =>
    cases hp
    exact ⟨.inl rfl, rfl⟩
  | cons id rest =>
    have hcan : e.CanPrune := by
      cases hfirst : Request.prune id window e with
      | mk outcome e₁ =>
        cases outcome with
        | error cause =>
          have hstop : Request.pruneEach window total (id :: rest) e = (.error cause, e₁) := Request.bind_of_error hfirst
          rw [hstop] at hp
          cases hp
        | ok first => exact (of_prune_ok hs.installed hs.guards.wellFormed hfirst).1
    obtain ⟨hf, hr, hb⟩ := hcan
    obtain ⟨metrics, hall⟩ := @pruneEach_apply _ _ window hs hr hf hb _ hd total
    rw [hall] at hp
    cases hp
    exact ⟨.inr ⟨hf, hr, hb⟩, rfl⟩

def pruneOrder (t : Tables) : List ValidatorId := (t.validators.map (·.id)).mergeSort (· ≤ ·)

theorem mem_pruneOrder {t : Tables} : id ∈ pruneOrder t ↔ t.isRegistered id = true := by
  rw [pruneOrder, List.mem_mergeSort]
  simp [Tables.isRegistered]

theorem nodup_pruneOrder {t : Tables} (hn : Tables.Numbered t) : (pruneOrder t).Nodup :=
  (List.mergeSort_perm _ _).nodup_iff.mpr hn

theorem pruneOrder_eq_nil {t : Tables} : pruneOrder t = [] ↔ t.validators = [] := by
  rw [pruneOrder, ← List.length_eq_zero_iff, List.length_mergeSort, List.length_map, List.length_eq_zero_iff]

theorem of_pruneAll_ok (hs : e.Sound h) (hn : Tables.Numbered e.tables)
    (hp : Request.pruneAll window e = (.ok report, e')) :
    e.obstacle? e.service.decisions = none ∧ (e.tables.validators = [] ∨ e.CanPrune) ∧
      e'.tables = prunedEach e.tables window (pruneOrder e.tables) := by
  cases hf : e.obstacle? e.service.decisions with
  | some fault =>
    have hstop : Request.pruneAll window e = e.failed "list_validators" (.access fault) :=
      Request.bind_of_error (transactOn_of_obstacle hf)
    rw [hstop] at hp
    cases hp
  | none =>
    rw [pruneAll_apply hs hf] at hp
    obtain ⟨hcan, he⟩ := of_pruneEach_ok hs (nodup_pruneOrder hn) hp
    exact ⟨rfl, hcan.imp_left pruneOrder_eq_nil.mp, he⟩

theorem pruneAll_ok_iff (hs : e.Sound h) (hn : Tables.Numbered e.tables) (window : Retention) :
    (∃ report e', Request.pruneAll window e = (.ok report, e')) ↔
      e.obstacle? e.service.decisions = none ∧ (e.tables.validators = [] ∨ e.CanPrune) := by
  constructor
  · rintro ⟨report, e', hp⟩
    obtain ⟨hf, hcan, -⟩ := of_pruneAll_ok hs hn hp
    exact ⟨hf, hcan⟩
  · rintro ⟨hf, hcan⟩
    have hall : Request.pruneAll window e = _ := pruneAll_apply hs hf
    rcases hcan with hnone | ⟨hfree, hr, hb⟩
    · have horder : (e.tables.validators.map (·.id)).mergeSort (· ≤ ·) = [] := pruneOrder_eq_nil.mpr hnone
      rw [horder] at hall
      exact ⟨_, _, hall⟩
    · obtain ⟨metrics, heach⟩ := @pruneEach_apply _ _ window hs hr hfree hb _ (nodup_pruneOrder hn) {}
      exact ⟨_, _, hall.trans heach⟩

/-- Once all validators are pruned, no row of any of them lies below its watermark. -/
theorem clear_of_pruneAll_ok (hs : e.Sound h) (hn : Tables.Numbered e.tables)
    (hp : Request.pruneAll window e = (.ok report, e')) (hid : e.tables.isRegistered id = true) :
    Clear e'.tables id := by
  obtain ⟨-, -, he⟩ := of_pruneAll_ok hs hn hp
  rw [he]
  exact hs.guards.clear_prunedEach (nodup_pruneOrder hn) (mem_pruneOrder.mpr hid)

theorem clear_of_prune_ok (hs : e.Sound h) (hp : Request.prune id window e = (.ok report, e')) :
    Clear e'.tables id := by
  obtain ⟨-, he⟩ := of_prune_ok hs.installed hs.guards.wellFormed hp
  rw [he]
  exact hs.guards.clear_pruned

end Requests

theorem Run.numbered (writeAhead locked : Bool) (metrics : Metrics) (service : Service)
    (script : List (Event × (ValidatorId → Rounds))) :
    Tables.Numbered (({ engine := .fresh writeAhead locked metrics service } : Run).afterWithin script).engine.tables := by
  apply numbered_afterWithin
  exact List.nodup_nil

end ValidatorSigner.Protection
