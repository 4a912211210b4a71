import ValidatorSigner.Proofs.Protection.Enrolment

/-! # What pruning changes

A prune run raises a watermark and then deletes below it, batch after batch. It may stop after any number
of batches, or at the first one that fails: at every time it has only trimmed the tables.
-/
namespace ValidatorSigner.Protection
open Store Telemetry

namespace Forgets
variable {t t' t'' : Tables}

theorem refl (t : Tables) : Forgets t t :=
  ⟨rfl, List.Sublist.refl _, List.Sublist.refl _, fun _ hr hn => absurd hr hn, fun _ hr hn => absurd hr hn⟩

theorem floorOf (hf : Forgets t t') (id : ValidatorId) : t'.floorOf id = t.floorOf id := by
  rw [hf.rest]
  rfl

theorem trans (h₁ : Forgets t t') (h₂ : Forgets t' t'') : Forgets t t'' where
  rest := by
    rw [h₂.rest, h₁.rest]
  blocks := h₂.blocks.trans h₁.blocks
  attestations := h₂.attestations.trans h₁.attestations
  blocksGone r hr hn := by
    by_cases hm : r ∈ t'.blocks
    · exact h₁.floorOf r.validator ▸ h₂.blocksGone r hm hn
    · exact h₁.blocksGone r hr hm
  attestationsGone r hr hn := by
    by_cases hm : r ∈ t'.attestations
    · exact h₁.floorOf r.validator ▸ h₂.attestationsGone r hm hn
    · exact h₁.attestationsGone r hr hm

end Forgets

section Batch
variable {α : Type} {test : α → Bool} {key : α → Int} {limit : Nat} {rows : List α}

theorem removeLowest_sublist : (removeLowest test key limit rows).Sublist rows := List.filter_sublist

theorem test_of_removed {r : α} (hr : r ∈ rows) (hn : r ∉ removeLowest test key limit rows) : test r = true := by
  cases ht : test r with
  | true => rfl
  | false => exact absurd (List.mem_filter.mpr ⟨hr, by simp [ht]⟩) hn

/-- Rows that are not up for removal stay, in their places. -/
theorem filter_removeLowest {p : α → Bool} (h : ∀ r, p r = true → test r = false) :
    (removeLowest test key limit rows).filter p = rows.filter p := by
  unfold removeLowest
  rw [List.filter_filter]
  refine List.filter_congr fun r _ => ?_
  cases hp : p r with
  | false => rfl
  | true => simp [h r hp]

variable {t : Tables} {id : ValidatorId} {below : Nat}

def withoutBlocks (t : Tables) (id : ValidatorId) (below limit : Nat) : Tables :=
  { t with blocks := removeLowest (fun r => r.validator = id ∧ r.slot < (below : Int)) (·.slot) limit t.blocks }

def withoutAttestations (t : Tables) (id : ValidatorId) (below limit : Nat) : Tables :=
  { t with attestations :=
      removeLowest (fun r => r.validator = id ∧ r.target < (below : Int)) (·.target) limit t.attestations }

theorem of_deleteBlocks_ok {limit n : Nat} {db db' : Database}
    (h : Transaction.deleteBlocks id below limit db = .ok (n, db')) :
    db' = { db with tables := withoutBlocks db.tables id below limit } := by
  obtain ⟨-, hrest⟩ := Transaction.column_ok_iff.mp h
  obtain ⟨-, hwrite⟩ := Transaction.column_ok_iff.mp hrest
  obtain ⟨-, -, t, hw, rfl⟩ := Transaction.of_writing_ok hwrite
  cases hw
  rfl

theorem of_deleteAttestations_ok {limit n : Nat} {db db' : Database}
    (h : Transaction.deleteAttestations id below limit db = .ok (n, db')) :
    db' = { db with tables := withoutAttestations db.tables id below limit } := by
  obtain ⟨-, hrest⟩ := Transaction.column_ok_iff.mp h
  obtain ⟨-, hwrite⟩ := Transaction.column_ok_iff.mp hrest
  obtain ⟨-, -, t, hw, rfl⟩ := Transaction.of_writing_ok hwrite
  cases hw
  rfl

theorem deleteBlocks_apply {limit : Nat} {db : Database} (hm : db.missing = []) (hb : below < storeBound)
    (hl : limit < storeBound) :
    Transaction.deleteBlocks id below limit db =
      if db.readOnly then .error (.ofDatabase .readOnly)
      else .ok (db.tables.blocks.length - (withoutBlocks db.tables id below limit).blocks.length,
        { db with tables := withoutBlocks db.tables id below limit }) := by
  unfold Transaction.deleteBlocks
  rw [toColumn_of_lt hb, toColumn_of_lt hl, Transaction.bind_of_ok (Transaction.lift_ok _ _),
    Transaction.bind_of_ok (Transaction.lift_ok _ _), Transaction.writing_apply (Transaction.not_mem_missing hm _)]
  rfl

theorem deleteAttestations_apply {limit : Nat} {db : Database} (hm : db.missing = []) (hb : below < storeBound)
    (hl : limit < storeBound) :
    Transaction.deleteAttestations id below limit db =
      if db.readOnly then .error (.ofDatabase .readOnly)
      else .ok (db.tables.attestations.length - (withoutAttestations db.tables id below limit).attestations.length,
        { db with tables := withoutAttestations db.tables id below limit }) := by
  unfold Transaction.deleteAttestations
  rw [toColumn_of_lt hb, toColumn_of_lt hl, Transaction.bind_of_ok (Transaction.lift_ok _ _),
    Transaction.bind_of_ok (Transaction.lift_ok _ _), Transaction.writing_apply (Transaction.not_mem_missing hm _)]
  rfl

theorem forgets_withoutBlocks (limit : Nat) (hb : (below : Int) ≤ (t.floorOf id).slot) :
    Forgets t (withoutBlocks t id below limit) where
  rest := rfl
  blocks := removeLowest_sublist
  attestations := List.Sublist.refl _
  blocksGone r hr hn := by
    obtain ⟨hid, hlt⟩ : r.validator = id ∧ r.slot < (below : Int) := by simpa using test_of_removed hr hn
    rw [hid]
    omega
  attestationsGone _ hr hn := absurd hr hn

theorem forgets_withoutAttestations (limit : Nat) (hb : (below : Int) ≤ (t.floorOf id).target) :
    Forgets t (withoutAttestations t id below limit) where
  rest := rfl
  blocks := List.Sublist.refl _
  attestations := removeLowest_sublist
  blocksGone _ hr hn := absurd hr hn
  attestationsGone r hr hn := by
    obtain ⟨hid, hlt⟩ : r.validator = id ∧ r.target < (below : Int) := by simpa using test_of_removed hr hn
    rw [hid]
    omega

/-- A transaction that deletes below the watermark, in tables where that is what it does. It fails only
for a batch that is too large, or where nothing may be written. -/
structure Sweeps (safe : Tables → Prop) (limit : Nat) (delete : Transaction Nat) : Prop where
  stable : ∀ {t t'}, Forgets t t' → safe t → safe t'
  forgets : ∀ {db n db'}, db.missing = [] → safe db.tables → delete db = .ok (n, db') →
    ∃ t', db' = { db with tables := t' } ∧ Forgets db.tables t'
  succeeds : ∀ {db}, db.missing = [] → db.readOnly = false → limit < storeBound → ∃ result, delete db = .ok result

theorem Sweeps.of_apply {safe : Tables → Prop} {limit : Nat} {delete : Transaction Nat} {after : Tables → Tables}
    (stable : ∀ {t t'}, Forgets t t' → safe t → safe t') (forgets : ∀ {t}, safe t → Forgets t (after t))
    (large : storeBound ≤ limit → ∀ db, ∃ cause, delete db = .error cause)
    (small : limit < storeBound → ∀ {db : Database}, db.missing = [] → ∃ n, delete db =
      if db.readOnly then .error (.ofDatabase .readOnly) else .ok (n, { db with tables := after db.tables })) :
    Sweeps safe limit delete := by
  refine ⟨stable, fun {db n db'} hm hs ho => ?_, fun {db} hm hr hl => ?_⟩
  · by_cases hl : limit < storeBound
    · obtain ⟨k, hk⟩ := small hl hm
      rw [hk] at ho
      split at ho
      · cases ho
      · cases ho
        exact ⟨_, rfl, forgets hs⟩
    · obtain ⟨cause, hc⟩ := large (Nat.not_lt.mp hl) db
      rw [hc] at ho
      cases ho
  · obtain ⟨k, hk⟩ := small hl hm
    rw [hk, hr]
    exact ⟨_, rfl⟩

theorem sweeps_deleteBlocks (id : ValidatorId) {below : Nat} (hb : below < storeBound) (limit : Nat) :
    Sweeps (fun t => (below : Int) ≤ (t.floorOf id).slot) limit (Transaction.deleteBlocks id below limit) := by
  refine Sweeps.of_apply (fun hf hs => by rwa [hf.floorOf]) (fun hs => forgets_withoutBlocks limit hs) ?_ ?_
  · intro hl db
    unfold Transaction.deleteBlocks
    rw [toColumn_of_lt hb, toColumn_of_le hl, Transaction.bind_of_ok (Transaction.lift_ok _ _)]
    exact ⟨_, Transaction.bind_of_error (Transaction.lift_error _ _)⟩
  · exact fun hl db hm => ⟨_, deleteBlocks_apply hm hb hl⟩

theorem sweeps_deleteAttestations (id : ValidatorId) {below : Nat} (hb : below < storeBound) (limit : Nat) :
    Sweeps (fun t => (below : Int) ≤ (t.floorOf id).target) limit
      (Transaction.deleteAttestations id below limit) := by
  refine Sweeps.of_apply (fun hf hs => by rwa [hf.floorOf]) (fun hs => forgets_withoutAttestations limit hs) ?_ ?_
  · intro hl db
    unfold Transaction.deleteAttestations
    rw [toColumn_of_lt hb, toColumn_of_le hl, Transaction.bind_of_ok (Transaction.lift_ok _ _)]
    exact ⟨_, Transaction.bind_of_error (Transaction.lift_error _ _)⟩
  · exact fun hl db hm => ⟨_, deleteAttestations_apply hm hb hl⟩

end Batch

abbrev Engine.tables (e : Engine) : Tables := e.database.tables

abbrev Engine.withTables (e : Engine) (t : Tables) : Engine :=
  { e with database := { e.database with tables := t } }

structure Engine.CanSweep (e : Engine) (batch : Nat) : Prop where
  free : e.obstacle? e.service.cleaning = none
  writable : e.database.readOnly = false
  storable : batch < storeBound

/-- However many batches are asked for, only rows below the watermark go, and nothing fails that could not
fail before. -/
theorem deleteBatches_cases {safe : Tables → Prop} {limit : Nat} {delete : Transaction Nat}
    (hd : Sweeps safe limit delete) (operation : String) (batch total rounds : Nat) (e : Engine)
    (hm : e.database.missing = []) (hs : safe e.tables) :
    ∃ t', Forgets e.tables t' ∧
      ((∃ n, Request.deleteBatches operation batch delete total rounds e = (.ok n, e.withTables t')) ∨
        ∃ cause metrics, ¬ e.CanSweep limit ∧
          Request.deleteBatches operation batch delete total rounds e =
            (.error cause, { e.withTables t' with metrics })) := by
  induction rounds generalizing total e with
  | zero => exact ⟨e.tables, .refl _, .inl ⟨total, rfl⟩⟩
  | succ rounds ih =>
    unfold Request.deleteBatches
    cases hf : e.obstacle? e.service.cleaning with
    | some fault =>
      have hn : ¬ e.CanSweep limit := fun hc => by
        rw [hc.free] at hf
        cases hf
      exact ⟨e.tables, .refl _, .inr ⟨_, _, hn, Request.bind_of_error (transactOn_of_obstacle hf)⟩⟩
    | none =>
      cases hb : delete e.database with
      | error cause =>
        have hn : ¬ e.CanSweep limit := fun hc => by
          obtain ⟨result, hr⟩ := hd.succeeds hm hc.writable hc.storable
          rw [hb] at hr
          cases hr
        exact ⟨e.tables, .refl _, .inr ⟨_, _, hn, Request.bind_of_error (transactOn_of_error hf hb)⟩⟩
      | ok result =>
        obtain ⟨n, db'⟩ := result
        obtain ⟨t', rfl, hforgets⟩ := hd.forgets hm hs hb
        have ht : transactCleaning operation delete e = (.ok n, e.withTables t') := transactOn_of_ok hf hb
        rw [Request.bind_of_ok ht]
        by_cases hlt : n < batch
        · exact ⟨t', hforgets, .inl ⟨total + n, by rw [if_pos hlt]; rfl⟩⟩
        · rw [if_neg hlt]
          obtain ⟨t'', hrest, hout⟩ := ih (total + n) (e.withTables t') hm (hd.stable hforgets hs)
          refine ⟨t'', hforgets.trans hrest, ?_⟩
          rcases hout with ⟨k, hk⟩ | ⟨cause, metrics, hn, hk⟩
          · exact .inl ⟨k, hk⟩
          · exact .inr ⟨cause, metrics, fun hc => hn ⟨hc.free, hc.writable, hc.storable⟩, hk⟩

/-- How many batches are deleted at most, from the blocks and from the attestations. -/
structure Rounds where
  blocks : Tables → Nat
  attestations : Tables → Nat

def Rounds.all : Rounds := ⟨(·.blocks.length + 1), (·.attestations.length + 1)⟩

def Rounds.none : Rounds := ⟨fun _ => 0, fun _ => 0⟩

namespace Request

def sweep (rounds : Rounds) (id : ValidatorId) (batch : Nat) (watermark : Watermark) : Request PruneReport := do
  let blocks ← deleteBatches "prune_blocks" batch
    (Transaction.deleteBlocks id watermark.slot batch) 0 (rounds.blocks (← get).database.tables)
  let attestations ← deleteBatches "prune_attestations" batch
    (Transaction.deleteAttestations id watermark.target batch) 0
    (rounds.attestations (← get).database.tables)
  count (.pruned Table.signedBlocks.name) blocks
  count (.pruned Table.signedAttestations.name) attestations
  return ⟨blocks, attestations, some watermark⟩

def pruneWithin (rounds : Rounds) (id : ValidatorId) (window : Retention) : Request PruneReport := do
  let batch := max 1 (← get).service.pruning.batchSize
  let watermark ← transactCleaning "prune_watermark" (Prune.advanceWatermark id window)
  sweep rounds id batch watermark

theorem prune_eq (id : ValidatorId) (window : Retention) : prune id window = pruneWithin .all id window := rfl

end Request

/-- Sweeping below the watermark forgets what lies there, and succeeds where it can. -/
theorem sweep_cases (rounds : Rounds) (id : ValidatorId) (batch : Nat) (e : Engine) (hm : e.database.missing = [])
    (hl : (e.tables.floorOf id).Legible) :
    ∃ t' metrics, Forgets e.tables t' ∧
      (Request.sweep rounds id batch (e.tables.floorOf id).value e).2 = { e.withTables t' with metrics } ∧
      (e.CanSweep batch → ∃ blocks attestations,
        (Request.sweep rounds id batch (e.tables.floorOf id).value e).1 =
          .ok ⟨blocks, attestations, some (e.tables.floorOf id).value⟩) := by
  obtain ⟨w, hslot, -, htarget, hw⟩ := hl
  rw [← hw, WatermarkRow.value_row]
  have hs : (w.slot : Int) ≤ (e.tables.floorOf id).slot := by
    rw [← hw]
    exact Int.le_refl _
  have ht : (w.target : Int) ≤ (e.tables.floorOf id).target := by
    rw [← hw]
    exact Int.le_refl _
  unfold Request.sweep
  rw [Request.get_bind]
  obtain ⟨t₁, h₁, hout⟩ := deleteBatches_cases (sweeps_deleteBlocks id hslot batch) "prune_blocks" batch 0
    (rounds.blocks e.tables) e hm hs
  rcases hout with ⟨blocks, hout⟩ | ⟨cause, metrics, hn, hout⟩
  · rw [Request.bind_of_ok hout, Request.get_bind]
    obtain ⟨t₂, h₂, hout⟩ := deleteBatches_cases (sweeps_deleteAttestations id htarget batch) "prune_attestations"
      batch 0 (rounds.attestations t₁) (e.withTables t₁) hm (by rwa [h₁.floorOf])
    rcases hout with ⟨attestations, hout⟩ | ⟨cause, metrics, hn, hout⟩
    · rw [Request.bind_of_ok hout]
      exact ⟨t₂, _, h₁.trans h₂, rfl, fun _ => ⟨blocks, attestations, rfl⟩⟩
    · rw [Request.bind_of_error hout]
      exact ⟨t₂, metrics, h₁.trans h₂, rfl, fun hc => absurd ⟨hc.free, hc.writable, hc.storable⟩ hn⟩
  · rw [Request.bind_of_error hout]
    exact ⟨t₁, metrics, h₁, rfl, fun hc => absurd hc hn⟩

theorem raise_apply {e : Engine} (hm : e.database.missing = []) (hw : e.tables.WellFormed) (id : ValidatorId)
    (window : Retention) :
    transactCleaning "prune_watermark" (Prune.advanceWatermark id window) e =
      match e.obstacle? e.service.cleaning with
      | some fault => e.failed "prune_watermark" (.access fault)
      | none =>
        if nextFloor e.tables id window ≠ e.tables.floorOf id ∧ e.database.readOnly then
          e.failed "prune_watermark" (.ofDatabase .readOnly)
        else (.ok (nextFloor e.tables id window).value, e.withTables (raised e.tables id window)) := by
  cases hf : e.obstacle? e.service.cleaning with
  | some fault => exact transactOn_of_obstacle hf
  | none =>
    have ha := advanceWatermark_apply hm hw id window
    dsimp only
    by_cases he : nextFloor e.tables id window = e.tables.floorOf id
    · rw [if_pos he] at ha
      rw [if_neg (fun hc => hc.1 he), raised, if_pos he, he]
      exact transactOn_of_ok hf ha
    · rw [if_neg he] at ha
      by_cases hr : e.database.readOnly = true
      · rw [if_pos hr] at ha
        rw [if_pos ⟨he, hr⟩]
        exact transactOn_of_error hf ha
      · rw [if_neg hr] at ha
        rw [if_neg (fun hc => hr hc.2), raised, if_neg he]
        exact transactOn_of_ok hf ha

/-- A prune run trims the tables, whatever comes of it. -/
theorem pruneWithin_trims (rounds : Rounds) (id : ValidatorId) (window : Retention) {e : Engine}
    (hm : e.database.missing = []) (hw : e.tables.WellFormed) :
    ∃ t' metrics, Relation.ReflTransGen Trim e.tables t' ∧
      (Request.pruneWithin rounds id window e).2 = { e.withTables t' with metrics } := by
  have ha := raise_apply hm hw id window
  unfold Request.pruneWithin
  rw [Request.get_bind]
  dsimp only
  cases hf : e.obstacle? e.service.cleaning with
  | some fault =>
    rw [hf] at ha
    rw [Request.bind_of_error ha]
    exact ⟨e.tables, _, .refl, rfl⟩
  | none =>
    simp only [hf] at ha
    split at ha
    · rw [Request.bind_of_error ha]
      exact ⟨e.tables, _, .refl, rfl⟩
    · have hfloor : (raised e.tables id window).floorOf id = nextFloor e.tables id window := by
        rw [floorOf_raised, if_pos rfl]
      rw [Request.bind_of_ok ha, ← hfloor]
      obtain ⟨t', metrics, hforgets, he, -⟩ :=
        sweep_cases rounds id (max 1 e.service.pruning.batchSize) (e.withTables (raised e.tables id window)) hm
          (by rw [hfloor]; exact nextFloor_legible hw id window)
      exact ⟨t', metrics, .tail (.single (.raise id window)) (.forget hforgets), he⟩

namespace Request

def pruneEachWithin (rounds : ValidatorId → Rounds) (window : Retention) (total : PruneReport) :
    List ValidatorId → Request PruneReport
  | [] => return total
  | id :: rest => do
    let report ← pruneWithin (rounds id) id window
    pruneEachWithin rounds window (total.merge report) rest

def pruneAllWithin (rounds : ValidatorId → Rounds) (window : Retention) : Request PruneReport := do
  pruneEachWithin rounds window {} (← allIds)

theorem pruneEach_eq (window : Retention) (total : PruneReport) (ids : List ValidatorId) :
    pruneEach window total ids = pruneEachWithin (fun _ => .all) window total ids := by
  induction ids generalizing total with
  | nil => rfl
  | cons id rest ih =>
    unfold pruneEach pruneEachWithin
    rw [prune_eq]
    simp only [ih]

theorem pruneAll_eq (window : Retention) : pruneAll window = pruneAllWithin (fun _ => .all) window := by
  unfold pruneAll pruneAllWithin
  simp only [pruneEach_eq]

end Request

theorem Guards.trims {t t' : Tables} {h : History} (g : Guards t h) (ht : Relation.ReflTransGen Trim t t') :
    Guards t' h := by
  induction ht with
  | refl => exact g
  | tail _ ht ih => exact ih.trim ht

theorem pruneEachWithin_trims (rounds : ValidatorId → Rounds) (window : Retention) (total : PruneReport)
    (ids : List ValidatorId) {e : Engine} {h : History} (hm : e.database.missing = []) (g : Guards e.tables h) :
    ∃ t' metrics, Relation.ReflTransGen Trim e.tables t' ∧
      (Request.pruneEachWithin rounds window total ids e).2 = { e.withTables t' with metrics } := by
  induction ids generalizing total e with
  | nil => exact ⟨e.tables, e.metrics, .refl, rfl⟩
  | cons id rest ih =>
    unfold Request.pruneEachWithin
    obtain ⟨t₁, metrics, h₁, he⟩ := pruneWithin_trims (rounds id) id window hm g.wellFormed
    cases hp : Request.pruneWithin (rounds id) id window e with
    | mk outcome e₁ =>
      rw [hp] at he
      obtain rfl : e₁ = { e.withTables t₁ with metrics } := he
      cases outcome with
      | error cause =>
        rw [Request.bind_of_error hp]
        exact ⟨t₁, metrics, h₁, rfl⟩
      | ok report =>
        rw [Request.bind_of_ok hp]
        have g₁ := g.trims h₁
        obtain ⟨t₂, metrics', h₂, he⟩ := @ih (total.merge report) { e.withTables t₁ with metrics } hm g₁
        exact ⟨t₂, metrics', h₁.trans h₂, he⟩

end ValidatorSigner.Protection
