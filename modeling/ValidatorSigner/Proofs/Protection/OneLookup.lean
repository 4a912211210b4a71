import Mathlib.Algebra.Group.Nat.Defs
import ValidatorSigner.Proofs.Protection.OnChain

/-! # The answer to a block

A slot holds one block of a validator at most, so a single lookup decides on a block: the slot must fit its
column and must not lie below the watermark, and then it is free or it is taken, by the same block or by
another one.
-/
namespace ValidatorSigner.Protection
open Store Telemetry

def Engine.grants (e : Engine) (artifact : Artifact) : Except ProtectionError Decision × Engine :=
  (.ok .allow, { e with metrics := e.metrics.add (.permitted artifact) 1 })

def Engine.stops (e : Engine) (operation : String) (cause : StorageError) :
    Except ProtectionError Decision × Engine :=
  (.error (.infrastructure operation 1 cause), e)

def Engine.withReadOnly (e : Engine) (readOnly : Bool) : Engine := { e with database := { e.database with readOnly } }

section Lookup
variable {t : Tables} {e : Engine} {db : Database} {c : BlockProposal}

theorem Scan.block_eq_lookup (hw : t.WellFormed) (c : BlockProposal) :
    Scan.block t c =
      if (c.slot : Int) < (t.floorOf c.validator).slot then .refuse .belowWatermark
      else match (t.blocksOf c.validator).find? (·.slot = (c.slot : Int)) with
      | some r => if r.root = c.root.toList then .alreadySigned else .refuse .doubleBlockProposal
      | none => .record := by
  unfold Scan.block
  by_cases hbelow : (c.slot : Int) < (t.floorOf c.validator).slot
  · rw [if_pos hbelow, if_pos hbelow]
  rw [if_neg hbelow, if_neg hbelow]
  cases hf : (t.blocksOf c.validator).find? (·.slot = (c.slot : Int)) with
  | none =>
    have hfree : ∀ r ∈ t.blocksOf c.validator, ¬ r.slot = (c.slot : Int) := by
      simpa using List.find?_eq_none.mp hf
    rw [if_neg fun ⟨r, hr, hs, _⟩ => hfree r hr hs, if_neg fun ⟨r, hr, hs⟩ => hfree r hr hs]
  | some found =>
    have hmem := List.mem_of_find?_eq_some hf
    have hslot : found.slot = (c.slot : Int) := by simpa using List.find?_some hf
    -- Another row of the slot is the one that was found.
    have hone : ∀ r ∈ t.blocksOf c.validator, r.slot = (c.slot : Int) → r = found := by
      intro r hr hs
      obtain ⟨hr, hid⟩ := Tables.mem_blocksOf.mp hr
      obtain ⟨hfound, hfid⟩ := Tables.mem_blocksOf.mp hmem
      exact hw.oneBlock r hr found hfound (hid.trans hfid.symm) (hs.trans hslot.symm)
    dsimp only
    by_cases hroot : found.root = c.root.toList
    · have hsame : ¬ ∃ r ∈ t.blocksOf c.validator, r.slot = c.slot ∧ r.root ≠ c.root.toList := by
        rintro ⟨r, hr, hs, hne⟩
        exact hne (hone r hr hs ▸ hroot)
      rw [if_neg hsame, if_pos ⟨found, hmem, hslot⟩, if_pos hroot]
    · rw [if_pos ⟨found, hmem, hslot, hroot⟩, if_neg hroot]

theorem exists_watermark_iff {id : ValidatorId} {slot : Nat} :
    (∃ w ∈ t.watermarkOf id, (slot : Int) < w.slot) ↔ (slot : Int) < (t.floorOf id).slot := by
  unfold Tables.floorOf
  cases t.watermarkOf id with
  | none => simp
  | some w => simp

theorem failed_of_final {operation : String} {cause : StorageError} (h : cause.isRetryable = false) :
    e.failed operation cause = e.stops operation cause := by
  simp [Engine.failed, Engine.stops, h, Engine.countRetries]

/-- The answer to a request for a block outside any chain, by the verdict of a full scan. -/
theorem maySignBlock_apply (hm : e.database.missing = []) (hw : e.tables.WellFormed) (c : BlockProposal) :
    Request.maySignBlock none c e =
      match e.obstacle? e.service.decisions with
      | some fault => e.failed "may_sign_block" (.access fault)
      | none =>
        if storeBound ≤ c.slot then e.stops "may_sign_block" (.outOfRange .slot c.slot)
        else match Scan.block e.tables c with
        | .refuse reason => e.refuses .block reason
        | .alreadySigned => e.grants .block
        | .record =>
          if e.database.readOnly then e.failed "may_sign_block" (.ofDatabase .readOnly)
          else if e.tables.isRegistered c.validator then (e.withTables (e.tables.addBlock c.row)).grants .block
          else e.stops "may_sign_block" (.constraint DatabaseFault.foreignKey.summary) := by
  unfold Request.maySignBlock
  rw [decided_apply, block_apply hm hw]
  cases e.obstacle? e.service.decisions with
  | some fault => rfl
  | none =>
    dsimp only
    by_cases hb : storeBound ≤ c.slot
    · rw [if_pos hb, if_pos hb, ← failed_of_final rfl]
    rw [if_neg hb, if_neg hb]
    have htables : e.database.tables = e.tables := rfl
    rw [htables]
    cases Scan.block e.tables c with
    | refuse reason => rfl
    | alreadySigned => rfl
    | record =>
      dsimp only [conclude]
      by_cases hr : e.database.readOnly = true
      · rw [if_pos hr, if_pos hr]
      rw [if_neg hr, if_neg hr]
      by_cases hreg : e.tables.isRegistered c.validator = true
      · rw [if_pos hreg, if_pos hreg]
        rfl
      · rw [if_neg hreg, if_neg hreg, ← failed_of_final rfl]

theorem guardChain_opens {genesis : Option Root} {belongs : Bool} {db' : Database} (hm : db.missing = [])
    (hw : db.tables.WellFormed) (h : Decide.guardChain genesis db = .ok (belongs, db')) :
    ∃ t', Opens db.tables t' ∧ db' = { db with tables := t' } := by
  cases genesis with
  | none =>
    cases h
    exact ⟨db.tables, .inl rfl, rfl⟩
  | some root => exact checkGenesis_opens hm hw h

/-- Where the rule lets a block through, its insertion meets no row in its slot. -/
theorem insertBlock_unobstructed (hm : db.missing = []) (hw : db.tables.WellFormed)
    {watermark : Option Watermark} {found : Option BlockProposal}
    (hwatermark : Transaction.findWatermark c.validator db = .ok (watermark, db))
    (hfound : Transaction.findBlock c.validator c.slot db = .ok (found, db))
    (hrecord : checkBlock c watermark found = .record) :
    ∀ db', Transaction.insertBlock c db ≠ .ok (.conflict, db') := by
  obtain ⟨hs, -, hrow, -⟩ := Transaction.findBlock_ok_iff.mp hfound
  obtain ⟨-, hfloor, -⟩ := Transaction.findWatermark_ok_iff.mp hwatermark
  rw [checkBlock_of_rows hw.oneBlock hfloor hrow] at hrecord
  intro db' h
  rw [insertBlock_apply hs, insertUnless_apply (Transaction.not_mem_missing hm _) (·.addBlock c.row)
    (blockFault_of_record hrecord)] at h
  split at h
  · cases h
  · split at h <;> cases h

end Lookup

/-- In every store that a run can reach, opened for writing or only for reading, one lookup decides on a block.
A new block of a registered validator adds its row and nothing else, and no other answer needs to write. On any
chain, the constraint that stands behind the rule is not met. -/
theorem maySignBlock_eq_lookup (writeAhead locked : Bool) (metrics : Metrics) (service : Service)
    (script : List (Event × (ValidatorId → Rounds))) (readOnly : Bool) (c : BlockProposal) :
    let e := (({ engine := .fresh writeAhead locked metrics service } : Run).afterWithin script).engine.withReadOnly readOnly
    (Request.maySignBlock none c e =
      match e.obstacle? e.service.decisions with
      | some fault => e.failed "may_sign_block" (.access fault)
      | none =>
        if 2 ^ 63 - 1 < c.slot then e.stops "may_sign_block" (.outOfRange .slot c.slot)
        else if ∃ w ∈ e.tables.watermarkOf c.validator, (c.slot : Int) < w.slot then
          e.refuses .block .belowWatermark
        else match (e.tables.blocksOf c.validator).find? (·.slot = (c.slot : Int)) with
        | some r => if r.root = c.root.toList then e.grants .block else e.refuses .block .doubleBlockProposal
        | none =>
          if readOnly then e.failed "may_sign_block" (.ofDatabase .readOnly)
          else if e.tables.isRegistered c.validator then
            (e.withTables { e.tables with blocks := e.tables.blocks ++ [c.row] }).grants .block
          else e.stops "may_sign_block" (.constraint "FOREIGN KEY constraint failed")) ∧
    ∀ genesis db, Decide.guardChain genesis e.database = .ok (true, db) →
      ∀ watermark found, Transaction.findWatermark c.validator db = .ok (watermark, db) →
        Transaction.findBlock c.validator c.slot db = .ok (found, db) →
        checkBlock c watermark found = .record →
        ∀ db', Transaction.insertBlock c db ≠ .ok (.conflict, db') := by
  intro e
  obtain ⟨hs, -⟩ := Run.reached writeAhead locked metrics service script
  have hm : e.database.missing = [] := hs.engine.installed
  have g : Guards e.tables _ := hs.engine.guards
  have hw := g.wellFormed
  constructor
  · rw [maySignBlock_apply hm hw]
    cases e.obstacle? e.service.decisions with
    | some fault => rfl
    | none =>
      have hbound : storeBound ≤ c.slot ↔ 2 ^ 63 - 1 < c.slot := by
        rw [storeBound_eq]
        omega
      simp only [hbound, exists_watermark_iff, Scan.block_eq_lookup hw]
      by_cases hb : 2 ^ 63 - 1 < c.slot
      · rw [if_pos hb, if_pos hb]
      rw [if_neg hb, if_neg hb]
      by_cases hbelow : (c.slot : Int) < (e.tables.floorOf c.validator).slot
      · rw [if_pos hbelow, if_pos hbelow]
      rw [if_neg hbelow, if_neg hbelow]
      cases (e.tables.blocksOf c.validator).find? (·.slot = (c.slot : Int)) with
      | none => rfl
      | some r =>
        dsimp only
        by_cases hroot : r.root = c.root.toList
        · rw [if_pos hroot, if_pos hroot]
        · rw [if_neg hroot, if_neg hroot]
  · intro genesis db hguard watermark found hwatermark hfound hrecord
    -- The check of the chain leaves the rows as they are, and so what they guard.
    obtain ⟨t', hopens, rfl⟩ := guardChain_opens hm hw hguard
    exact @insertBlock_unobstructed { e.database with tables := t' } c hm (g.quietly hopens.quietly).wellFormed
      watermark found hwatermark hfound hrecord

end ValidatorSigner.Protection
