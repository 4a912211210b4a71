import ValidatorSigner.Proofs.Sequence
import ValidatorSigner.Proofs.Transaction
import ValidatorSigner.Store.Write

/-! # Rows that stand for records

A table may hold rows without a meaning. In well-formed tables every row is the row of a record
whose numbers fit their columns, and lookups give those records back.
-/
namespace ValidatorSigner.Protection
open Store

def BlockProposal.row (b : BlockProposal) : BlockRow := ⟨b.validator, b.slot, b.root.toList⟩

def Attestation.row (a : Attestation) : AttestationRow := ⟨a.validator, a.source, a.target, a.root.toList⟩

def Watermark.row (w : Watermark) : WatermarkRow := ⟨w.validator, w.slot, w.source, w.target⟩

theorem Attestation.row_injective {a b : Attestation} (h : a.row = b.row) : a = b := by
  obtain ⟨id, source, target, root⟩ := a
  obtain ⟨id', source', target', root'⟩ := b
  simp only [Attestation.row, AttestationRow.mk.injEq, Int.natCast_inj] at h
  obtain ⟨rfl, rfl, rfl, hr⟩ := h
  rw [FixedBytes.ext hr]

end ValidatorSigner.Protection

namespace ValidatorSigner.Store
open Protection

def BlockRow.Legible (r : BlockRow) : Prop := ∃ b : BlockProposal, b.slot < storeBound ∧ b.row = r

def AttestationRow.Legible (r : AttestationRow) : Prop :=
  ∃ a : Attestation, a.source < storeBound ∧ a.target < storeBound ∧ a.row = r

def WatermarkRow.Legible (r : WatermarkRow) : Prop :=
  ∃ w : Watermark, w.slot < storeBound ∧ w.source < storeBound ∧ w.target < storeBound ∧ w.row = r

def WatermarkRow.value (r : WatermarkRow) : Watermark :=
  ⟨r.validator, r.slot.toNat, r.source.toNat, r.target.toNat⟩

/-- Every row stands for a record of a registered validator, who has one block in a slot. -/
structure Tables.WellFormed (t : Tables) : Prop where
  blocks : ∀ r ∈ t.blocks, r.Legible
  attestations : ∀ r ∈ t.attestations, r.Legible
  watermarks : ∀ r ∈ t.watermarks, r.Legible
  genesis : ∀ bytes ∈ t.genesis, ∃ root : Root, root.toList = bytes
  blockOwners : ∀ r ∈ t.blocks, t.isRegistered r.validator = true
  attestationOwners : ∀ r ∈ t.attestations, t.isRegistered r.validator = true
  oneBlock : ∀ a ∈ t.blocks, ∀ b ∈ t.blocks, a.validator = b.validator → a.slot = b.slot → a = b

theorem storeBound_eq : storeBound = 0x8000000000000000 := rfl

theorem storeBound_pos : 0 < storeBound := Nat.two_pow_pos 63

theorem ofColumn_natCast (table : Table) (n : Nat) : ofColumn table (n : Int) = .ok n := by
  simp [ofColumn]

theorem rootOfColumn_toList (table : Table) (root : Root) : rootOfColumn table root.toList = .ok root := by
  simp [rootOfColumn, FixedBytes.ofBytes, root.length_eq]

theorem AttestationRow.decode_row (a : Attestation) : a.row.decode = .ok a := by
  simp only [decode, Attestation.row, ofColumn_natCast, rootOfColumn_toList]
  rfl

theorem WatermarkRow.decode_row (w : Watermark) : w.row.decode = .ok w := by
  simp only [decode, Watermark.row, ofColumn_natCast]
  rfl

theorem ofColumn_ok_iff {table : Table} {value : Int} {n : Nat} : ofColumn table value = .ok n ↔ value = n := by
  refine ⟨fun h => ?_, fun h => h ▸ ofColumn_natCast table n⟩
  unfold ofColumn at h
  split at h
  · rename_i hv
    cases h
    exact (Int.toNat_of_nonneg hv).symm
  · cases h

theorem rootOfColumn_ok_iff {table : Table} {bytes : List UInt8} {root : Root} :
    rootOfColumn table bytes = .ok root ↔ bytes = root.toList := by
  refine ⟨fun h => ?_, fun h => h ▸ rootOfColumn_toList table root⟩
  unfold rootOfColumn FixedBytes.ofBytes at h
  split at h
  · rename_i found hf
    cases h
    split at hf
    · cases hf
      rfl
    · cases hf
  · cases h

theorem AttestationRow.decode_ok_iff {row : AttestationRow} {a : Attestation} : row.decode = .ok a ↔ row = a.row := by
  refine ⟨fun h => ?_, fun h => h ▸ decode_row a⟩
  obtain ⟨validator, source, target, root⟩ := row
  obtain ⟨source', hs, h⟩ := bind_ok_iff.mp h
  obtain ⟨target', ht, h⟩ := bind_ok_iff.mp h
  obtain ⟨root', hr, h⟩ := bind_ok_iff.mp h
  have hsource : source = source' := ofColumn_ok_iff.mp hs
  have htarget : target = target' := ofColumn_ok_iff.mp ht
  have hroot : root = root'.toList := rootOfColumn_ok_iff.mp hr
  cases h
  rw [hsource, htarget, hroot]
  rfl

theorem WatermarkRow.decode_ok_iff {row : WatermarkRow} {w : Watermark} : row.decode = .ok w ↔ row = w.row := by
  refine ⟨fun h => ?_, fun h => h ▸ decode_row w⟩
  obtain ⟨validator, slot, source, target⟩ := row
  obtain ⟨slot', hl, h⟩ := bind_ok_iff.mp h
  obtain ⟨source', hs, h⟩ := bind_ok_iff.mp h
  obtain ⟨target', ht, h⟩ := bind_ok_iff.mp h
  have hslot : slot = slot' := ofColumn_ok_iff.mp hl
  have hsource : source = source' := ofColumn_ok_iff.mp hs
  have htarget : target = target' := ofColumn_ok_iff.mp ht
  cases h
  rw [hslot, hsource, htarget]
  rfl

theorem decodeOption_ok_iff {α β : Type} {decode : α → Except StorageError β} {encode : β → α} {row? : Option α}
    (hd : ∀ row ∈ row?, ∀ b, decode row = .ok b ↔ row = encode b) {found : Option β} :
    decodeOption decode row? = .ok found ↔ row? = found.map encode := by
  cases row? with
  | none => cases found <;> simp [decodeOption]
  | some row =>
    have hd := hd row rfl
    cases hr : decode row with
    | error e => cases found <;> simp [decodeOption, hr, Except.map, ← hd]
    | ok b => cases found <;> simp [decodeOption, hr, Except.map, ← hd]

theorem mapM_decode_ok_iff {rows : List AttestationRow} {found : List Attestation} :
    rows.mapM AttestationRow.decode = .ok found ↔ rows = found.map Attestation.row := by
  simp only [mapM_ok_iff, AttestationRow.decode_ok_iff, forall₂_eq_map_iff]

theorem WatermarkRow.value_row (w : Watermark) : w.row.value = w := by
  simp [value, Watermark.row]

theorem WatermarkRow.Legible.row_value {r : WatermarkRow} (h : r.Legible) : r.value.row = r := by
  obtain ⟨w, -, -, -, rfl⟩ := h
  rw [value_row]

/-- Rows that all stand for attestations are the rows of a list of attestations. -/
theorem exists_map_row {rows : List AttestationRow} (h : ∀ r ∈ rows, r.Legible) :
    ∃ found : List Attestation, found.map Attestation.row = rows := by
  simp only [eq_comm, ← forall₂_eq_map_iff, exists_forall₂_iff]
  intro r hr
  obtain ⟨a, -, -, hrow⟩ := h r hr
  exact ⟨a, hrow.symm⟩

theorem exists_map_row? {row? : Option AttestationRow} (h : ∀ r ∈ row?, r.Legible) :
    ∃ found : Option Attestation, found.map Attestation.row = row? := by
  cases row? with
  | none => exact ⟨none, rfl⟩
  | some r =>
    obtain ⟨a, -, -, rfl⟩ := h r rfl
    exact ⟨some a, rfl⟩

namespace Tables
variable {t : Tables} {id : ValidatorId}

theorem mem_blocksOf {r : BlockRow} : r ∈ t.blocksOf id ↔ r ∈ t.blocks ∧ r.validator = id := by
  simp [blocksOf]

theorem mem_attestationsOf {r : AttestationRow} :
    r ∈ t.attestationsOf id ↔ r ∈ t.attestations ∧ r.validator = id := by
  simp [attestationsOf]

theorem watermarkOf_mem {w : WatermarkRow} (h : t.watermarkOf id = some w) :
    w ∈ t.watermarks ∧ w.validator = id :=
  ⟨List.mem_of_find?_eq_some h, by simpa using List.find?_some h⟩

/-- The watermark row of a validator, or the one that refuses nothing. -/
def floorOf (t : Tables) (id : ValidatorId) : WatermarkRow := (t.watermarkOf id).getD ⟨id, 0, 0, 0⟩

theorem floorOf_validator : (t.floorOf id).validator = id := by
  unfold floorOf
  cases h : t.watermarkOf id with
  | none => rfl
  | some w => exact (watermarkOf_mem h).2

theorem WellFormed.floorOf (h : t.WellFormed) (id : ValidatorId) : (t.floorOf id).Legible := by
  unfold Tables.floorOf
  cases hw : t.watermarkOf id with
  | none => exact ⟨.floor id, storeBound_pos, storeBound_pos, storeBound_pos, rfl⟩
  | some w => exact h.watermarks w (watermarkOf_mem hw).1

theorem WellFormed.watermarkOf_row (h : t.WellFormed) (id : ValidatorId) :
    t.watermarkOf id = ((t.watermarkOf id).map WatermarkRow.value).map Watermark.row := by
  cases hw : t.watermarkOf id with
  | none => rfl
  | some w => exact congrArg some (h.watermarks w (watermarkOf_mem hw).1).row_value.symm

theorem floorOf_of_found {found : Option Watermark} (h : t.watermarkOf id = found.map Watermark.row) :
    t.floorOf id = (found.getD (.floor id)).row := by
  unfold floorOf
  rw [h]
  cases found with
  | none => rfl
  | some w => rfl

theorem watermarkOf_putWatermark (t : Tables) (w : WatermarkRow) (id : ValidatorId) :
    (t.putWatermark w).watermarkOf id = if id = w.validator then some w else t.watermarkOf id := by
  by_cases h : id = w.validator
  · have hn : (t.watermarks.filter (·.validator ≠ w.validator)).find? (·.validator = id) = none := by
      simp [List.find?_eq_none, h]
    simp only [watermarkOf, putWatermark, List.find?_append, hn, if_pos h]
    simp [h]
  · have hs : (t.watermarks.filter (·.validator ≠ w.validator)).find? (·.validator = id) =
        t.watermarks.find? (·.validator = id) := by
      rw [List.find?_filter]
      congr 1
      funext r
      by_cases hr : r.validator = id <;> simp [hr, h]
    simp only [watermarkOf, putWatermark, List.find?_append, hs, if_neg h]
    cases t.watermarks.find? (·.validator = id) <;> simp [Ne.symm h]

theorem floorOf_putWatermark (t : Tables) (w : WatermarkRow) (id : ValidatorId) :
    (t.putWatermark w).floorOf id = if id = w.validator then w else t.floorOf id := by
  unfold floorOf
  rw [watermarkOf_putWatermark]
  split <;> rfl

end Tables

namespace Transaction
variable {db db' : Database} {id : ValidatorId}

theorem findWatermark_ok_iff {found : Option Watermark} :
    findWatermark id db = .ok (found, db') ↔
      .lowWatermarks ∉ db.missing ∧ db.tables.watermarkOf id = found.map Watermark.row ∧ db = db' := by
  unfold findWatermark
  rw [reading_ok_iff, decodeOption_ok_iff fun _ _ _ => WatermarkRow.decode_ok_iff]

theorem findBlock_ok_iff {slot : Nat} {found : Option BlockProposal} :
    findBlock id slot db = .ok (found, db') ↔
      slot < storeBound ∧ .signedBlocks ∉ db.missing ∧
        (db.tables.blocksOf id).find? (·.slot = (slot : Int)) = found.map BlockProposal.row ∧ db = db' := by
  unfold findBlock
  rw [column_ok_iff, reading_ok_iff, decodeOption_ok_iff]
  intro r hr b
  obtain ⟨validator, number, bytes⟩ := r
  obtain ⟨validator', slot', root'⟩ := b
  obtain rfl : validator = id := (Tables.mem_blocksOf.mp (List.mem_of_find?_eq_some hr)).2
  obtain rfl : number = (slot : Int) := by simpa using List.find?_some hr
  cases hroot : rootOfColumn .signedBlocks bytes with
  | error e =>
    have hn : bytes ≠ root'.toList := fun he => by
      rw [rootOfColumn_ok_iff.mpr he] at hroot
      cases hroot
    simp [BlockProposal.row, Except.map, hn]
  | ok root =>
    obtain rfl := rootOfColumn_ok_iff.mp hroot
    have he : root = root' ↔ root.toList = root'.toList := ⟨fun h => h ▸ rfl, FixedBytes.ext⟩
    simp only [BlockProposal.row, Except.map, he, Int.natCast_inj, Except.ok.injEq, BlockProposal.mk.injEq,
      BlockRow.mk.injEq]

theorem findAttestations_ok_iff {target : Nat} {found : List Attestation} :
    findAttestations id target db = .ok (found, db') ↔
      target < storeBound ∧ .signedAttestations ∉ db.missing ∧
        (db.tables.attestationsOf id).filter (·.target = (target : Int)) = found.map Attestation.row ∧ db = db' := by
  unfold findAttestations
  rw [column_ok_iff, reading_ok_iff, mapM_decode_ok_iff]

theorem findEnclosing_ok_iff {source target : Nat} {found : Option Attestation} :
    findEnclosing id source target db = .ok (found, db') ↔
      source < storeBound ∧ target < storeBound ∧ .signedAttestations ∉ db.missing ∧
        (db.tables.attestationsOf id).find? (fun r => r.source < (source : Int) ∧ (target : Int) < r.target) =
          found.map Attestation.row ∧ db = db' := by
  unfold findEnclosing
  rw [column_ok_iff, column_ok_iff, reading_ok_iff, decodeOption_ok_iff fun _ _ _ => AttestationRow.decode_ok_iff]

theorem findEnclosed_ok_iff {source target : Nat} {found : Option Attestation} :
    findEnclosed id source target db = .ok (found, db') ↔
      source < storeBound ∧ target < storeBound ∧ .signedAttestations ∉ db.missing ∧
        (db.tables.attestationsOf id).find? (fun r => (source : Int) < r.source ∧ r.target < (target : Int)) =
          found.map Attestation.row ∧ db = db' := by
  unfold findEnclosed
  rw [column_ok_iff, column_ok_iff, reading_ok_iff, decodeOption_ok_iff fun _ _ _ => AttestationRow.decode_ok_iff]

theorem findVersion_ok_iff {version : Option Int} :
    findVersion db = .ok (version, db') ↔
      .databaseVersion ∉ db.missing ∧ db.tables.version = version ∧ db = db' := by
  simp only [findVersion, reading_ok_iff, Except.ok.injEq]

theorem findGenesis_ok_iff {found : Option Root} :
    findGenesis db = .ok (found, db') ↔
      .metadata ∉ db.missing ∧ db.tables.genesis = found.map FixedBytes.toList ∧ db = db' := by
  unfold findGenesis
  rw [reading_ok_iff, decodeOption_ok_iff fun _ _ _ => rootOfColumn_ok_iff]

theorem findWatermark_apply (hm : db.missing = []) (hw : db.tables.WellFormed) (id : ValidatorId) :
    findWatermark id db = .ok ((db.tables.watermarkOf id).map WatermarkRow.value, db) :=
  findWatermark_ok_iff.mpr ⟨not_mem_missing hm _, hw.watermarkOf_row id, rfl⟩

theorem findAttestations_apply (hm : db.missing = []) (hw : db.tables.WellFormed) (id : ValidatorId)
    {target : Nat} (ht : target < storeBound) :
    ∃ found : List Attestation,
      found.map Attestation.row = (db.tables.attestationsOf id).filter (·.target = (target : Int)) ∧
      findAttestations id target db = .ok (found, db) := by
  have hl : ∀ r ∈ (db.tables.attestationsOf id).filter (·.target = (target : Int)), r.Legible := fun r hr =>
    hw.attestations r (Tables.mem_attestationsOf.mp (List.mem_filter.mp hr).1).1
  obtain ⟨found, hf⟩ := exists_map_row hl
  exact ⟨found, hf, findAttestations_ok_iff.mpr ⟨ht, not_mem_missing hm _, hf.symm, rfl⟩⟩

theorem find?_legible (hw : db.tables.WellFormed) {id : ValidatorId} {test : AttestationRow → Bool} :
    ∀ r ∈ (db.tables.attestationsOf id).find? test, r.Legible := fun r hr =>
  hw.attestations r (Tables.mem_attestationsOf.mp (List.mem_of_find?_eq_some hr)).1

theorem findEnclosing_apply (hm : db.missing = []) (hw : db.tables.WellFormed) (id : ValidatorId)
    {source target : Nat} (hs : source < storeBound) (ht : target < storeBound) :
    ∃ found : Option Attestation,
      found.map Attestation.row =
        (db.tables.attestationsOf id).find? (fun r => r.source < (source : Int) ∧ (target : Int) < r.target) ∧
      findEnclosing id source target db = .ok (found, db) := by
  obtain ⟨found, hf⟩ := exists_map_row? (find?_legible hw)
  exact ⟨found, hf, findEnclosing_ok_iff.mpr ⟨hs, ht, not_mem_missing hm _, hf.symm, rfl⟩⟩

theorem findEnclosed_apply (hm : db.missing = []) (hw : db.tables.WellFormed) (id : ValidatorId)
    {source target : Nat} (hs : source < storeBound) (ht : target < storeBound) :
    ∃ found : Option Attestation,
      found.map Attestation.row =
        (db.tables.attestationsOf id).find? (fun r => (source : Int) < r.source ∧ r.target < (target : Int)) ∧
      findEnclosed id source target db = .ok (found, db) := by
  obtain ⟨found, hf⟩ := exists_map_row? (find?_legible hw)
  exact ⟨found, hf, findEnclosed_ok_iff.mpr ⟨hs, ht, not_mem_missing hm _, hf.symm, rfl⟩⟩

end Transaction
end ValidatorSigner.Store
