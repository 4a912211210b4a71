import ValidatorSigner.Proofs.Store.WellFormed
import ValidatorSigner.Protection.Decide

/-! # Decisions as full scans

The rules look at a few rows that lookups find for them. Over well-formed tables their verdict is the
one that a scan of all rows of the validator gives, with the reasons in a fixed order of priority.
-/
namespace ValidatorSigner.Store

def AttestationRow.Surrounds (a b : AttestationRow) : Prop := a.source < b.source ∧ b.target < a.target

instance (a b : AttestationRow) : Decidable (a.Surrounds b) := inferInstanceAs (Decidable (_ ∧ _))

end ValidatorSigner.Store

namespace ValidatorSigner.Protection
open Store

namespace Scan
variable (t : Tables)

def block (c : BlockProposal) : Verdict :=
  if (c.slot : Int) < (t.floorOf c.validator).slot then .refuse .belowWatermark
  else if ∃ r ∈ t.blocksOf c.validator, r.slot = c.slot ∧ r.root ≠ c.root.toList then
    .refuse .doubleBlockProposal
  else if ∃ r ∈ t.blocksOf c.validator, r.slot = c.slot then .alreadySigned
  else .record

def attestation (c : Attestation) : Verdict :=
  if c.target < c.source then .refuse .invalidEpochOrder
  else if (c.target : Int) < (t.floorOf c.validator).target ∨ (c.source : Int) < (t.floorOf c.validator).source then
    .refuse .belowWatermark
  else if ∃ r ∈ t.attestationsOf c.validator, r.target = c.target ∧ r.root ≠ c.root.toList then
    .refuse .doubleVote
  else if ∃ r ∈ t.attestationsOf c.validator, r.Surrounds c.row then .refuse .surroundedVote
  else if ∃ r ∈ t.attestationsOf c.validator, c.row.Surrounds r then .refuse .surroundingVote
  else if ∃ r ∈ t.attestationsOf c.validator, r.target = c.target then .alreadySigned
  else .record

variable {t}

/-- A scan that refuses nothing looks for the block itself. -/
theorem block_cases (t : Tables) (c : BlockProposal) :
    (∃ reason, block t c = .refuse reason) ∨
    (¬ (c.slot : Int) < (t.floorOf c.validator).slot ∧
      (¬ ∃ r ∈ t.blocksOf c.validator, r.slot = c.slot ∧ r.root ≠ c.root.toList) ∧
      block t c = if ∃ r ∈ t.blocksOf c.validator, r.slot = (c.slot : Int) then .alreadySigned else .record) := by
  unfold block
  by_cases h1 : (c.slot : Int) < (t.floorOf c.validator).slot
  · exact .inl ⟨_, if_pos h1⟩
  by_cases h2 : ∃ r ∈ t.blocksOf c.validator, r.slot = c.slot ∧ r.root ≠ c.root.toList
  · exact .inl ⟨_, by rw [if_neg h1, if_pos h2]⟩
  · exact .inr ⟨h1, h2, by rw [if_neg h1, if_neg h2]⟩

theorem block_record {c : BlockProposal} (h : block t c = .record) :
    (t.floorOf c.validator).slot ≤ c.slot ∧ ∀ r ∈ t.blocksOf c.validator, r.slot ≠ (c.slot : Int) := by
  rcases block_cases t c with ⟨reason, hr⟩ | ⟨h1, -, hv⟩
  · rw [h] at hr
    cases hr
  · rw [h] at hv
    split at hv
    · cases hv
    · rename_i hn
      exact ⟨Int.not_lt.mp h1, fun r hr hs => hn ⟨r, hr, hs⟩⟩

theorem block_alreadySigned {c : BlockProposal} (h : block t c = .alreadySigned) :
    ∃ r ∈ t.blocksOf c.validator, r.slot = (c.slot : Int) ∧ r.root = c.root.toList := by
  rcases block_cases t c with ⟨reason, hr⟩ | ⟨-, h2, hv⟩
  · rw [h] at hr
    cases hr
  · rw [h] at hv
    split at hv
    · rename_i hs
      obtain ⟨r, hr, hs⟩ := hs
      exact ⟨r, hr, hs, Decidable.byContradiction fun hne => h2 ⟨r, hr, hs, hne⟩⟩
    · cases hv

/-- A scan that refuses nothing looks for the attestation itself. -/
theorem attestation_cases (t : Tables) (c : Attestation) :
    (∃ reason, attestation t c = .refuse reason) ∨
    (¬ c.target < c.source ∧
      (¬ ((c.target : Int) < (t.floorOf c.validator).target ∨ (c.source : Int) < (t.floorOf c.validator).source)) ∧
      (¬ ∃ r ∈ t.attestationsOf c.validator, r.target = c.target ∧ r.root ≠ c.root.toList) ∧
      (¬ ∃ r ∈ t.attestationsOf c.validator, r.Surrounds c.row) ∧
      (¬ ∃ r ∈ t.attestationsOf c.validator, c.row.Surrounds r) ∧
      attestation t c =
        if ∃ r ∈ t.attestationsOf c.validator, r.target = (c.target : Int) then .alreadySigned else .record) := by
  unfold attestation
  by_cases h1 : c.target < c.source
  · exact .inl ⟨_, if_pos h1⟩
  by_cases h2 : (c.target : Int) < (t.floorOf c.validator).target ∨ (c.source : Int) < (t.floorOf c.validator).source
  · exact .inl ⟨_, by rw [if_neg h1, if_pos h2]⟩
  by_cases h3 : ∃ r ∈ t.attestationsOf c.validator, r.target = c.target ∧ r.root ≠ c.root.toList
  · exact .inl ⟨_, by rw [if_neg h1, if_neg h2, if_pos h3]⟩
  by_cases h4 : ∃ r ∈ t.attestationsOf c.validator, r.Surrounds c.row
  · exact .inl ⟨_, by rw [if_neg h1, if_neg h2, if_neg h3, if_pos h4]⟩
  by_cases h5 : ∃ r ∈ t.attestationsOf c.validator, c.row.Surrounds r
  · exact .inl ⟨_, by rw [if_neg h1, if_neg h2, if_neg h3, if_neg h4, if_pos h5]⟩
  · exact .inr ⟨h1, h2, h3, h4, h5, by rw [if_neg h1, if_neg h2, if_neg h3, if_neg h4, if_neg h5]⟩

theorem attestation_record {c : Attestation} (h : attestation t c = .record) :
    c.source ≤ c.target ∧ (t.floorOf c.validator).target ≤ c.target ∧
      (t.floorOf c.validator).source ≤ c.source ∧
      ∀ r ∈ t.attestationsOf c.validator,
        r.target ≠ (c.target : Int) ∧ ¬ r.Surrounds c.row ∧ ¬ c.row.Surrounds r := by
  rcases attestation_cases t c with ⟨reason, hr⟩ | ⟨h1, h2, -, h4, h5, hv⟩
  · rw [h] at hr
    cases hr
  · rw [h] at hv
    split at hv
    · cases hv
    · rename_i hn
      refine ⟨by omega, by omega, by omega, fun r hr => ?_⟩
      exact ⟨fun ht => hn ⟨r, hr, ht⟩, fun hs => h4 ⟨r, hr, hs⟩, fun hs => h5 ⟨r, hr, hs⟩⟩

theorem attestation_alreadySigned {c : Attestation} (h : attestation t c = .alreadySigned) :
    ∃ r ∈ t.attestationsOf c.validator, r.target = (c.target : Int) ∧ r.root = c.root.toList := by
  rcases attestation_cases t c with ⟨reason, hr⟩ | ⟨-, -, h3, -, -, hv⟩
  · rw [h] at hr
    cases hr
  · rw [h] at hv
    split at hv
    · rename_i ht
      obtain ⟨r, hr, ht⟩ := ht
      exact ⟨r, hr, ht, Decidable.byContradiction fun hne => h3 ⟨r, hr, ht, hne⟩⟩
    · cases hv

end Scan

def conclude (db : Database) (verdict : Verdict) (registered : Bool) (recorded : Tables) :
    Except StorageError (Decision × Database) :=
  match verdict with
  | .refuse reason => .ok (.deny reason, db)
  | .alreadySigned => .ok (.allow, db)
  | .record =>
    if db.readOnly then .error (.ofDatabase .readOnly)
    else if registered then .ok (.allow, { db with tables := recorded })
    else .error (.constraint DatabaseFault.foreignKey.summary)

structure Evidence.Gathers (evidence : Evidence) (rows : List AttestationRow) (c : Attestation) : Prop where
  sameTarget : evidence.sameTarget.map Attestation.row = rows.filter (·.target = (c.target : Int))
  enclosing : evidence.enclosing.map Attestation.row =
    rows.find? (fun r => r.source < (c.source : Int) ∧ (c.target : Int) < r.target)
  enclosed : evidence.enclosed.map Attestation.row =
    rows.find? (fun r => (c.source : Int) < r.source ∧ r.target < (c.target : Int))

namespace Evidence.Gathers
variable {evidence : Evidence} {rows : List AttestationRow} {c : Attestation}

theorem mem_sameTarget (h : evidence.Gathers rows c) (P : Attestation → Prop) :
    (∃ a ∈ evidence.sameTarget.filter (·.target = c.target), P a) ↔
      ∃ a : Attestation, a.row ∈ rows ∧ a.target = c.target ∧ P a := by
  have hm (a : Attestation) : a ∈ evidence.sameTarget ↔ a.row ∈ rows ∧ a.target = c.target := by
    have hr : a ∈ evidence.sameTarget ↔ a.row ∈ evidence.sameTarget.map Attestation.row :=
      ⟨List.mem_map_of_mem, fun hr => by
        obtain ⟨b, hb, he⟩ := List.mem_map.mp hr
        exact Attestation.row_injective he ▸ hb⟩
    rw [hr, h.sameTarget, List.mem_filter]
    simp only [Attestation.row, decide_eq_true_eq, Int.natCast_inj]
  constructor
  · rintro ⟨a, ha, hp⟩
    have ha := (hm a).mp (List.mem_filter.mp ha).1
    exact ⟨a, ha.1, ha.2, hp⟩
  · rintro ⟨a, ha, ht, hp⟩
    exact ⟨a, List.mem_filter.mpr ⟨(hm a).mpr ⟨ha, ht⟩, by simpa using ht⟩, hp⟩

/-- A row with the target of the candidate has been decoded. -/
theorem exists_row (h : evidence.Gathers rows c) {r : AttestationRow} (hr : r ∈ rows) (ht : r.target = (c.target : Int)) :
    ∃ a : Attestation, a.row = r ∧ a.target = c.target := by
  have hm : r ∈ evidence.sameTarget.map Attestation.row := by
    rw [h.sameTarget]
    exact List.mem_filter.mpr ⟨hr, by simpa using ht⟩
  obtain ⟨a, -, rfl⟩ := List.mem_map.mp hm
  exact ⟨a, rfl, Int.natCast_inj.mp ht⟩

theorem doubleVote_iff (h : evidence.Gathers rows c) :
    (∃ a ∈ evidence.sameTarget.filter (·.target = c.target), a.root ≠ c.root) ↔
      ∃ r ∈ rows, r.target = c.target ∧ r.root ≠ c.root.toList := by
  rw [h.mem_sameTarget]
  constructor
  · rintro ⟨a, ha, ht, hr⟩
    exact ⟨a.row, ha, by simp [Attestation.row, ht], fun he => hr (FixedBytes.ext he)⟩
  · rintro ⟨r, hr, ht, hroot⟩
    obtain ⟨a, rfl, ha⟩ := h.exists_row hr ht
    exact ⟨a, hr, ha, fun he => hroot (congrArg FixedBytes.toList he)⟩

theorem sameTarget_isEmpty (h : evidence.Gathers rows c) :
    (evidence.sameTarget.filter (·.target = c.target)).isEmpty = true ↔ ¬ ∃ r ∈ rows, r.target = (c.target : Int) := by
  have he := h.mem_sameTarget fun _ => True
  rw [List.isEmpty_iff, List.eq_nil_iff_forall_not_mem]
  constructor
  · rintro hn ⟨r, hr, ht⟩
    obtain ⟨a, rfl, ha⟩ := h.exists_row hr ht
    obtain ⟨b, hb, -⟩ := he.mpr ⟨a, hr, ha, trivial⟩
    exact hn b hb
  · intro hn a ha
    obtain ⟨b, hb, ht, -⟩ := he.mp ⟨a, ha, trivial⟩
    exact hn ⟨b.row, hb, by simp [Attestation.row, ht]⟩

/-- A lookup that finds a row if there is one stands for all rows. -/
theorem exists_found_iff {found : Option Attestation} {test : AttestationRow → Bool} {P : Attestation → Prop}
    (h : found.map Attestation.row = rows.find? test) (hp : ∀ a : Attestation, P a ↔ test a.row = true) :
    (∃ a ∈ found, P a) ↔ ∃ r ∈ rows, test r = true := by
  constructor
  · rintro ⟨a, ha, hpa⟩
    rw [Option.mem_def.mp ha, Option.map_some] at h
    exact ⟨a.row, List.mem_of_find?_eq_some h.symm, (hp a).mp hpa⟩
  · rintro ⟨r, hr, ht⟩
    obtain ⟨r', hr'⟩ := Option.isSome_iff_exists.mp (List.find?_isSome.mpr ⟨r, hr, ht⟩)
    rw [hr'] at h
    obtain ⟨a, ha, rfl⟩ := Option.map_eq_some_iff.mp h
    exact ⟨a, ha, (hp a).mpr (List.find?_some hr')⟩

theorem surrounded_iff (h : evidence.Gathers rows c) :
    (∃ a ∈ evidence.enclosing, a.Surrounds c) ↔ ∃ r ∈ rows, r.Surrounds c.row := by
  rw [exists_found_iff h.enclosing (by simp [Attestation.Surrounds, Attestation.row])]
  simp [AttestationRow.Surrounds, Attestation.row]

theorem surrounding_iff (h : evidence.Gathers rows c) :
    (∃ a ∈ evidence.enclosed, c.Surrounds a) ↔ ∃ r ∈ rows, c.row.Surrounds r := by
  rw [exists_found_iff h.enclosed (by simp [Attestation.Surrounds, Attestation.row])]
  simp [AttestationRow.Surrounds, Attestation.row]

end Evidence.Gathers

section Rules
variable {t : Tables} {id : ValidatorId} {found : Option Watermark}

theorem blocksSlot_iff (h : t.watermarkOf id = found.map Watermark.row) (slot : Nat) :
    (∃ w ∈ found, w.BlocksSlot slot) ↔ (slot : Int) < (t.floorOf id).slot := by
  rw [Tables.floorOf_of_found h]
  cases found with
  | none => simp [Watermark.floor, Watermark.row]
  | some w => simp [Watermark.BlocksSlot, Watermark.row]

theorem blocksAttestation_iff (h : t.watermarkOf id = found.map Watermark.row) (source target : Nat) :
    (∃ w ∈ found, w.BlocksAttestation source target) ↔
      (target : Int) < (t.floorOf id).target ∨ (source : Int) < (t.floorOf id).source := by
  rw [Tables.floorOf_of_found h]
  cases found with
  | none => simp [Watermark.floor, Watermark.row]
  | some w => simp [Watermark.BlocksAttestation, Watermark.row]

/-- Whatever the rows, the rules find in what was decoded of them what a full scan finds in all of them. -/
theorem checkAttestation_of_rows {c : Attestation} {evidence : Evidence}
    (hw : t.watermarkOf c.validator = found.map Watermark.row)
    (h : evidence.Gathers (t.attestationsOf c.validator) c) :
    checkAttestation c found evidence = Scan.attestation t c := by
  simp only [checkAttestation, Scan.attestation, blocksAttestation_iff hw, h.doubleVote_iff, h.surrounded_iff,
    h.surrounding_iff, h.sameTarget_isEmpty, ite_not]

/-- The rules find in the gathered evidence what a full scan finds in all rows. -/
theorem checkAttestation_eq_scan (hw : t.WellFormed) {c : Attestation} {evidence : Evidence}
    (h : evidence.Gathers (t.attestationsOf c.validator) c) :
    checkAttestation c ((t.watermarkOf c.validator).map WatermarkRow.value) evidence = Scan.attestation t c :=
  checkAttestation_of_rows (hw.watermarkOf_row c.validator) h

end Rules
end ValidatorSigner.Protection
