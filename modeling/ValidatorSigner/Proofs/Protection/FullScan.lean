import Mathlib.Algebra.Group.Nat.Defs
import ValidatorSigner.Proofs.Protection.Journal

/-! # The answer to an attestation

In every store that a run can reach, the answer to a request for an attestation is that of a scan through
all recorded attestations of the validator, in a fixed order of reasons.
-/
namespace ValidatorSigner.Protection
open Store Telemetry
variable {e : Engine}

def Engine.denies (e : Engine) (reason : Refusal) : Except ProtectionError Decision × Engine :=
  (.ok (.deny reason), { e with metrics := e.metrics.add (.prevented .attestation reason.label) 1 })

def Engine.allows (e : Engine) : Except ProtectionError Decision × Engine :=
  (.ok .allow, { e with metrics := e.metrics.add (.permitted .attestation) 1 })

def Engine.breaks (e : Engine) (cause : StorageError) : Except ProtectionError Decision × Engine :=
  (.error (.infrastructure "may_sign_attestation" 1 cause), e)

theorem failed_of_lasting {cause : StorageError} (h : cause.isRetryable = false) :
    e.failed "may_sign_attestation" cause = e.breaks cause := by
  simp [Engine.failed, Engine.breaks, h, Engine.countRetries]

/-- The answer of a full scan, for an engine that can write. -/
theorem maySignAttestation_apply (hm : e.database.missing = []) (hw : e.tables.WellFormed)
    (hr : e.database.readOnly = false) (c : Attestation) :
    Request.maySignAttestation none c e =
      if c.target < c.source then e.denies .invalidEpochOrder
      else match e.obstacle? e.service.decisions with
      | some fault => e.failed "may_sign_attestation" (.access fault)
      | none =>
        if storeBound ≤ c.target then e.breaks (.outOfRange .targetEpoch c.target)
        else match Scan.attestation e.tables c with
        | .refuse reason => e.denies reason
        | .alreadySigned => e.allows
        | .record =>
          if e.tables.isRegistered c.validator then (e.withTables (e.tables.addAttestation c.row)).allows
          else e.breaks (.constraint DatabaseFault.foreignKey.summary) := by
  unfold Request.maySignAttestation
  by_cases hlt : c.target < c.source
  · rw [if_pos hlt, if_pos hlt]
    rfl
  rw [if_neg hlt, if_neg hlt]
  have ha := attestation_apply hm hw (Nat.not_lt.mp hlt)
  cases hf : e.obstacle? e.service.decisions with
  | some fault => exact Request.bind_of_error (transactOn_of_obstacle hf)
  | none =>
    dsimp only
    by_cases hb : storeBound ≤ c.target
    · rw [if_pos hb] at ha ⊢
      rw [← failed_of_lasting rfl]
      exact Request.bind_of_error (transactOn_of_error hf ha)
    rw [if_neg hb] at ha ⊢
    cases hv : Scan.attestation e.tables c with
    | refuse reason =>
      rw [hv] at ha
      exact Request.bind_of_ok (transactOn_of_ok hf ha)
    | alreadySigned =>
      rw [hv] at ha
      exact Request.bind_of_ok (transactOn_of_ok hf ha)
    | record =>
      have hn : ¬ e.database.readOnly = true := by simp [hr]
      rw [hv, conclude, if_neg hn] at ha
      dsimp only
      by_cases hreg : e.tables.isRegistered c.validator = true
      · rw [if_pos hreg] at ha ⊢
        exact Request.bind_of_ok (transactOn_of_ok hf ha)
      · rw [if_neg hreg] at ha ⊢
        rw [← failed_of_lasting rfl]
        exact Request.bind_of_error (transactOn_of_error hf ha)

/-- Where the rules let an attestation through, its insertion meets neither a row with its target nor the
constraint on the order of its epochs. -/
theorem insertAttestation_unobstructed {db : Database} (hm : db.missing = []) (hw : db.tables.WellFormed)
    {c : Attestation} {watermark : Option Watermark} {evidence : Evidence}
    (hwatermark : Transaction.findWatermark c.validator db = .ok (watermark, db))
    (hevidence : Decide.gatherEvidence c db = .ok (evidence, db))
    (hrecord : checkAttestation c watermark evidence = .record) :
    (∀ db', Transaction.insertAttestation c db ≠ .ok (.conflict, db')) ∧
      Transaction.insertAttestation c db ≠ .error (.constraint DatabaseFault.epochOrder.summary) := by
  have hle : c.source ≤ c.target := by
    by_cases hlt : c.target < c.source
    · simp [checkAttestation, hlt] at hrecord
    · exact Nat.not_lt.mp hlt
  have ht : c.target < storeBound := by
    by_cases hb : storeBound ≤ c.target
    · unfold Decide.gatherEvidence Transaction.findAttestations at hevidence
      rw [toColumn_of_le hb,
        Transaction.bind_of_error (Transaction.bind_of_error (Transaction.lift_error _ _))] at hevidence
      cases hevidence
    · exact Nat.not_le.mp hb
  have hs := Nat.lt_of_le_of_lt hle ht
  rw [Transaction.findWatermark_apply hm hw] at hwatermark
  obtain ⟨evidence', hgathers, happly⟩ := gatherEvidence_apply hm hw hs ht
  rw [happly] at hevidence
  cases hwatermark
  cases hevidence
  rw [checkAttestation_eq_scan hw hgathers] at hrecord
  rw [insertAttestation_apply hs ht,
    insertUnless_apply (Transaction.not_mem_missing hm _) (·.addAttestation c.row)
      (attestationFault_of_record hrecord)]
  refine ⟨fun db' h => ?_, fun h => ?_⟩
  · split at h
    · cases h
    · split at h <;> cases h
  · have hne : DatabaseFault.foreignKey.summary ≠ DatabaseFault.epochOrder.summary := by decide
    split at h
    · cases h
    · split at h
      · cases h
      · exact hne (StorageError.constraint.inj (Except.error.inj h))

/-- In every store that a run can reach, the answer to a request for an attestation is that of a full scan. A
new attestation of a registered validator adds its row and nothing else; the constraints that stand behind
the rules are not met. -/
theorem maySignAttestation_eq_scan (writeAhead locked : Bool) (metrics : Metrics) (service : Service)
    (script : List (Event × (ValidatorId → Rounds))) (c : Attestation) :
    let e := (({ engine := .fresh writeAhead locked metrics service } : Run).afterWithin script).engine
    let rows := e.tables.attestationsOf c.validator
    (Request.maySignAttestation none c e =
      if c.target < c.source then e.denies .invalidEpochOrder
      else match e.obstacle? e.service.decisions with
      | some fault => e.failed "may_sign_attestation" (.access fault)
      | none =>
        if 2 ^ 63 - 1 < c.target then e.breaks (.outOfRange .targetEpoch c.target)
        else if ∃ w ∈ e.tables.watermarkOf c.validator,
            (c.target : Int) < w.target ∨ (c.source : Int) < w.source then e.denies .belowWatermark
        else if ∃ r ∈ rows, r.target = c.target ∧ r.root ≠ c.root.toList then e.denies .doubleVote
        else if ∃ r ∈ rows, r.source < c.source ∧ (c.target : Int) < r.target then e.denies .surroundedVote
        else if ∃ r ∈ rows, (c.source : Int) < r.source ∧ r.target < c.target then e.denies .surroundingVote
        else if ∃ r ∈ rows, r.target = c.target ∧ r.root = c.root.toList then e.allows
        else if e.tables.isRegistered c.validator then
          (e.withTables { e.tables with attestations := e.tables.attestations ++ [c.row] }).allows
        else e.breaks (.constraint "FOREIGN KEY constraint failed")) ∧
    ∀ watermark evidence, Transaction.findWatermark c.validator e.database = .ok (watermark, e.database) →
      Decide.gatherEvidence c e.database = .ok (evidence, e.database) →
      checkAttestation c watermark evidence = .record →
      (∀ db, Transaction.insertAttestation c e.database ≠ .ok (.conflict, db)) ∧
        Transaction.insertAttestation c e.database ≠ .error (.constraint DatabaseFault.epochOrder.summary) := by
  intro e rows
  obtain ⟨⟨hs, -⟩, hr⟩ := Run.reached writeAhead locked metrics service script
  have hm : e.database.missing = [] := hs.installed
  have hw : e.tables.WellFormed := hs.guards.wellFormed
  refine ⟨?_, fun watermark evidence h1 h2 h3 => insertAttestation_unobstructed hm hw h1 h2 h3⟩
  rw [maySignAttestation_apply hm hw hr]
  by_cases hlt : c.target < c.source
  · rw [if_pos hlt, if_pos hlt]
  rw [if_neg hlt, if_neg hlt]
  cases e.obstacle? e.service.decisions with
  | some fault => rfl
  | none =>
    have hbound : storeBound ≤ c.target ↔ 2 ^ 63 - 1 < c.target := by
      rw [storeBound_eq]
      omega
    have hfloor : (∃ w ∈ e.tables.watermarkOf c.validator,
        (c.target : Int) < w.target ∨ (c.source : Int) < w.source) ↔
        (c.target : Int) < (e.tables.floorOf c.validator).target ∨
          (c.source : Int) < (e.tables.floorOf c.validator).source := by
      unfold Tables.floorOf
      cases e.tables.watermarkOf c.validator with
      | none => simp
      | some w => simp
    simp only [hbound, hfloor]
    by_cases hb : 2 ^ 63 - 1 < c.target
    · rw [if_pos hb, if_pos hb]
    rw [if_neg hb, if_neg hb, Scan.attestation, if_neg hlt]
    by_cases hbelow : (c.target : Int) < (e.tables.floorOf c.validator).target ∨
        (c.source : Int) < (e.tables.floorOf c.validator).source
    · rw [if_pos hbelow, if_pos hbelow]
    rw [if_neg hbelow, if_neg hbelow]
    by_cases hdouble : ∃ r ∈ rows, r.target = c.target ∧ r.root ≠ c.root.toList
    · rw [if_pos hdouble, if_pos hdouble]
    rw [if_neg hdouble, if_neg hdouble]
    by_cases hsurrounded : ∃ r ∈ rows, r.source < c.source ∧ (c.target : Int) < r.target
    · have hrow : ∃ r ∈ rows, r.Surrounds c.row := hsurrounded
      rw [if_pos hrow, if_pos hsurrounded]
    have hrow : ¬ ∃ r ∈ rows, r.Surrounds c.row := hsurrounded
    rw [if_neg hrow, if_neg hsurrounded]
    by_cases hsurrounding : ∃ r ∈ rows, (c.source : Int) < r.source ∧ r.target < c.target
    · have hrow : ∃ r ∈ rows, c.row.Surrounds r := hsurrounding
      rw [if_pos hrow, if_pos hsurrounding]
    have hrow : ¬ ∃ r ∈ rows, c.row.Surrounds r := hsurrounding
    rw [if_neg hrow, if_neg hsurrounding]
    -- A row with the same target has the same root, or the vote would be double.
    have hsame : (∃ r ∈ rows, r.target = (c.target : Int)) ↔
        ∃ r ∈ rows, r.target = c.target ∧ r.root = c.root.toList := by
      constructor
      · rintro ⟨r, hr, ht⟩
        exact ⟨r, hr, ht, Decidable.byContradiction fun hne => hdouble ⟨r, hr, ht, hne⟩⟩
      · rintro ⟨r, hr, ht, -⟩
        exact ⟨r, hr, ht⟩
    by_cases hsigned : ∃ r ∈ rows, r.target = c.target ∧ r.root = c.root.toList
    · rw [if_pos (hsame.mpr hsigned), if_pos hsigned]
    · rw [if_neg (fun h => hsigned (hsame.mp h)), if_neg hsigned]
      rfl

end ValidatorSigner.Protection
