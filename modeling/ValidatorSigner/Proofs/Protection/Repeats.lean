import Mathlib.Algebra.GroupWithZero.Nat
import ValidatorSigner.Proofs.Protection.Completion
import ValidatorSigner.Proofs.Protection.FullScan
import ValidatorSigner.Proofs.Protection.OneChain
import ValidatorSigner.Proofs.Protection.OneLookup

/-! # Requests that are made again

Whatever is on record was permitted once, and the same request is permitted again, without a write, as long as
the record does not lie below the watermark. What was recorded in the meantime never stands against it, since no
two records of a validator speak against each other, and no watermark refuses the source of a record whose
target it lets pass.
-/
namespace ValidatorSigner.Protection
open Store Telemetry

/-- What becomes of a request that is answered like this wherever it can begin. -/
def Engine.onceBegun (e : Engine) (operation : String) (answer : Except ProtectionError Decision × Engine) :
    Except ProtectionError Decision × Engine :=
  match e.obstacle? e.service.decisions with
  | some fault => e.failed operation (.access fault)
  | none => answer

theorem onceBegun_of_free {e : Engine} (hf : e.obstacle? e.service.decisions = none) (operation : String)
    (answer : Except ProtectionError Decision × Engine) : e.onceBegun operation answer = answer := by
  rw [Engine.onceBegun, hf]

def BoundTo (t : Tables) (genesis : Option Root) : Prop := ∀ root ∈ genesis, t.genesis = some root.toList

section Scans
variable {t : Tables} {h : History}

theorem scan_block_recorded (g : Guards t h) {c : BlockProposal} (hc : c.row ∈ t.blocks) :
    Scan.block t c =
      if (c.slot : Int) < (t.floorOf c.validator).slot then .refuse .belowWatermark else .alreadySigned := by
  unfold Scan.block
  by_cases hbelow : (c.slot : Int) < (t.floorOf c.validator).slot
  · rw [if_pos hbelow, if_pos hbelow]
  rw [if_neg hbelow, if_neg hbelow]
  have hdouble : ¬ ∃ r ∈ t.blocksOf c.validator, r.slot = c.slot ∧ r.root ≠ c.root.toList := by
    rintro ⟨r, hr, hs, hne⟩
    obtain ⟨hr, hid⟩ := Tables.mem_blocksOf.mp hr
    obtain rfl : r = c.row := g.wellFormed.oneBlock r hr c.row hc hid hs
    exact hne rfl
  rw [if_neg hdouble, if_pos ⟨c.row, Tables.mem_blocksOf.mpr ⟨hc, rfl⟩, rfl⟩]

theorem scan_attestation_recorded (g : Guards t h) {c : Attestation} (hc : c.row ∈ t.attestations) :
    Scan.attestation t c =
      if (c.target : Int) < (t.floorOf c.validator).target then .refuse .belowWatermark else .alreadySigned := by
  have hm := g.attestations.subset hc
  have hordered : ¬ c.target < c.source := by
    have hle : (c.source : Int) ≤ (c.target : Int) := g.lawful.ordered c.row hm
    omega
  unfold Scan.attestation
  rw [if_neg hordered]
  by_cases hbelow : (c.target : Int) < (t.floorOf c.validator).target
  · rw [if_pos (.inl hbelow), if_pos hbelow]
  have hsource : (t.floorOf c.validator).source ≤ (c.source : Int) := g.floor_source_le hc (Int.not_lt.mp hbelow)
  have hfloor : ¬ ((c.target : Int) < (t.floorOf c.validator).target ∨
      (c.source : Int) < (t.floorOf c.validator).source) := by omega
  -- Any other record of the validator is apart from this one.
  have hapart : ∀ r ∈ t.attestationsOf c.validator, r = c.row ∨ r.Apart c.row ∧ r.validator = c.validator := by
    intro r hr
    obtain ⟨hr, hid⟩ := Tables.mem_attestationsOf.mp hr
    exact (g.lawful.eq_or_apart (g.attestations.subset hr) hm).imp_right fun ha => ⟨ha, hid⟩
  have hself : ¬ c.row.Surrounds c.row := fun hs => Int.lt_irrefl _ hs.1
  have hdouble : ¬ ∃ r ∈ t.attestationsOf c.validator, r.target = c.target ∧ r.root ≠ c.root.toList := by
    rintro ⟨r, hr, ht, hne⟩
    rcases hapart r hr with rfl | ⟨ha, hid⟩
    · exact hne rfl
    · exact (ha hid).1 ht
  have hsurrounded : ¬ ∃ r ∈ t.attestationsOf c.validator, r.Surrounds c.row := by
    rintro ⟨r, hr, hs⟩
    rcases hapart r hr with rfl | ⟨ha, hid⟩
    · exact hself hs
    · exact (ha hid).2.1 hs
  have hsurrounding : ¬ ∃ r ∈ t.attestationsOf c.validator, c.row.Surrounds r := by
    rintro ⟨r, hr, hs⟩
    rcases hapart r hr with rfl | ⟨ha, hid⟩
    · exact hself hs
    · exact (ha hid).2.2 hs
  rw [if_neg hfloor, if_neg hdouble, if_neg hsurrounded, if_neg hsurrounding, if_neg hbelow,
    if_pos ⟨c.row, Tables.mem_attestationsOf.mpr ⟨hc, rfl⟩, rfl⟩]

end Scans

section Requests
variable {e : Engine} {h : History} {genesis : Option Root}

theorem checkGenesis_bound {db : Database} (hm : db.missing = []) (hw : db.tables.WellFormed) {root : Root}
    (hg : db.tables.genesis = some root.toList) : Decide.checkGenesis root db = .ok (true, db) := by
  rw [checkGenesis_apply hm hw]
  simp only [hg, decide_true]

/-- On the chain of the database a decision is the one outside any chain. -/
theorem block_onOwnChain {db : Database} (hm : db.missing = []) (hw : db.tables.WellFormed)
    (hg : BoundTo db.tables genesis) (c : BlockProposal) : Decide.block genesis c db = Decide.block none c db := by
  cases genesis with
  | none => rfl
  | some root =>
    rw [block_onChain, Transaction.bind_of_ok (checkGenesis_bound hm hw (hg root rfl))]
    rfl

theorem attestation_onOwnChain {db : Database} (hm : db.missing = []) (hw : db.tables.WellFormed)
    (hg : BoundTo db.tables genesis) (c : Attestation) :
    Decide.attestation genesis c db = Decide.attestation none c db := by
  cases genesis with
  | none => rfl
  | some root =>
    rw [attestation_onChain, Transaction.bind_of_ok (checkGenesis_bound hm hw (hg root rfl))]
    rfl

/-- A decision that only the watermark can turn down. -/
theorem decided_onceBegun (artifact : Artifact) {operation : String} {body : Transaction Decision} {below : Prop}
    [Decidable below] {registered : Bool} {recorded : Tables}
    (hb : body e.database =
      conclude e.database (if below then .refuse .belowWatermark else .alreadySigned) registered recorded) :
    (transact operation body >>= Request.counted artifact) e =
      e.onceBegun operation (if below then e.refuses artifact .belowWatermark else e.grants artifact) := by
  rw [decided_apply, hb, Engine.onceBegun]
  cases e.obstacle? e.service.decisions with
  | some fault => rfl
  | none =>
    by_cases hbelow : below
    · simp only [if_pos hbelow]
      rfl
    · simp only [if_neg hbelow]
      rfl

theorem maySignBlock_recorded (hm : e.database.missing = []) (g : Guards e.tables h) {c : BlockProposal}
    (hc : c.row ∈ e.tables.blocks) (hg : BoundTo e.tables genesis) :
    Request.maySignBlock genesis c e = e.onceBegun "may_sign_block"
      (if (c.slot : Int) < (e.tables.floorOf c.validator).slot then e.refuses .block .belowWatermark
        else e.grants .block) := by
  obtain ⟨c', hfits, he⟩ := g.blocksLegible c.row (g.blocks.subset hc)
  have hslot : c'.slot = c.slot := Int.ofNat_inj.mp (congrArg BlockRow.slot he)
  rw [hslot] at hfits
  have hscan : Scan.block e.database.tables c = _ := scan_block_recorded g hc
  have hbody := block_apply hm g.wellFormed c
  rw [if_neg (Nat.not_le.mpr hfits), hscan, ← block_onOwnChain hm g.wellFormed hg] at hbody
  exact decided_onceBegun .block hbody

theorem maySignAttestation_recorded (hm : e.database.missing = []) (g : Guards e.tables h) {c : Attestation}
    (hc : c.row ∈ e.tables.attestations) (hg : BoundTo e.tables genesis) :
    Request.maySignAttestation genesis c e = e.onceBegun "may_sign_attestation"
      (if (c.target : Int) < (e.tables.floorOf c.validator).target then e.refuses .attestation .belowWatermark
        else e.grants .attestation) := by
  have hm' := g.attestations.subset hc
  obtain ⟨c', -, hfits, he⟩ := g.attestationsLegible c.row hm'
  obtain rfl := Attestation.row_injective he
  have hle : c'.source ≤ c'.target := Int.ofNat_le.mp (g.lawful.ordered c'.row hm')
  rw [Request.maySignAttestation, if_neg (Nat.not_lt.mpr hle)]
  have hscan : Scan.attestation e.database.tables c' = _ := scan_attestation_recorded g hc
  have hbody := attestation_apply hm g.wellFormed hle
  rw [if_neg (Nat.not_le.mpr hfits), hscan, ← attestation_onOwnChain hm g.wellFormed hg] at hbody
  exact decided_onceBegun .attestation hbody

structure Repeatable (e : Engine) (id : ValidatorId) : Prop where
  blocks : ∀ genesis c, c.validator = id → c.row ∈ e.tables.blocks → BoundTo e.tables genesis →
    Request.maySignBlock genesis c e = e.onceBegun "may_sign_block" (e.grants .block)
  attestations : ∀ genesis c, c.validator = id → c.row ∈ e.tables.attestations → BoundTo e.tables genesis →
    Request.maySignAttestation genesis c e = e.onceBegun "may_sign_attestation" (e.grants .attestation)

theorem repeatable_of_clear (hm : e.database.missing = []) (g : Guards e.tables h) {id : ValidatorId}
    (hc : Clear e.tables id) : Repeatable e id := by
  constructor
  · rintro genesis c rfl hr hg
    have habove : (e.tables.floorOf c.validator).slot ≤ (c.slot : Int) :=
      hc.blocks c.row (Tables.mem_blocksOf.mpr ⟨hr, rfl⟩)
    rw [maySignBlock_recorded hm g hr hg, if_neg (Int.not_lt.mpr habove)]
  · rintro genesis c rfl hr hg
    have habove : (e.tables.floorOf c.validator).target ≤ (c.target : Int) :=
      (hc.attestations c.row (Tables.mem_attestationsOf.mpr ⟨hr, rfl⟩)).2
    rw [maySignAttestation_recorded hm g hr hg, if_neg (Int.not_lt.mpr habove)]

end Requests

/-- What comes of a request that adds nothing to what is on record, unless it permits. -/
def AddsIfAllowed (e : Engine) (result : Except ProtectionError Decision × Engine) : Prop :=
  result.1 = .ok .allow ∨
    result.2.tables.blocks = e.tables.blocks ∧ result.2.tables.attestations = e.tables.attestations

section Origins
variable {e : Engine} {h : History}

theorem addsIfAllowed_binding {result : Except ProtectionError Decision × Engine} (hr : AddsIfAllowed e result)
    (root : Root) : AddsIfAllowed e (binding root result) := by
  obtain ⟨answer, e'⟩ := result
  cases answer with
  | ok d => exact hr
  | error cause => exact hr

theorem addsIfAllowed_mismatches (artifact : Artifact) (operation : String) :
    AddsIfAllowed e (e.mismatches artifact operation) := by
  unfold Engine.mismatches
  cases e.obstacle? e.service.decisions with
  | some fault => exact .inr ⟨rfl, rfl⟩
  | none => exact .inr ⟨rfl, rfl⟩

theorem addsIfAllowed_block (hs : e.Sound h) (hr : e.database.readOnly = false) (genesis : Option Root)
    (c : BlockProposal) : AddsIfAllowed e (Request.maySignBlock genesis c e) := by
  have hplain : AddsIfAllowed e (Request.maySignBlock none c e) := by
    rw [maySignBlock_apply hs.installed hs.guards.wellFormed]
    split
    · exact .inr ⟨rfl, rfl⟩
    · split
      · exact .inr ⟨rfl, rfl⟩
      · split
        · exact .inr ⟨rfl, rfl⟩
        · exact .inl rfl
        · split
          · exact .inr ⟨rfl, rfl⟩
          · split
            · exact .inl rfl
            · exact .inr ⟨rfl, rfl⟩
  cases genesis with
  | none => exact hplain
  | some root =>
    rw [maySignBlock_onChain hs hr]
    split
    · exact addsIfAllowed_mismatches _ _
    · exact addsIfAllowed_binding hplain root

theorem addsIfAllowed_attestation (hs : e.Sound h) (hr : e.database.readOnly = false) (genesis : Option Root)
    (c : Attestation) : AddsIfAllowed e (Request.maySignAttestation genesis c e) := by
  have hplain : AddsIfAllowed e (Request.maySignAttestation none c e) := by
    rw [maySignAttestation_apply hs.installed hs.guards.wellFormed hr]
    split
    · exact .inr ⟨rfl, rfl⟩
    · split
      · exact .inr ⟨rfl, rfl⟩
      · split
        · exact .inr ⟨rfl, rfl⟩
        · split
          · exact .inr ⟨rfl, rfl⟩
          · exact .inl rfl
          · split
            · exact .inl rfl
            · exact .inr ⟨rfl, rfl⟩
  cases genesis with
  | none => exact hplain
  | some root =>
    by_cases hlt : c.target < c.source
    · rw [maySignAttestation_inverted (some root) hlt]
      exact .inr ⟨rfl, rfl⟩
    · rw [maySignAttestation_onChain hs hr root (Nat.not_lt.mp hlt)]
      split
      · exact addsIfAllowed_mismatches _ _
      · exact addsIfAllowed_binding hplain root

/-- A block that is new on record was permitted. -/
theorem block_origin (hs : e.Sound h) (hr : e.database.readOnly = false) (rounds : ValidatorId → Rounds)
    (op : Operation) {r : BlockRow} (hm : r ∈ (op.performWithin rounds e).2.tables.blocks) :
    r ∈ e.tables.blocks ∨ ∃ genesis c, op = .maySignBlock genesis c ∧ r = c.row ∧
      (op.performWithin rounds e).1 = .ok (.decided .allow) := by
  rcases (performWithin_leads rounds op hs).change.mem_blocks hm with hm | ⟨c, ho, rfl⟩
  · exact .inl hm
  cases op with
  | maySignBlock genesis c' =>
    cases ho
    simp only [Operation.performWithin, Operation.perform, Request.answered_apply] at hm ⊢
    rcases addsIfAllowed_block hs hr genesis c with ha | ⟨hsame, -⟩
    · exact .inr ⟨genesis, c, rfl, rfl, congrArg (Except.map Answer.decided) ha⟩
    · exact .inl (hsame ▸ hm)
  | _ => cases ho

theorem attestation_origin (hs : e.Sound h) (hr : e.database.readOnly = false) (rounds : ValidatorId → Rounds)
    (op : Operation) {r : AttestationRow} (hm : r ∈ (op.performWithin rounds e).2.tables.attestations) :
    r ∈ e.tables.attestations ∨ ∃ genesis c, op = .maySignAttestation genesis c ∧ r = c.row ∧
      (op.performWithin rounds e).1 = .ok (.decided .allow) := by
  rcases (performWithin_leads rounds op hs).change.mem_attestations hm with hm | ⟨c, ho, rfl⟩
  · exact .inl hm
  cases op with
  | maySignAttestation genesis c' =>
    cases ho
    simp only [Operation.performWithin, Operation.perform, Request.answered_apply] at hm ⊢
    rcases addsIfAllowed_attestation hs hr genesis c with ha | ⟨-, hsame⟩
    · exact .inr ⟨genesis, c, rfl, rfl, congrArg (Except.map Answer.decided) ha⟩
    · exact .inl (hsame ▸ hm)
  | _ => cases ho

end Origins

namespace Run

structure Traced (run : Run) : Prop where
  blocks : ∀ r ∈ run.engine.tables.blocks, ∃ genesis c, r = c.row ∧
    (.maySignBlock genesis c, .ok (.decided .allow)) ∈ run.journal
  attestations : ∀ r ∈ run.engine.tables.attestations, ∃ genesis c, r = c.row ∧
    (.maySignAttestation genesis c, .ok (.decided .allow)) ∈ run.journal

variable {run : Run}

theorem Traced.next (ht : run.Traced) (hc : run.OnOneChain) (rounds : ValidatorId → Rounds) (event : Event) :
    (run.next (·.performWithin rounds) event).Traced := by
  cases event with
  | restart service => exact ⟨ht.blocks, ht.attestations⟩
  | disturb locked decisions cleaning => exact ⟨ht.blocks, ht.attestations⟩
  | request op =>
    constructor
    · intro r hr
      rcases block_origin hc.sound.engine hc.writable rounds op hr with hm | ⟨genesis, c, rfl, he, ha⟩
      · obtain ⟨genesis, c, he, hj⟩ := ht.blocks r hm
        exact ⟨genesis, c, he, List.mem_append_left _ hj⟩
      · exact ⟨genesis, c, he, List.mem_append_right _ (List.mem_singleton.mpr (congrArg (Prod.mk _) ha.symm))⟩
    · intro r hr
      rcases attestation_origin hc.sound.engine hc.writable rounds op hr with hm | ⟨genesis, c, rfl, he, ha⟩
      · obtain ⟨genesis, c, he, hj⟩ := ht.attestations r hm
        exact ⟨genesis, c, he, List.mem_append_left _ hj⟩
      · exact ⟨genesis, c, he, List.mem_append_right _ (List.mem_singleton.mpr (congrArg (Prod.mk _) ha.symm))⟩

theorem Traced.afterWithin (ht : run.Traced) (hc : run.OnOneChain) (script : List (Event × (ValidatorId → Rounds))) :
    (run.afterWithin script).Traced := by
  induction script generalizing run with
  | nil => exact ht
  | cons step rest ih => exact ih (ht.next hc step.2 step.1) (hc.next step.2 step.1)

/-- In every store that a run can reach, opened for writing or only for reading, each record comes from a request
that was permitted, outside any chain or on that of the database. Such a request is permitted again, and nothing
is written, unless the record lies below the watermark; an attestation does so if its target does. After pruning no
record is left that lies below. -/
theorem repeats_allowed (writeAhead locked : Bool) (metrics : Metrics) (service : Service)
    (script : List (Event × (ValidatorId → Rounds))) (readOnly : Bool) :
    let run := ({ engine := .fresh writeAhead locked metrics service } : Run).afterWithin script
    let e := run.engine.withReadOnly readOnly
    (∀ r ∈ e.tables.blocks, ∃ genesis c, r = c.row ∧ BoundTo e.tables genesis ∧
      (.maySignBlock genesis c, .ok (.decided .allow)) ∈ run.journal) ∧
    (∀ r ∈ e.tables.attestations, ∃ genesis c, r = c.row ∧ BoundTo e.tables genesis ∧
      (.maySignAttestation genesis c, .ok (.decided .allow)) ∈ run.journal) ∧
    (∀ genesis c, c.row ∈ e.tables.blocks → BoundTo e.tables genesis →
      Request.maySignBlock genesis c e = e.onceBegun "may_sign_block"
        (if (c.slot : Int) < (e.tables.floorOf c.validator).slot then e.refuses .block .belowWatermark
          else e.grants .block)) ∧
    (∀ genesis c, c.row ∈ e.tables.attestations → BoundTo e.tables genesis →
      Request.maySignAttestation genesis c e = e.onceBegun "may_sign_attestation"
        (if (c.target : Int) < (e.tables.floorOf c.validator).target then e.refuses .attestation .belowWatermark
          else e.grants .attestation)) ∧
    (∀ r ∈ e.tables.attestations, (e.tables.floorOf r.validator).target ≤ r.target →
      (e.tables.floorOf r.validator).source ≤ r.source) ∧
    (∀ id window report e', Request.prune id window e = (.ok report, e') → Repeatable e' id) ∧
    ∀ window report e', Request.pruneAll window e = (.ok report, e') →
      ∀ id, e.tables.isRegistered id = true → Repeatable e' id := by
  intro run e
  have hc : run.OnOneChain := (onOneChain_fresh writeAhead locked metrics service).afterWithin script
  have ht : run.Traced := by
    refine Traced.afterWithin ⟨fun r hr => ?_, fun r hr => ?_⟩ (onOneChain_fresh writeAhead locked metrics service) script
    · cases hr
    · cases hr
  have hs : e.Sound run.history := ⟨hc.sound.engine.installed, hc.sound.engine.guards, hc.sound.engine.coherent⟩
  have hn : Tables.Numbered e.tables := numbered writeAhead locked metrics service script
  refine ⟨fun r hr => ?_, fun r hr => ?_, fun genesis c hr hg => maySignBlock_recorded hs.installed hs.guards hr hg,
    fun genesis c hr hg => maySignAttestation_recorded hs.installed hs.guards hr hg,
    fun r hr => hs.guards.floor_source_le hr, fun id window report e' hp => ?_, fun window report e' hp id hid => ?_⟩
  · obtain ⟨genesis, c, he, hj⟩ := ht.blocks r hr
    exact ⟨genesis, c, he, hc.allowed _ hj, hj⟩
  · obtain ⟨genesis, c, he, hj⟩ := ht.attestations r hr
    exact ⟨genesis, c, he, hc.allowed _ hj, hj⟩
  · have hs' := hs.leads (performWithin_leads (fun _ => .all) (.prune id window) hs)
    simp only [Operation.performWithin, Request.answered_apply, ← Request.prune_eq, hp] at hs'
    exact repeatable_of_clear hs'.installed hs'.guards (clear_of_prune_ok hs hp)
  · have hs' := hs.leads (performWithin_leads (fun _ => .all) (.pruneAll window) hs)
    simp only [Operation.performWithin, Request.answered_apply, ← Request.pruneAll_eq, hp] at hs'
    exact repeatable_of_clear hs'.installed hs'.guards (clear_of_pruneAll_ok hs hn hp hid)

/-- After a prune run that was cut short, the first of three attestations is still there and refused. The second
one is permitted even where nothing can be written, and the third one is after a further prune run. -/
theorem repeats_allowed_interrupted :
    let e := (sampleStart.afterWithin sampleScript).engine
    let root : Root := ⟨List.replicate 32 7, rfl⟩
    let reader := e.withReadOnly true
    let later := (Request.prune 1 ⟨1, 32⟩ e).2
    Request.maySignAttestation none ⟨1, 0, 1, root⟩ reader = reader.refuses .attestation .belowWatermark ∧
      Request.maySignAttestation none ⟨1, 1, 2, root⟩ reader = reader.grants .attestation ∧
      later.tables.attestations.length = 2 ∧
      Request.maySignAttestation none ⟨1, 2, 3, root⟩ later = later.grants .attestation := by
  intro e root reader later
  obtain ⟨-, -, -, hagain, -⟩ := repeats_allowed false false {} {} sampleScript true
  obtain ⟨-, -, -, -, -, hprune, -⟩ := repeats_allowed false false {} {} sampleScript false
  have hfirst := hagain none ⟨1, 0, 1, root⟩ (by decide) (fun _ hr => by cases hr)
  have hsecond := hagain none ⟨1, 1, 2, root⟩ (by decide) (fun _ hr => by cases hr)
  have hpruned : (Request.prune 1 ⟨1, 32⟩ e).1 = .ok ⟨0, 1, some ⟨1, 0, 1, 2⟩⟩ := by rfl
  have hthird := (hprune 1 ⟨1, 32⟩ _ later (Prod.ext hpruned rfl)).attestations none ⟨1, 2, 3, root⟩ rfl (by decide)
    (fun _ hr => by cases hr)
  have hfree : reader.obstacle? reader.service.decisions = none := by decide
  have hfree' : later.obstacle? later.service.decisions = none := by decide
  refine ⟨hfirst.trans ((onceBegun_of_free hfree _ _).trans ?_), hsecond.trans ((onceBegun_of_free hfree _ _).trans ?_),
    by decide, hthird.trans (onceBegun_of_free hfree' _ _)⟩
  · exact if_pos (by decide)
  · exact if_neg (by decide)

end Run
end ValidatorSigner.Protection
