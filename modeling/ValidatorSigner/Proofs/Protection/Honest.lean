import Mathlib.Algebra.Group.Nat.Defs
import ValidatorSigner.Proofs.Protection.Ahead
import ValidatorSigner.Proofs.Protection.OnChain

/-! # Honest validators

An honest validator asks for slots that rise, and for attestations whose targets rise and whose sources never
fall. All that is on record of it is what it asked for before, and so is what its watermark stands on: each of
its requests is ahead of all of that, and is permitted.
-/
namespace ValidatorSigner.Protection
open Store Telemetry

section Scans
variable {t : Tables} {h : History}

theorem scan_block_ahead (g : Guards t h) {c : BlockProposal} (hr : ∀ r ∈ t.blocksOf c.validator, r.slot < c.slot) :
    Scan.block t c = .record := by
  have hfloor : ¬ (c.slot : Int) < (t.floorOf c.validator).slot := by
    rcases g.slot_present c.validator with h0 | ⟨low, hlow, hs⟩
    · omega
    · have := hr low hlow
      omega
  have hdouble : ¬ ∃ r ∈ t.blocksOf c.validator, r.slot = c.slot ∧ r.root ≠ c.root.toList := by
    rintro ⟨r, hm, hs, -⟩
    exact Int.ne_of_lt (hr r hm) hs
  have hagain : ¬ ∃ r ∈ t.blocksOf c.validator, r.slot = (c.slot : Int) := by
    rintro ⟨r, hm, hs⟩
    exact Int.ne_of_lt (hr r hm) hs
  rw [Scan.block, if_neg hfloor, if_neg hdouble, if_neg hagain]

theorem scan_attestation_ahead (g : Guards t h) {c : Attestation} (hle : c.source ≤ c.target)
    (hr : ∀ r ∈ t.attestationsOf c.validator, r.target < c.target ∧ r.source ≤ c.source) :
    Scan.attestation t c = .record := by
  have hfloor : ¬ ((c.target : Int) < (t.floorOf c.validator).target ∨
      (c.source : Int) < (t.floorOf c.validator).source) := by
    rcases g.pair_present c.validator with ⟨h0, h1⟩ | ⟨low, hlow, hs, ht⟩
    · omega
    · have := hr low hlow
      omega
  have hdouble : ¬ ∃ r ∈ t.attestationsOf c.validator, r.target = c.target ∧ r.root ≠ c.root.toList := by
    rintro ⟨r, hm, ht, -⟩
    exact Int.ne_of_lt (hr r hm).1 ht
  have hsurrounded : ¬ ∃ r ∈ t.attestationsOf c.validator, r.Surrounds c.row := by
    rintro ⟨r, hm, -, ht⟩
    exact Int.lt_asymm (hr r hm).1 ht
  have hsurrounding : ¬ ∃ r ∈ t.attestationsOf c.validator, c.row.Surrounds r := by
    rintro ⟨r, hm, hs, -⟩
    exact Int.not_lt.mpr (hr r hm).2 hs
  have hagain : ¬ ∃ r ∈ t.attestationsOf c.validator, r.target = (c.target : Int) := by
    rintro ⟨r, hm, ht⟩
    exact Int.ne_of_lt (hr r hm).1 ht
  rw [Scan.attestation, if_neg (Nat.not_lt.mpr hle), if_neg hfloor, if_neg hdouble, if_neg hsurrounded,
    if_neg hsurrounding, if_neg hagain]

end Scans

def Engine.permits (e : Engine) (operation : String) : Except ProtectionError Decision :=
  match e.obstacle? e.service.decisions with
  | some fault => (e.failed operation (.access fault)).1
  | none => .ok .allow

section Requests
variable {e : Engine} {h : History} {genesis : Option Root}

theorem binding_answer (root : Root) (result : Except ProtectionError Decision × Engine) :
    (binding root result).1 = result.1 := by
  obtain ⟨answer, e⟩ := result
  cases answer with
  | ok d => rfl
  | error cause => rfl

theorem conclude_record {db : Database} (hr : db.readOnly = false) (recorded : Tables) :
    conclude db .record true recorded = .ok (.allow, { db with tables := recorded }) := by
  have hn : ¬ db.readOnly = true := by simp [hr]
  rw [conclude, if_neg hn, if_pos rfl]

theorem decided_permits (artifact : Artifact) {operation : String} {body : Transaction Decision} {db : Database}
    (hb : body e.database = .ok (.allow, db)) :
    ((transact operation body >>= Request.counted artifact) e).1 = e.permits operation := by
  rw [decided_apply, hb, Engine.permits]
  cases e.obstacle? e.service.decisions with
  | some fault => rfl
  | none => rfl

theorem maySignBlock_ahead (hs : e.Sound h) (hr : e.database.readOnly = false) {c : BlockProposal}
    (hreg : e.tables.isRegistered c.validator = true) (hchain : ∀ root ∈ genesis, ¬ e.tables.BelongsElsewhere root)
    (hfits : c.slot < storeBound) (hahead : ∀ r ∈ e.tables.blocksOf c.validator, r.slot < c.slot) :
    (Request.maySignBlock genesis c e).1 = e.permits "may_sign_block" := by
  have hbody := block_apply hs.installed hs.guards.wellFormed c
  have hscan : Scan.block e.database.tables c = .record := scan_block_ahead hs.guards hahead
  have hreg : e.database.tables.isRegistered c.validator = true := hreg
  rw [if_neg (Nat.not_le.mpr hfits), hscan, hreg, conclude_record hr] at hbody
  have hplain : (Request.maySignBlock none c e).1 = e.permits "may_sign_block" := decided_permits .block hbody
  cases genesis with
  | none => exact hplain
  | some root =>
    rw [maySignBlock_onChain hs hr, if_neg (hchain root rfl), binding_answer]
    exact hplain

theorem maySignAttestation_ahead (hs : e.Sound h) (hr : e.database.readOnly = false) {c : Attestation}
    (hreg : e.tables.isRegistered c.validator = true) (hchain : ∀ root ∈ genesis, ¬ e.tables.BelongsElsewhere root)
    (hle : c.source ≤ c.target) (hfits : c.target < storeBound)
    (hahead : ∀ r ∈ e.tables.attestationsOf c.validator, r.target < c.target ∧ r.source ≤ c.source) :
    (Request.maySignAttestation genesis c e).1 = e.permits "may_sign_attestation" := by
  have hbody := attestation_apply hs.installed hs.guards.wellFormed hle
  have hscan : Scan.attestation e.database.tables c = .record := scan_attestation_ahead hs.guards hle hahead
  have hreg : e.database.tables.isRegistered c.validator = true := hreg
  rw [if_neg (Nat.not_le.mpr hfits), hscan, hreg, conclude_record hr] at hbody
  have hplain : (Request.maySignAttestation none c e).1 = e.permits "may_sign_attestation" := by
    rw [Request.maySignAttestation, if_neg (Nat.not_lt.mpr hle)]
    exact decided_permits .attestation hbody
  cases genesis with
  | none => exact hplain
  | some root =>
    rw [maySignAttestation_onChain hs hr root hle, if_neg (hchain root rfl), binding_answer]
    exact hplain

end Requests

namespace Event

def block? (id : ValidatorId) : Event → Option BlockProposal
  | .request (.maySignBlock _ c) => if c.validator = id then some c else none
  | _ => none

def attestation? (id : ValidatorId) : Event → Option Attestation
  | .request (.maySignAttestation _ c) => if c.validator = id then some c else none
  | _ => none

end Event

namespace Run
variable {run : Run}

/-- What a validator asks for in the course of a script, from when it is registered. -/
def asked {α : Type} (pick : ValidatorId → Event → Option α) (id : ValidatorId) (run : Run) :
    List (Event × (ValidatorId → Rounds)) → List α
  | [] => []
  | step :: rest =>
    (if run.engine.tables.isRegistered id then (pick id step.1).toList else []) ++
      asked pick id (run.next (·.performWithin step.2) step.1) rest

section Asked
variable {α : Type} {pick : ValidatorId → Event → Option α} {id : ValidatorId}

theorem asked_append (before after : List (Event × (ValidatorId → Rounds))) :
    run.asked pick id (before ++ after) =
      run.asked pick id before ++ (run.afterWithin before).asked pick id after := by
  induction before generalizing run with
  | nil => rfl
  | cons step rest ih =>
    rw [List.cons_append, asked, asked, ih, List.append_assoc]
    rfl

/-- What a validator asked for before stands to what it asks for now as the whole script has it. -/
theorem asked_before {before after : List (Event × (ValidatorId → Rounds))} {step : Event × (ValidatorId → Rounds)}
    {c : α} {R : α → α → Prop} (hp : (run.asked pick id (before ++ step :: after)).Pairwise R)
    (hreg : (run.afterWithin before).engine.tables.isRegistered id = true) (hc : pick id step.1 = some c) :
    ∀ a ∈ run.asked pick id before, R a c := by
  intro a ha
  rw [asked_append, List.pairwise_append] at hp
  refine hp.2.2 a ha c ?_
  rw [asked, if_pos hreg, hc]
  exact List.mem_cons_self

theorem mem_asked {before after : List (Event × (ValidatorId → Rounds))} {step : Event × (ValidatorId → Rounds)}
    {c : α} (hreg : (run.afterWithin before).engine.tables.isRegistered id = true) (hc : pick id step.1 = some c) :
    c ∈ run.asked pick id (before ++ step :: after) := by
  rw [asked_append, asked, if_pos hreg, hc]
  exact List.mem_append_right _ List.mem_cons_self

end Asked

/-- A block that is on record after a step was so before, or a registered validator asks for it in that step. -/
theorem Sound.blocks_next (hs : run.Sound) (rounds : ValidatorId → Rounds) (event : Event) {r : BlockRow}
    (hr : r ∈ (run.next (·.performWithin rounds) event).engine.tables.blocks) :
    r ∈ run.engine.tables.blocks ∨ run.engine.tables.isRegistered r.validator = true ∧
      ∃ c, event.block? r.validator = some c ∧ c.row = r := by
  cases event with
  | restart service => exact .inl hr
  | disturb locked decisions cleaning => exact .inl hr
  | request op =>
    have hl := performWithin_leads rounds op hs.engine
    refine (hl.change.mem_blocks hr).imp_right fun ⟨c, ho, he⟩ => ?_
    obtain ⟨genesis, rfl⟩ : ∃ genesis, op = .maySignBlock genesis c := by
      cases op with
      | maySignBlock genesis c' =>
        cases ho
        exact ⟨genesis, rfl⟩
      | _ => cases ho
    have hkeeps : Request.Keeps (·.isRegistered r.validator) (Request.maySignBlock genesis c) :=
      Request.keeps_maySignBlock (fun _ _ _ => rfl) (fun _ _ => rfl) c
    have howner := (hs.engine.leads hl).guards.wellFormed.blockOwners r hr
    refine ⟨(hkeeps.answered .decided run.engine).symm.trans howner, c, ?_, he.symm⟩
    rw [he]
    exact if_pos rfl

theorem Sound.attestations_next (hs : run.Sound) (rounds : ValidatorId → Rounds) (event : Event) {r : AttestationRow}
    (hr : r ∈ (run.next (·.performWithin rounds) event).engine.tables.attestations) :
    r ∈ run.engine.tables.attestations ∨ run.engine.tables.isRegistered r.validator = true ∧
      ∃ c, event.attestation? r.validator = some c ∧ c.row = r := by
  cases event with
  | restart service => exact .inl hr
  | disturb locked decisions cleaning => exact .inl hr
  | request op =>
    have hl := performWithin_leads rounds op hs.engine
    refine (hl.change.mem_attestations hr).imp_right fun ⟨c, ho, he⟩ => ?_
    obtain ⟨genesis, rfl⟩ : ∃ genesis, op = .maySignAttestation genesis c := by
      cases op with
      | maySignAttestation genesis c' =>
        cases ho
        exact ⟨genesis, rfl⟩
      | _ => cases ho
    have hkeeps : Request.Keeps (·.isRegistered r.validator) (Request.maySignAttestation genesis c) :=
      Request.keeps_maySignAttestation (fun _ _ _ => rfl) (fun _ _ => rfl) c
    have howner := (hs.engine.leads hl).guards.wellFormed.attestationOwners r hr
    refine ⟨(hkeeps.answered .decided run.engine).symm.trans howner, c, ?_, he.symm⟩
    rw [he]
    exact if_pos rfl

/-- What every step of a script adds to what is on record, the script has in all. -/
theorem Sound.asked_of_next {α β : Type} {pick : ValidatorId → Event → Option α} {row : α → β}
    {rows : Tables → List β} {owner : β → ValidatorId}
    (hnext : ∀ {run : Run}, run.Sound → ∀ rounds event {r},
      r ∈ rows (run.next (·.performWithin rounds) event).engine.tables →
        r ∈ rows run.engine.tables ∨ run.engine.tables.isRegistered (owner r) = true ∧
          ∃ c, pick (owner r) event = some c ∧ row c = r)
    (hs : run.Sound) (script : List (Event × (ValidatorId → Rounds))) {r : β}
    (hr : r ∈ rows (run.afterWithin script).engine.tables) :
    r ∈ rows run.engine.tables ∨ ∃ c ∈ run.asked pick (owner r) script, row c = r := by
  -- By induction on the script: a row that the rest has not asked for was there after the first step.
  induction script generalizing run with
  | nil => exact .inl hr
  | cons step rest ih =>
    rcases ih (hs.next step.2 step.1) hr with hm | ⟨c, hc, he⟩
    · rcases hnext hs step.2 step.1 hm with hm | ⟨hreg, c, hc, he⟩
      · exact .inl hm
      · refine .inr ⟨c, ?_, he⟩
        rw [asked, if_pos hreg, hc]
        exact List.mem_append_left _ List.mem_cons_self
    · exact .inr ⟨c, List.mem_append_right _ hc, he⟩

/-- A validator that asks for blocks of rising slots, and for attestations of rising targets whose sources never
fall, is never refused, whatever is pruned and whatever others do in between. Its requests are outside any chain
or on the chain of the database. -/
theorem honest_never_refused (writeAhead locked : Bool) (metrics : Metrics) (service : Service)
    (script : List (Event × (ValidatorId → Rounds))) (id : ValidatorId) :
    let start : Run := { engine := .fresh writeAhead locked metrics service }
    ((start.asked Event.attestation? id script).Pairwise (fun a b => a.target < b.target ∧ a.source ≤ b.source) →
      (∀ c ∈ start.asked Event.attestation? id script, c.source ≤ c.target ∧ c.target ≤ 2 ^ 63 - 1) →
      ∀ before genesis c rounds after,
        script = before ++ (.request (.maySignAttestation genesis c), rounds) :: after → c.validator = id →
        let e := (start.afterWithin before).engine
        e.tables.isRegistered id = true → (∀ root ∈ genesis, ¬ e.tables.BelongsElsewhere root) →
          (Request.maySignAttestation genesis c e).1 = e.permits "may_sign_attestation") ∧
    ((start.asked Event.block? id script).Pairwise (fun a b => a.slot < b.slot) →
      (∀ c ∈ start.asked Event.block? id script, c.slot ≤ 2 ^ 63 - 1) →
      ∀ before genesis c rounds after,
        script = before ++ (.request (.maySignBlock genesis c), rounds) :: after → c.validator = id →
        let e := (start.afterWithin before).engine
        e.tables.isRegistered id = true → (∀ root ∈ genesis, ¬ e.tables.BelongsElsewhere root) →
          (Request.maySignBlock genesis c e).1 = e.permits "may_sign_block") := by
  intro start
  have hstart : start.Sound := sound_fresh writeAhead locked metrics service
  constructor
  · rintro hrising hfits before genesis c rounds after rfl rfl e hreg hchain
    obtain ⟨hs, hw⟩ := reached writeAhead locked metrics service before
    have hpick : Event.attestation? c.validator (.request (.maySignAttestation genesis c)) = some c := if_pos rfl
    obtain ⟨hle, hle'⟩ := hfits c (mem_asked hreg hpick)
    refine maySignAttestation_ahead hs.engine hw hreg hchain hle (by rw [storeBound_eq]; omega) fun r hr => ?_
    obtain ⟨hm, hid⟩ := Tables.mem_attestationsOf.mp hr
    rcases Sound.asked_of_next Sound.attestations_next hstart before hm with hn | ⟨c', hc', rfl⟩
    · cases hn
    · rw [hid] at hc'
      have hahead := asked_before hrising hreg hpick c' hc'
      exact ⟨Int.ofNat_lt.mpr hahead.1, Int.ofNat_le.mpr hahead.2⟩
  · rintro hrising hfits before genesis c rounds after rfl rfl e hreg hchain
    obtain ⟨hs, hw⟩ := reached writeAhead locked metrics service before
    have hpick : Event.block? c.validator (.request (.maySignBlock genesis c)) = some c := if_pos rfl
    have hle := hfits c (mem_asked hreg hpick)
    refine maySignBlock_ahead hs.engine hw hreg hchain (by rw [storeBound_eq]; omega) fun r hr => ?_
    obtain ⟨hm, hid⟩ := Tables.mem_blocksOf.mp hr
    rcases Sound.asked_of_next Sound.blocks_next hstart before hm with hn | ⟨c', hc', rfl⟩
    · cases hn
    · rw [hid] at hc'
      exact Int.ofNat_lt.mpr (asked_before hrising hreg hpick c' hc')

def busyRoot : Root := ⟨List.replicate 32 3, rfl⟩

def busyScript : List (Event × (ValidatorId → Rounds)) :=
  [.request (.registerValidators [⟨List.replicate 48 3, rfl⟩, ⟨List.replicate 48 4, rfl⟩]),
    .request (.maySignAttestation (some busyRoot) ⟨1, 0, 1, busyRoot⟩),
    .request (.maySignBlock (some busyRoot) ⟨1, 4, busyRoot⟩),
    .request (.maySignAttestation none ⟨1, 1, 2, busyRoot⟩),
    .request (.maySignAttestation none ⟨2, 0, 9, busyRoot⟩),
    .request (.prune 1 ⟨0, 32⟩), .restart {}].map fun event => (event, fun _ => .all)

def laterScript : List (Event × (ValidatorId → Rounds)) :=
  [.request (.maySignAttestation (some busyRoot) ⟨1, 1, 3, busyRoot⟩),
    .request (.maySignBlock none ⟨1, 5, busyRoot⟩)].map fun event => (event, fun _ => .all)

theorem honest_never_refused_busy :
      let start : Run := { engine := .fresh false false {} {} }
    let e := (start.afterWithin busyScript).engine
    let e' := (start.afterWithin (busyScript ++ laterScript.take 1)).engine
    (e.tables.floorOf 1).slot = 4 ∧ (e.tables.floorOf 1).source = 1 ∧ (e.tables.floorOf 1).target = 2 ∧
      (Request.maySignAttestation (some busyRoot) ⟨1, 1, 3, busyRoot⟩ e).1 = .ok .allow ∧
      (Request.maySignBlock none ⟨1, 5, busyRoot⟩ e').1 = .ok .allow := by
  intro start e e'
  obtain ⟨hvotes, hblocks⟩ := honest_never_refused false false {} {} (busyScript ++ laterScript) 1
  have hfloor : (e.tables.floorOf 1).slot = 4 ∧ (e.tables.floorOf 1).source = 1 ∧ (e.tables.floorOf 1).target = 2 := by
    decide
  have hvote := hvotes (by decide) (by decide) busyScript (some busyRoot) ⟨1, 1, 3, busyRoot⟩ _
    (laterScript.drop 1) rfl rfl (by decide) (by decide)
  have hblock := hblocks (by decide) (by decide) (busyScript ++ laterScript.take 1) none ⟨1, 5, busyRoot⟩ _ []
    rfl rfl (by decide) (by decide)
  exact ⟨hfloor.1, hfloor.2.1, hfloor.2.2, hvote, hblock⟩

end Run
end ValidatorSigner.Protection
