import Mathlib.Algebra.Group.Nat.Defs
import ValidatorSigner.Proofs.Protection.Twins

/-! # Deletion is not observable

A run whose prune runs only raise watermarks, or stop after any number of batches, gives the same answers as
the run that deletes everything below them, but for the numbers of deleted rows. A prune run changes later
answers only in one way: it turns them into refusals below the watermark.
-/
namespace ValidatorSigner.Protection
open Store Telemetry

/-- An answer without the numbers of deleted rows. -/
def Answer.uncounted : Answer → Answer
  | .pruned report => .pruned { report with deletedBlocks := 0, deletedAttestations := 0 }
  | answer => answer

def uncounted (entry : Operation × Except ProtectionError Answer) : Operation × Except ProtectionError Answer :=
  (entry.1, entry.2.map Answer.uncounted)

def Event.Storable : Event → Prop
  | .restart service => service.pruning.batchSize ≤ 2 ^ 63 - 1
  | _ => True

def Operation.prunes : Operation → Bool
  | .prune .. => true
  | .pruneAll .. => true
  | _ => false

/-- What the side that is ahead answers to a request, beside the answer of the other side. -/
def Alike (level : Prop) (op : Operation) : Answer → Answer → Prop
  | .decided d, .decided d' => Narrows level d d'
  | .pruned r, .pruned r' => op.prunes = true ∧ SameFloor level r r'
  | a, b => a = b

section Requests
variable {level : Prop} {p u : Engine}

theorem Twins.performWithin (tw : Twins level p u) (rounds rounds' : ValidatorId → Rounds) (op : Operation) :
    Agree level (Alike level op) (op.performWithin rounds p) (op.performWithin rounds' u) := by
  cases op with
  | resolveValidator key => exact (tw.resolveValidator key).answered fun _ _ h => congrArg _ h
  | registerValidators keys => exact (tw.registerValidators keys).answered fun _ _ h => congrArg _ h
  | validatorId key => exact (tw.validatorId key).answered fun _ _ h => congrArg _ h
  | allIds => exact tw.allIds.answered fun _ _ h => congrArg _ h
  | checkGenesis root => exact (tw.checkGenesis root).answered fun _ _ h => congrArg _ h
  | genesisExists => exact tw.genesisExists.answered fun _ _ h => congrArg _ h
  | maySignBlock genesis c => exact (tw.maySignBlock genesis c).answered fun _ _ h => h
  | maySignAttestation genesis c => exact (tw.maySignAttestation genesis c).answered fun _ _ h => h
  | prune id window => exact (tw.pruneWithin (rounds id) (rounds' id) id window).answered fun _ _ h => ⟨rfl, h⟩
  | pruneAll window => exact (tw.pruneAllWithin rounds rounds' window).answered fun _ _ h => ⟨rfl, h⟩

theorem Alike.uncounted {op : Operation} {a b : Answer} (h : Alike level op a b) (hl : level) :
    a.uncounted = b.uncounted := by
  unfold Alike at h
  split at h
  · rcases h with rfl | ⟨hn, -⟩
    · rfl
    · exact absurd hl hn
  · simp only [Answer.uncounted, h.2 hl]
  · rw [h]

/-- The answers of level sides differ in counts at most. -/
theorem Agree.uncounted {op : Operation} {a b : Except ProtectionError Answer × Engine}
    (h : Agree level (Alike level op) a b) (hl : level) :
    a.1.map Answer.uncounted = b.1.map Answer.uncounted := by
  rcases h.values with ⟨cause, ha, hb⟩ | ⟨v, w, ha, hb, hvw⟩
  · rw [ha, hb]
  · rw [ha, hb]
    exact congrArg Except.ok (hvw.uncounted hl)

/-- The side that is ahead answers alike, or refuses below its watermark. -/
theorem Agree.narrows {op : Operation} (ho : op.prunes = false) {a b : Except ProtectionError Answer × Engine}
    (h : Agree level (Alike level op) a b) : a.1 = b.1 ∨ a.1 = .ok (.decided (.deny .belowWatermark)) := by
  rcases h.values with ⟨cause, ha, hb⟩ | ⟨v, w, ha, hb, hvw⟩
  · exact .inl (ha.trans hb.symm)
  · rw [ha, hb]
    unfold Alike at hvw
    split at hvw
    · rcases hvw with rfl | ⟨-, rfl⟩
      · exact .inl rfl
      · exact .inr rfl
    · rw [ho] at hvw
      cases hvw.1
    · exact .inl (congrArg Except.ok hvw)

end Requests

section Runs
variable {level : Prop} {p u : Run}

theorem Twins.next (tw : Twins level p.engine u.engine) (rounds rounds' : ValidatorId → Rounds) (event : Event)
    (hs : event.Storable) :
    Twins level (p.next (·.performWithin rounds) event).engine (u.next (·.performWithin rounds') event).engine := by
  cases event with
  | request op => exact (tw.performWithin rounds rounds' op).engines
  | restart service =>
    refine ⟨tw.locked, rfl, tw.left, tw.right, ?_, tw.tables⟩
    have hs : service.pruning.batchSize ≤ 2 ^ 63 - 1 := hs
    change service.pruning.batchSize < storeBound
    rw [storeBound_eq]
    omega
  | disturb locked decisions cleaning =>
    refine ⟨rfl, ?_, tw.left, tw.right, tw.storable, tw.tables⟩
    simp only [Run.next, tw.service]

theorem Twins.journal_next (tw : Twins level p.engine u.engine) (hl : level)
    (hj : p.journal.map uncounted = u.journal.map uncounted) (rounds rounds' : ValidatorId → Rounds) (event : Event) :
    (p.next (·.performWithin rounds) event).journal.map uncounted =
      (u.next (·.performWithin rounds') event).journal.map uncounted := by
  cases event with
  | request op =>
    have ha := (tw.performWithin rounds rounds' op).uncounted hl
    simp only [Run.next, List.map_append, hj]
    exact congrArg _ (congrArg (fun answer => [(op, answer)]) ha)
  | restart service => exact hj
  | disturb locked decisions cleaning => exact hj

/-- Runs with the same events stay side by side, and keep journals that differ in counts at most if the sides
are level. -/
theorem Twins.afterWithin (tw : Twins level p.engine u.engine)
    (hj : level → p.journal.map uncounted = u.journal.map uncounted)
    (script : List (Event × (ValidatorId → Rounds) × (ValidatorId → Rounds)))
    (hs : ∀ step ∈ script, step.1.Storable) :
    Twins level (p.afterWithin (script.map fun step => (step.1, step.2.1))).engine
        (u.afterWithin (script.map fun step => (step.1, step.2.2))).engine ∧
      (level → (p.afterWithin (script.map fun step => (step.1, step.2.1))).journal.map uncounted =
        (u.afterWithin (script.map fun step => (step.1, step.2.2))).journal.map uncounted) := by
  induction script generalizing p u with
  | nil => exact ⟨tw, hj⟩
  | cons step rest ih =>
    exact ih (tw.next step.2.1 step.2.2 step.1 (hs step List.mem_cons_self))
      (fun hl => tw.journal_next hl (hj hl) step.2.1 step.2.2 step.1)
      fun other ho => hs other (List.mem_cons_of_mem _ ho)

/-- A run that goes on after a prune run is ahead of the one that goes on without. -/
theorem Twins.after (tw : Twins level p.engine u.engine) (events : List Event)
    (hs : ∀ event ∈ events, event.Storable) : Twins level (p.after events).engine (u.after events).engine := by
  induction events generalizing p u with
  | nil => exact tw
  | cons event rest ih =>
    have hp : Operation.perform = fun op => op.performWithin fun _ => .all := funext Operation.perform_eq
    refine ih ?_ fun other ho => hs other (List.mem_cons_of_mem _ ho)
    rw [hp]
    exact tw.next _ _ event (hs event List.mem_cons_self)

end Runs

theorem Paired.refl {level : Prop} {t : Tables} {h : History} (g : Guards t h) : Paired level t t :=
  ⟨⟨h, g⟩, ⟨h, g⟩, .refl g, fun _ => rfl⟩

theorem trims_of_prunes {e : Engine} {h : History} (hs : e.Sound h) (rounds : ValidatorId → Rounds)
    {op : Operation} (ho : op.prunes = true) :
    ∃ t' metrics, Relation.ReflTransGen Trim e.tables t' ∧
      (op.performWithin rounds e).2 = { e.withTables t' with metrics } := by
  cases op with
  | prune id window =>
    simp only [Operation.performWithin, Request.answered_apply]
    exact pruneWithin_trims (rounds id) id window hs.installed hs.guards.wellFormed
  | pruneAll window =>
    simp only [Operation.performWithin, Request.answered_apply]
    exact pruneAllWithin_trims rounds window hs.installed hs.guards
  | _ => cases ho

/-- Deletion by pruning is not observable. The run that deletes everything below the watermarks and the run
whose prune runs stop after given numbers of batches agree on every answer but for the counts, and end with
the same watermarks, registrations, chain, and rows from the watermarks on. A prune run that one of two runs
carries out and the other does not changes a later answer to a refusal below the watermark, if at all. -/
theorem deletion_unobservable (writeAhead locked : Bool) (metrics : Metrics) (service : Service)
    (hb : service.pruning.batchSize ≤ 2 ^ 63 - 1) (script : List (Event × (ValidatorId → Rounds)))
    (hs : ∀ step ∈ script, step.1.Storable) :
    let start : Run := { engine := .fresh writeAhead locked metrics service }
    let full := start.after (script.map (·.1))
    let cut := start.afterWithin script
    (full.journal.map uncounted = cut.journal.map uncounted ∧
      full.engine.tables.watermarks = cut.engine.tables.watermarks ∧
      full.engine.tables.validators = cut.engine.tables.validators ∧
      full.engine.tables.genesis = cut.engine.tables.genesis ∧
      (∀ r : BlockRow, (full.engine.tables.floorOf r.validator).slot ≤ r.slot →
        (r ∈ full.engine.tables.blocks ↔ r ∈ cut.engine.tables.blocks)) ∧
      ∀ r : AttestationRow, (full.engine.tables.floorOf r.validator).target ≤ r.target →
        (r ∈ full.engine.tables.attestations ↔ r ∈ cut.engine.tables.attestations)) ∧
    ∀ trimming : Operation, trimming.prunes = true → ∀ later : List Event, (∀ event ∈ later, event.Storable) →
      ∀ op : Operation, op.prunes = false →
        (op.perform (full.after (.request trimming :: later)).engine).1 = (op.perform (full.after later).engine).1 ∨
          (op.perform (full.after (.request trimming :: later)).engine).1 =
            .ok (.decided (.deny .belowWatermark)) := by
  intro start full cut
  have hstart : start.Sound := Run.sound_fresh writeAhead locked metrics service
  have tw : Twins True start.engine start.engine := by
    refine ⟨rfl, rfl, ⟨rfl, rfl⟩, ⟨rfl, rfl⟩, ?_, .refl hstart.engine.guards⟩
    change service.pruning.batchSize < storeBound
    rw [storeBound_eq]
    omega
  -- One side of the script deletes all, the other one as much as it is given.
  have hboth := tw.afterWithin (fun _ => rfl) (script.map fun step => (step.1, (fun _ => .all), step.2))
    (fun step hm => by
      obtain ⟨other, ho, rfl⟩ := List.mem_map.mp hm
      exact hs other ho)
  have hfull : start.afterWithin ((script.map fun step => (step.1, (fun _ : ValidatorId => Rounds.all), step.2)).map
      fun step => (step.1, step.2.1)) = full := by
    simp only [full, Run.after_eq, List.map_map, Function.comp_def]
  have hcut : start.afterWithin ((script.map fun step => (step.1, (fun _ : ValidatorId => Rounds.all), step.2)).map
      fun step => (step.1, step.2.2)) = cut := by
    simp only [cut, List.map_map, Function.comp_def, List.map_id']
  rw [hfull, hcut] at hboth
  obtain ⟨tw, hjournal⟩ := hboth
  refine ⟨⟨hjournal trivial, tw.tables.floors trivial, tw.tables.ahead.validators, tw.tables.ahead.genesis,
    tw.tables.ahead.blocks, tw.tables.ahead.attestations⟩, fun trimming htrim later hlater op hop => ?_⟩
  have hsound : full.Sound := hstart.after _
  have hp : Operation.perform = fun op => op.performWithin fun _ => .all := funext Operation.perform_eq
  obtain ⟨t', m, ht, he⟩ := trims_of_prunes hsound.engine (fun _ => .all) htrim
  have twins : Twins False (full.next Operation.perform (.request trimming)).engine full.engine := by
    have same : Twins False full.engine full.engine :=
      ⟨rfl, rfl, tw.left, tw.left, tw.storable, .refl hsound.engine.guards⟩
    have hnext : (full.next Operation.perform (.request trimming)).engine =
        { full.engine.withTables t' with metrics := m } := by
      rw [hp]
      exact he
    rw [hnext]
    exact (same.withTables (same.tables.trims_left ht)).metrics m full.engine.metrics
  have hagree := (twins.after later hlater).performWithin (fun _ => .all) (fun _ => .all) op
  rw [hp]
  exact hagree.narrows hop

def sampleScript : List (Event × (ValidatorId → Rounds)) :=
  let root : Root := ⟨List.replicate 32 7, rfl⟩
  [.registerValidators [⟨List.replicate 48 1, rfl⟩], .maySignAttestation none ⟨1, 0, 1, root⟩,
    .maySignAttestation none ⟨1, 1, 2, root⟩, .maySignAttestation none ⟨1, 2, 3, root⟩, .prune 1 ⟨1, 32⟩].map
    fun op => (.request op, fun _ => .none)

def sampleStart : Run := { engine := .fresh false false {} {} }

def sampleFull : Run := sampleStart.after (sampleScript.map (·.1))

def sampleAgain : Operation := .maySignAttestation none ⟨1, 1, 2, ⟨List.replicate 32 7, rfl⟩⟩

/-- The two runs of a script agree although only one of them has deleted a row, and a permission that they give
is given after a further prune run too, or it is refused below the watermark. -/
theorem deletion_unobservable_sample :
    (sampleFull.journal.map uncounted = (sampleStart.afterWithin sampleScript).journal.map uncounted ∧
      sampleFull.engine.tables.attestations.length = 2 ∧
      (sampleStart.afterWithin sampleScript).engine.tables.attestations.length = 3) ∧
    ((sampleAgain.perform (sampleFull.after [.request (.prune 1 ⟨0, 32⟩)]).engine).1 =
        (sampleAgain.perform sampleFull.engine).1 ∨
      (sampleAgain.perform (sampleFull.after [.request (.prune 1 ⟨0, 32⟩)]).engine).1 =
        .ok (.decided (.deny .belowWatermark))) ∧
    (sampleAgain.perform sampleFull.engine).1 = .ok (.decided .allow) := by
  have hs : ∀ step ∈ sampleScript, step.1.Storable := by
    intro step hm
    obtain ⟨op, -, rfl⟩ := List.mem_map.mp hm
    trivial
  obtain ⟨⟨hjournal, -⟩, hlater⟩ := deletion_unobservable false false {} {} (by decide) sampleScript hs
  have hagain := hlater (.prune 1 ⟨0, 32⟩) rfl [] (fun _ he => by cases he) sampleAgain rfl
  have hallowed : (sampleAgain.perform sampleFull.engine).1 = .ok (.decided .allow) := by rfl
  have hrows : sampleFull.engine.tables.attestations.length = 2 ∧
      (sampleStart.afterWithin sampleScript).engine.tables.attestations.length = 3 := by decide
  have hnone (run : Run) : run.after [] = run := rfl
  rw [hnone] at hagain
  exact ⟨⟨hjournal, hrows⟩, hagain, hallowed⟩

end ValidatorSigner.Protection
