import Mathlib.Algebra.GroupWithZero.Nat
import ValidatorSigner.Proofs.Protection.Independence

/-! # Many validators together

Every registered validator has a number of its own. Hence pruning all of them in turn does to each what pruning
it alone would have done, and the order in which they are taken does not matter.
-/
namespace ValidatorSigner.Protection
open Store Telemetry

section Numbers
variable {t : Tables}

theorem le_foldl_max (ids : List Int) (start : Int) :
    start ≤ ids.foldl max start ∧ ∀ id ∈ ids, id ≤ ids.foldl max start := by
  induction ids generalizing start with
  | nil => exact ⟨Int.le_refl _, fun _ hid => by cases hid⟩
  | cons first rest ih =>
    obtain ⟨hstart, hrest⟩ := ih (max start first)
    rw [List.foldl_cons]
    refine ⟨by omega, fun id hid => ?_⟩
    rcases List.mem_cons.mp hid with rfl | hid
    · omega
    · exact hrest id hid

/-- A new number is above all numbers that were given. -/
theorem lt_nextId (t : Tables) : ∀ id ∈ t.validators.map (·.id), id < t.nextId := by
  intro id hid
  exact Int.lt_add_one_of_le ((le_foldl_max (t.validators.map (·.id)) 0).2 id hid)

def Tables.Numbered (t : Tables) : Prop := (t.validators.map (·.id)).Nodup

theorem numbered_addValidator (hn : Tables.Numbered t) (key : PublicKey) : Tables.Numbered (t.addValidator key) := by
  have hnew : t.nextId ∉ t.validators.map (·.id) := fun hm => Int.lt_irrefl _ (lt_nextId t _ hm)
  simp only [Tables.Numbered, Tables.addValidator, List.map_append, List.map_cons, List.map_nil]
  refine List.nodup_append.mpr ⟨hn, by simp, fun id hid new hn he => hnew ?_⟩
  rwa [← List.mem_singleton.mp hn, ← he]

def StaysNumbered (db db' : Database) : Prop := Tables.Numbered db.tables → Tables.Numbered db'.tables

instance isPreorder_staysNumbered : IsPreorder Database StaysNumbered where
  refl _ hn := hn
  trans _ _ _ h₁ h₂ hn := h₂ (h₁ hn)

theorem covers_staysNumbered : Covers StaysNumbered where
  enrol _ key _ hn := numbered_addValidator hn key
  bind _ _ _ hn := hn
  addBlock _ _ hn := hn
  addAttestation _ _ hn := hn
  putWatermark _ _ hn := hn
  forgetBlocks _ _ _ _ hn := hn
  forgetAttestations _ _ _ _ hn := hn

theorem numbered_afterWithin {run : Run} (hn : Tables.Numbered run.engine.tables)
    (script : List (Event × (ValidatorId → Rounds))) : Tables.Numbered (run.afterWithin script).engine.tables :=
  covers_staysNumbered.afterWithin run script hn

end Numbers

def prunedEach (t : Tables) (window : Retention) (ids : List ValidatorId) : Tables :=
  ids.foldl (fun t id => pruned t id window) t

section Tables
variable {t : Tables} {window : Retention} {id : ValidatorId}

theorem prunedEach_beyond (t : Tables) (window : Retention) {ids : List ValidatorId} (hn : id ∉ ids) :
    SameFor (· = id) t (prunedEach t window ids) := by
  induction ids generalizing t with
  | nil => exact .refl _ t
  | cons first rest ih =>
    obtain ⟨hne, hrest⟩ := not_or.mp (mt List.mem_cons.mpr hn)
    exact (SameFor.pruned_other hne t window).trans (ih (pruned t first window) hrest)

/-- Each of the validators is pruned as if it were alone. -/
theorem prunedEach_self (t : Tables) (window : Retention) {ids : List ValidatorId} (hd : ids.Nodup) (hm : id ∈ ids) :
    SameFor (· = id) (pruned t id window) (prunedEach t window ids) := by
  induction ids generalizing t with
  | nil => cases hm
  | cons first rest ih =>
    obtain ⟨hfirst, hrest⟩ := List.nodup_cons.mp hd
    rcases List.mem_cons.mp hm with rfl | hm
    · exact prunedEach_beyond (pruned t id window) window hfirst
    · have hne : id ≠ first := fun he => hfirst (he ▸ hm)
      have hbefore := SameFor.pruned_other hne t window
      exact (hbefore.pruned rfl window).trans (ih (pruned t first window) hrest hm)

end Tables

section Requests
variable {e : Engine} {h : History} {window : Retention}

def Tables.pruneReport (t : Tables) (window : Retention) (id : ValidatorId) : PruneReport :=
  sweptReport t (nextFloor t id window)

theorem pruneReport_of_sameFor {t t' : Tables} {id : ValidatorId} (hs : SameFor (· = id) t t') :
    Tables.pruneReport t' window id = Tables.pruneReport t window id := by
  rw [Tables.pruneReport, hs.nextFloor rfl, hs.sweptReport rfl]
  rfl

/-- Pruning in turn succeeds, and the counts of the reports add up. -/
theorem pruneEach_apply (hs : e.Sound h) (hr : e.database.readOnly = false)
    (hf : e.obstacle? e.service.cleaning = none) (hb : e.service.pruning.batchSize < storeBound)
    {ids : List ValidatorId} (hd : ids.Nodup) (total : PruneReport) :
    ∃ metrics, Request.pruneEach window total ids e =
      (.ok { total with
          deletedBlocks := total.deletedBlocks +
            (ids.map fun id => (Tables.pruneReport e.tables window id).deletedBlocks).sum
          deletedAttestations := total.deletedAttestations +
            (ids.map fun id => (Tables.pruneReport e.tables window id).deletedAttestations).sum },
        { e.withTables (prunedEach e.tables window ids) with metrics }) := by
  induction ids generalizing total e h with
  | nil => exact ⟨e.metrics, rfl⟩
  | cons id rest ih =>
    obtain ⟨hid, hrest⟩ := List.nodup_cons.mp hd
    have hp := prune_of_free hs.installed hs.guards.wellFormed hr hf hb id window
    have hl := hs.leads (performWithin_leads (fun _ => .all) (.prune id window) hs)
    simp only [Operation.performWithin, Request.answered_apply, ← Request.prune_eq, hp] at hl
    have hsame {other : ValidatorId} (ho : other ∈ rest) :
        Tables.pruneReport (pruned e.tables id window) window other = Tables.pruneReport e.tables window other := by
      have hne : other ≠ id := fun he => hid (he ▸ ho)
      exact pruneReport_of_sameFor (.pruned_other hne e.tables window)
    obtain ⟨metrics, hall⟩ := ih hl hr hf hb hrest (total.merge (Tables.pruneReport e.tables window id))
    refine ⟨metrics, (Request.bind_of_ok hp).trans (hall.trans ?_)⟩
    have hblocks : (rest.map fun other => (Tables.pruneReport (pruned e.tables id window) window other).deletedBlocks) =
        rest.map fun other => (Tables.pruneReport e.tables window other).deletedBlocks :=
      List.map_congr_left fun other ho => by rw [hsame ho]
    have hattestations :
        (rest.map fun other => (Tables.pruneReport (pruned e.tables id window) window other).deletedAttestations) =
          rest.map fun other => (Tables.pruneReport e.tables window other).deletedAttestations :=
      List.map_congr_left fun other ho => by rw [hsame ho]
    simp only [hblocks, hattestations, PruneReport.merge, List.map_cons, List.sum_cons, Nat.add_assoc]
    rfl

/-- Whoever is pruned with others is pruned as if alone. -/
theorem sameFor_prune (hs : e.Sound h) (hr : e.database.readOnly = false)
    (hf : e.obstacle? e.service.cleaning = none) (hb : e.service.pruning.batchSize < storeBound)
    {ids : List ValidatorId} (hd : ids.Nodup) {id : ValidatorId} (hm : id ∈ ids) :
    SameFor (· = id) (Request.prune id window e).2.tables (prunedEach e.tables window ids) := by
  rw [prune_of_free hs.installed hs.guards.wellFormed hr hf hb]
  exact prunedEach_self e.tables window hd hm

theorem pruneAll_apply (hs : e.Sound h) (hf : e.obstacle? e.service.decisions = none) :
    Request.pruneAll window e =
      Request.pruneEach window {} ((e.tables.validators.map (·.id)).mergeSort (· ≤ ·)) e :=
  Request.bind_of_ok (transactOn_of_ok hf (allValidators_apply hs.installed))

end Requests

namespace Run

/-- In every store that a run can reach, a request for one validator leaves the others alone, with their rows and
with all answers that do not concern the one. Two requests for two validators can change places. Pruning all in
turn, in any order, prunes each as if it were alone, and adds their counts up. -/
theorem validators_independent (writeAhead locked : Bool) (metrics : Metrics) (service : Service)
    (script : List (Event × (ValidatorId → Rounds))) :
    let run : Run := { engine := .fresh writeAhead locked metrics service }
    let e := (run.afterWithin script).engine
    let ids := e.tables.validators.map (·.id)
    let leavesChain (op : Operation) : Prop := op.root? = none ∨ e.tables.genesis.isSome = true
    (∀ a op, op.subject? = some a → leavesChain op →
      e.SameFor (· ≠ a) (op.perform e).2 ∧
        ∀ other : Operation, ¬ other.Concerns a → (other.perform (op.perform e).2).1 = (other.perform e).1) ∧
    (∀ a b opA opB, a ≠ b → Operation.subject? opA = some a → Operation.subject? opB = some b →
      leavesChain opA → leavesChain opB →
      let ab := opB.perform (opA.perform e).2
      let ba := opA.perform (opB.perform e).2
      ab.1 = (opB.perform e).1 ∧ ba.1 = (opA.perform e).1 ∧ ab.2.SameFor (fun _ => True) ba.2 ∧
        ba.2.tables.blocks.Perm ab.2.tables.blocks ∧ ba.2.tables.attestations.Perm ab.2.tables.attestations) ∧
    (e.obstacle? e.service.decisions = none → e.obstacle? e.service.cleaning = none →
      e.service.pruning.batchSize < storeBound → ∀ window,
      (∃ order : List ValidatorId, order.Perm ids ∧
        Request.pruneAll window e = Request.pruneEach window {} order e) ∧
      ∃ reports : ValidatorId → PruneReport, (∀ id, (Request.prune id window e).1 = .ok (reports id)) ∧
        ∀ order : List ValidatorId, order.Perm ids →
          ∃ after, Request.pruneEach window {} order e =
              (.ok ⟨(ids.map fun id => (reports id).deletedBlocks).sum,
                (ids.map fun id => (reports id).deletedAttestations).sum, none⟩, after) ∧
            ∀ id ∈ ids, SameFor (· = id) (Request.prune id window e).2.tables after.tables) := by
  intro run e ids leavesChain
  obtain ⟨hsound, hr⟩ := reached writeAhead locked metrics service script
  have hs : e.Sound (run.afterWithin script).history := hsound.engine
  refine ⟨fun a op ha hg => ?_, fun a b opA opB hab ha hb hga hgb => ?_, fun hfree hf hb window => ⟨?_, ?_⟩⟩
  · have hbeyond := beyond_perform hs hr ha hg
    obtain ⟨h', hs'⟩ := sound_perform hs op
    refine ⟨hbeyond, fun other ho => ?_⟩
    obtain ⟨hsame, -⟩ := matches_perform hs hs' hbeyond hr fun id hc (he : id = a) => ho (he ▸ hc)
    exact hsame
  · obtain ⟨hfirst, hsecond, hsame⟩ := perform_comm hs hr hab ha hb hga hgb
    exact ⟨hfirst, hsecond, hsame, hsame.tables.perm_blocks, hsame.tables.perm_attestations⟩
  · exact ⟨_, List.mergeSort_perm _ _, pruneAll_apply hs hfree⟩
  · have hstart : Tables.Numbered run.engine.tables := List.nodup_nil
    have hnumbered : ids.Nodup := numbered_afterWithin hstart script
    refine ⟨Tables.pruneReport e.tables window, fun id => ?_, fun order hperm => ?_⟩
    · rw [prune_of_free hs.installed hs.guards.wellFormed hr hf hb]
      rfl
    · have hd : order.Nodup := hperm.nodup_iff.mpr hnumbered
      obtain ⟨metrics, hall⟩ := @pruneEach_apply e _ window hs hr hf hb order hd {}
      refine ⟨{ e.withTables (prunedEach e.tables window order) with metrics }, hall.trans ?_,
        fun id hm => sameFor_prune hs hr hf hb hd (hperm.mem_iff.mpr hm)⟩
      simp only [Nat.zero_add]
      rw [(hperm.map _).sum_nat, (hperm.map _).sum_nat]

def pairScript : List (Event × (ValidatorId → Rounds)) :=
  [.registerValidators [.replicate .publicKey 1, .replicate .publicKey 2], .checkGenesis ownRoot,
    .maySignBlock none ⟨1, 1, ownRoot⟩, .maySignBlock none ⟨2, 5, ownRoot⟩, .maySignBlock none ⟨1, 2, ownRoot⟩,
    .maySignBlock none ⟨2, 6, ownRoot⟩].map fun op => (.request op, fun _ => .all)

/-- Pruning the one, and signing on the chain for the other, change places; pruning both counts two blocks. -/
theorem validators_independent_pair :
    let e := (sampleStart.afterWithin pairScript).engine
    let first : Operation := .prune 1 ⟨0, 32⟩
    let second : Operation := .maySignBlock (some ownRoot) ⟨2, 7, ownRoot⟩
    (second.perform (first.perform e).2).1 = .ok (.decided .allow) ∧
      (first.perform (second.perform e).2).1 = .ok (.pruned ⟨1, 0, some ⟨1, 2, 0, 0⟩⟩) ∧
      (first.perform (second.perform e).2).2.tables.blocks.Perm (second.perform (first.perform e).2).2.tables.blocks ∧
      ∃ after, Request.pruneEach ⟨0, 32⟩ {} [2, 1] e = (.ok ⟨2, 0, none⟩, after) ∧
        after.tables.blocksOf 1 = (Request.prune 1 ⟨0, 32⟩ e).2.tables.blocksOf 1 := by
  intro e first second
  obtain ⟨-, hcomm, htogether⟩ := validators_independent false false {} {} pairScript
  have hbound : e.tables.genesis.isSome = true := by decide
  obtain ⟨hsecond, hfirst, -, hblocks, -⟩ := hcomm 1 2 first second (by decide) rfl rfl (.inl rfl) (.inr hbound)
  have hallowed : (second.perform e).1 = .ok (.decided .allow) := by rfl
  have hpruned : (first.perform e).1 = .ok (.pruned ⟨1, 0, some ⟨1, 2, 0, 0⟩⟩) := by rfl
  obtain ⟨-, reports, hreports, horder⟩ := htogether (by decide) (by decide) (by decide) ⟨0, 32⟩
  have hone : reports 1 = ⟨1, 0, some ⟨1, 2, 0, 0⟩⟩ := Except.ok.inj ((hreports 1).symm.trans rfl)
  have htwo : reports 2 = ⟨1, 0, some ⟨2, 6, 0, 0⟩⟩ := Except.ok.inj ((hreports 2).symm.trans rfl)
  have hids : e.tables.validators.map (·.id) = [1, 2] := by rfl
  obtain ⟨after, hall, hsame⟩ := horder [2, 1] (hids ▸ List.Perm.swap 1 2 [])
  refine ⟨hsecond.trans hallowed, hfirst.trans hpruned, hblocks, after, hall.trans ?_, ?_⟩
  · have hblocks : (e.tables.validators.map (·.id)).map (fun id => (reports id).deletedBlocks) = [1, 1] := by
      simp [hids, hone, htwo]
    have hvotes : (e.tables.validators.map (·.id)).map (fun id => (reports id).deletedAttestations) = [0, 0] := by
      simp [hids, hone, htwo]
    exact congrArg₂ (fun blocks votes : List Nat =>
      ((.ok ⟨blocks.sum, votes.sum, none⟩, after) : Except ProtectionError PruneReport × Engine)) hblocks hvotes
  · exact (hsame 1 (hids ▸ List.mem_cons_self)).blocks 1 rfl

end Run
end ValidatorSigner.Protection
