import Mathlib.Algebra.GroupWithZero.Nat
import ValidatorSigner.Proofs.Protection.Completion
import ValidatorSigner.Proofs.Signing.Reopening

/-! # Pruning with accepted parameters

Parameters are looked at when a context is opened, and used when it prunes. They are looked at for what is too
small only. A window may be as large as it likes, since a floor that it would push below zero stays there, but
the size of a batch goes to the database as it is: one that no column can hold is accepted, and then no prune run
of that context ever gets to delete a row.
-/
namespace ValidatorSigner.Protection
open Store Telemetry

namespace Session
variable {p : ProtectionParameters} {n : Nat} {connection : Connection} {writeAhead : Bool} {s s' : Session}
  {t : Tables}

structure Guarded (p : ProtectionParameters) (n : Nat) (connection : Connection) (writeAhead : Bool) (s : Session)
    (t : Tables) : Prop where
  settled : s.Settled p n [] connection writeAhead t
  guards : ∃ h, Guards t h
  numbered : Tables.Numbered t

theorem Guarded.tables (h : s.Guarded p n connection writeAhead t) : (s.host.engine s.context).tables = t :=
  congrArg Database.tables h.settled.engine

theorem Guarded.sound (h : s.Guarded p n connection writeAhead t) : ∃ past, (s.host.engine s.context).Sound past := by
  obtain ⟨past, hpast⟩ := h.guards
  refine ⟨past, congrArg Database.missing h.settled.engine, ?_, ?_⟩
  · rw [h.tables]
    exact hpast
  · rw [h.tables]
    exact h.settled.onRecord.coherent

theorem Settled.parallel {missing : List Table} (h : s.Settled p n missing connection writeAhead t) :
    Parallel p n missing connection writeAhead s s t where
  settled := h
  disk := rfl
  locks := rfl
  connections := rfl
  service := rfl
  fewer _ _ hk := hk
  journal := List.forall₂_same.mpr fun _ _ => ⟨rfl, .same _⟩

theorem Settled.next (h : s.Settled p n [] connection writeAhead t) {turn : Turn} (hn : s.next p turn = some s') :
    ∃ t', s'.Settled p n [] connection writeAhead t' := by
  have hafter : s.after p [turn] = some s' := by
    rw [after, List.foldlM_cons, hn]
    rfl
  obtain ⟨plain, t', -, hparallel⟩ := h.parallel.after (.inl rfl) hafter
  exact ⟨t', hparallel.settled_restarted⟩

/-- A turn leaves what its request leaves, or the tables as they are. -/
theorem Guarded.next (h : s.Guarded p n connection writeAhead t) {turn : Turn} (hn : s.next p turn = some s') :
    ∃ t', s'.Guarded p n connection writeAhead t' := by
  obtain ⟨t', hsettled⟩ := h.settled.next hn
  have hstored := hsettled.stored
  suffices hrest : (∃ past, Guards t' past) ∧ Tables.Numbered t' from ⟨t', hsettled, hrest.1, hrest.2⟩
  cases turn with
  | request op rounds =>
    obtain ⟨past, hs⟩ := h.sound
    have hnumber : s.context.connection.number? = some n := h.settled.context ▸ h.settled.number
    rw [next_request hnumber] at hn
    cases hn
    have ht : (op.performWithin rounds (s.host.engine s.context)).2.tables = t' :=
      congrArg Database.tables (Option.some.inj ((Disk.getElem?_replace h.settled.stored).symm.trans hstored))
    constructor
    · exact ⟨_, ht ▸ (hs.leads (performWithin_leads rounds op hs)).guards⟩
    · rw [← ht]
      apply covers_staysNumbered.performWithin rounds op (s.host.engine s.context)
      rw [h.settled.engine]
      exact h.numbered
  | lock held =>
    cases hn
    cases h.settled.stored.symm.trans hstored
    exact ⟨h.guards, h.numbered⟩
  | reopen installs held =>
    have hs := (h.settled.parallel.lock held).settled
    simp only [Session.next, hs.reinstalls (.inl rfl), Option.map_eq_some_iff] at hn
    obtain ⟨opened, hb, rfl⟩ := hn
    obtain ⟨metrics, rfl⟩ := hs.reopen hb
    cases h.settled.stored.symm.trans hstored
    exact ⟨h.guards, h.numbered⟩

theorem Guarded.after (h : s.Guarded p n connection writeAhead t) {turns : List Turn}
    (hs : s.after p turns = some s') : ∃ t', s'.Guarded p n connection writeAhead t' := by
  induction turns generalizing s t with
  | nil =>
    cases hs
    exact ⟨t, h⟩
  | cons turn rest ih =>
    simp only [Session.after, List.foldlM_cons, Option.bind_eq_bind, Option.bind_eq_some_iff] at hs
    obtain ⟨between, hn, hs⟩ := hs
    obtain ⟨t', h'⟩ := h.next hn
    exact ih h' hs

def CanWrite (s : Session) : Prop := s.context.connection.readOnly = false ∧ s.host.locked = false

/-- Both pools of a session are free, and its batches are as large as the parameters say. -/
theorem Settled.service_eq {missing : List Table} (h : s.Settled p n missing connection writeAhead t) :
    (s.host.engine s.context).service.decisions = { size := max 1 p.database.maxConnections } ∧
      (s.host.engine s.context).service.cleaning = { size := max 1 p.pruningPoolSize } ∧
      (s.host.engine s.context).service.pruning = p.pruning :=
  ⟨congrArg Service.decisions h.service, congrArg Service.cleaning h.service, congrArg Service.pruning h.service⟩

theorem Settled.readOnly {missing : List Table} (h : s.Settled p n missing connection writeAhead t) :
    (s.host.engine s.context).database.readOnly = s.context.connection.readOnly := by
  rw [h.engine, h.context]

/-- Nothing but a lock of somebody else keeps a transaction of a session from its beginning. -/
theorem Settled.obstacle {missing : List Table} (h : s.Settled p n missing connection writeAhead t) (size : Nat) :
    (s.host.engine s.context).obstacle? { size := max 1 size } = none ↔
      (s.context.connection.readOnly = true ∨ s.host.locked = false) := by
  have hroom : ¬ max 1 size ≤ 0 := by omega
  have hlocked : (s.host.engine s.context).locked = s.host.locked := rfl
  simp only [Engine.obstacle?, Bool.false_eq_true, if_false, hroom, h.readOnly, hlocked]
  cases s.host.locked <;> cases s.context.connection.readOnly <;> simp

theorem Settled.canPrune_iff {missing : List Table} (h : s.Settled p n missing connection writeAhead t) :
    (s.host.engine s.context).CanPrune ↔ s.CanWrite ∧ p.pruning.batchSize ≤ 2 ^ 63 - 1 := by
  obtain ⟨-, hcleaning, hpruning⟩ := h.service_eq
  have hfree := h.obstacle p.pruningPoolSize
  rw [← hcleaning] at hfree
  have hstore : (s.host.engine s.context).service.pruning.batchSize < storeBound ↔ p.pruning.batchSize ≤ 2 ^ 63 - 1 := by
    rw [hpruning, storeBound_eq]
    omega
  constructor
  · rintro ⟨hbegin, hwrite, hbatch⟩
    rw [h.readOnly] at hwrite
    exact ⟨⟨hwrite, (hfree.mp hbegin).resolve_left (by simp [hwrite])⟩, hstore.mp hbatch⟩
  · rintro ⟨⟨hwrite, hlocked⟩, hbatch⟩
    exact ⟨hfree.mpr (.inr hlocked), h.readOnly.trans hwrite, hstore.mpr hbatch⟩

/-- A prune run with batches that no column can hold raises the watermark, and fails before anything is deleted. -/
theorem Guarded.prune_oversized (h : s.Guarded p n connection writeAhead t) (hw : s.CanWrite)
    (hb : 2 ^ 63 ≤ p.pruning.batchSize) (id : ValidatorId) (window : Retention) :
    Request.prune id window (s.host.engine s.context) =
      (.error (.infrastructure "prune_blocks" 1 (.outOfRange .batchSize p.pruning.batchSize)),
        (s.host.engine s.context).withTables (raised (s.host.engine s.context).tables id window)) := by
  obtain ⟨past, hs⟩ := h.sound
  obtain ⟨-, hcleaning, hpruning⟩ := h.settled.service_eq
  have hlarge : ¬ p.pruning.batchSize < storeBound := by
    rw [storeBound_eq]
    omega
  rw [prune_apply hs.installed hs.guards.wellFormed (h.settled.readOnly.trans hw.1), hcleaning,
    (h.settled.obstacle _).mpr (.inr hw.2), hpruning]
  simp only [if_neg hlarge, Engine.failed, StorageError.isRetryable, Engine.countRetries]
  rfl

theorem guarded_begin {host : Host} {start : Session} {database : Database} {past : History}
    (hl : p.database.LeadsTo host.disk n) (hd : host.disk.databases[n]? = some database)
    (hm : database.missing = []) (hr : database.readOnly = false) (g : Guards database.tables past)
    (hn : Tables.Numbered database.tables) (hb : Session.begin p host = some start) :
    ∃ connection writeAhead, start.Guarded p n connection writeAhead database.tables := by
  obtain ⟨tables, missing, readOnly, writeAhead⟩ := database
  cases hm
  cases hr
  obtain ⟨writeAhead', hparallel⟩ := parallel_begin hl hd hb
  exact ⟨_, writeAhead', hparallel.settled, ⟨past, g⟩, hn⟩

/-- Over every database that a run can leave, and at any time in a session with parameters that were accepted,
pruning succeeds if the database can be written to and the size of the batches fits a column. Then no row lies
below a watermark. With larger batches, which are accepted as well, no prune run ever deletes anything. -/
theorem accepted_pruning (writeAhead locked : Bool) (metrics : Metrics) (service : Service)
    (script : List (Event × (ValidatorId → Rounds))) (p : ProtectionParameters) (n : Nat) (host : Host)
    (start s : Session) (turns : List Turn) (hl : p.database.LeadsTo host.disk n)
    (hd : host.disk.databases[n]? =
      some (({ engine := .fresh writeAhead locked metrics service } : Run).afterWithin script).engine.database)
    (hb : Session.begin p host = some start) (hs : start.after p turns = some s) :
    let e := s.host.engine s.context
    p.pruning.validate = .ok () ∧
    (∀ id window, (∃ report e', Request.prune id window e = (.ok report, e')) ↔
      s.CanWrite ∧ p.pruning.batchSize ≤ 2 ^ 63 - 1) ∧
    (∀ id window report e', Request.prune id window e = (.ok report, e') → Clear e'.tables id) ∧
    (∀ window, (∃ report e', Request.pruneAll window e = (.ok report, e')) ↔
      (s.context.connection.readOnly = true ∨ s.host.locked = false) ∧
        (e.tables.validators = [] ∨ s.CanWrite ∧ p.pruning.batchSize ≤ 2 ^ 63 - 1)) ∧
    (∀ window report e', Request.pruneAll window e = (.ok report, e') →
      ∀ id, e.tables.isRegistered id = true → Clear e'.tables id) ∧
    (s.CanWrite → 2 ^ 63 ≤ p.pruning.batchSize → ∀ id window, ∃ e', Request.prune id window e =
        (.error (.infrastructure "prune_blocks" 1 (.outOfRange .batchSize p.pruning.batchSize)), e') ∧
      e'.tables.blocks = e.tables.blocks ∧ e'.tables.attestations = e.tables.attestations) := by
  intro e
  obtain ⟨hsound, hr⟩ := Run.reached writeAhead locked metrics service script
  obtain ⟨connection, ahead, hbegin⟩ :=
    guarded_begin hl hd hsound.engine.installed hr hsound.engine.guards
      (Run.numbered writeAhead locked metrics service script) hb
  obtain ⟨t, h⟩ := hbegin.after hs
  obtain ⟨past, hsound⟩ := h.sound
  have hnumbered : Tables.Numbered e.tables := h.tables.symm ▸ h.numbered
  have hdecisions := h.settled.obstacle p.database.maxConnections
  rw [← h.settled.service_eq.1] at hdecisions
  refine ⟨?_, fun id window => ?_, fun id window report e' hp => clear_of_prune_ok hsound hp, fun window => ?_,
    fun window report e' hp id hid => clear_of_pruneAll_ok hsound hnumbered hp hid, fun hw hbatch id window => ?_⟩
  · obtain ⟨context, host', ho, -⟩ := of_begin hb
    unfold Context.create at ho
    split at ho
    · cases ho
    · assumption
  · rw [← h.settled.canPrune_iff]
    exact prune_ok_iff hsound.installed hsound.guards.wellFormed id window
  · rw [pruneAll_ok_iff hsound hnumbered, ← h.settled.canPrune_iff]
    exact and_congr_left fun _ => hdecisions
  · obtain ⟨-, -, hblocks, hattestations⟩ := raised_rest e.tables id window
    exact ⟨_, h.prune_oversized hw hbatch id window, hblocks, hattestations⟩

def batchParameters (batch : Nat) : ProtectionParameters :=
  { database := { url := "d" }, pruning := { enabled := true, epochsToKeep := 1, batchSize := batch } }

def batchHost (t : Tables) : Host where
  disk := { entries := [(["home", "d"], .database 0)], databases := [{ tables := t, writeAhead := true }] }

def batchSession (t : Tables) (batch : Nat) : Session where
  host := batchHost t
  context := ⟨{ number? := some 0 }, .ofParameters (batchParameters batch)⟩

theorem connect_batchHost (t : Tables) (batch : Nat) : (batchHost t).connect (batchParameters batch).database =
    (.ok ({ number? := some 0 }, { tables := t, writeAhead := true }), batchHost t) := by cbv

/-- A batch of any size but none is accepted. -/
theorem begin_batchSession {batch : Nat} (hv : t.version = some Database.expectedVersion) (hb : batch ≠ 0) :
    Session.begin (batchParameters batch) (batchHost t) = some (batchSession t batch) := by
  have hinterval : ¬ Duration.ofSeconds 86400 = .zero := by decide
  have hvalid : (batchParameters batch).pruning.validate = .ok () := by
    simp [batchParameters, PruningParameters.validate, PruningParameters.fault?, hb, hinterval]
  have hfind : Transaction.findVersion.run { tables := t, writeAhead := true } =
      .ok (some Database.expectedVersion, { tables := t, writeAhead := true }) :=
    Transaction.findVersion_ok_iff.mpr ⟨by simp, hv, rfl⟩
  simp only [Session.begin, Context.create, hvalid, connect_batchHost, verifyVersion, hfind, if_true]
  rfl

def batchRun : Run := ({ engine := .fresh true false {} {} } : Run).afterWithin sampleScript

def firstPrune (batch : Nat) : Except ProtectionError PruneReport × Engine :=
  let s := batchSession batchRun.engine.tables batch
  Request.prune 1 (batchParameters batch).pruning.retention (s.host.engine s.context)

/-- With batches of an ordinary size one attestation goes, and none that is left lies below the watermark. -/
theorem accepted_pruning_sample :
    (batchParameters 10000).pruning.validate = .ok () ∧ (firstPrune 10000).1 = .ok ⟨0, 1, some ⟨1, 0, 1, 2⟩⟩ ∧
      Clear (firstPrune 10000).2.tables 1 := by
  have hbegin : Session.begin (batchParameters 10000) (batchHost batchRun.engine.tables) = _ :=
    begin_batchSession rfl (by decide)
  have hlead : (batchParameters 10000).database.LeadsTo (batchHost batchRun.engine.tables).disk 0 :=
    DatabaseParameters.LeadsTo.same (Deployment.sample_leads false) ⟨rfl, rfl⟩
  obtain ⟨hvalid, -, hclear, -⟩ := accepted_pruning true false {} {} sampleScript (batchParameters 10000) 0
    (batchHost batchRun.engine.tables) _ _ [] hlead rfl hbegin rfl
  have hanswer : (firstPrune 10000).1 = .ok ⟨0, 1, some ⟨1, 0, 1, 2⟩⟩ := by rfl
  exact ⟨hvalid, hanswer, hclear 1 _ _ _ (Prod.ext hanswer rfl)⟩

/-- The largest batch that a column holds is accepted and prunes; the next one is accepted and does not. -/
theorem oversized_batch_accepted :
    (batchParameters (2 ^ 63)).pruning.enabled = true ∧ (batchParameters (2 ^ 63)).pruning.validate = .ok () ∧
      Session.begin (batchParameters (2 ^ 63)) (batchHost batchRun.engine.tables) =
        some (batchSession batchRun.engine.tables (2 ^ 63)) ∧
      (firstPrune (2 ^ 63)).1 = .error (.infrastructure "prune_blocks" 1 (.outOfRange .batchSize (2 ^ 63))) ∧
      ¬ Clear (firstPrune (2 ^ 63)).2.tables 1 ∧
      (firstPrune (2 ^ 63 - 1)).1 = .ok ⟨0, 1, some ⟨1, 0, 1, 2⟩⟩ := by
  refine ⟨rfl, by decide, begin_batchSession rfl (by decide), by rfl, fun hclear => ?_, by rfl⟩
  have hleft : (⟨1, 0, 1, List.replicate 32 7⟩ : AttestationRow) ∈ (firstPrune (2 ^ 63)).2.tables.attestationsOf 1 := by
    decide
  have hbelow : ¬ ((firstPrune (2 ^ 63)).2.tables.floorOf 1).target ≤ 1 := by decide
  exact hbelow (hclear.attestations _ hleft).2

end Session
end ValidatorSigner.Protection
