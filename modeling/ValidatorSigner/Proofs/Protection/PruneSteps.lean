import Mathlib
import ValidatorSigner.Proofs.Protection.Counters
import ValidatorSigner.Proofs.Protection.Standing

/-! # Prune runs, one transaction after the other

A prune run raises a watermark in one transaction and deletes below it in others, one for each batch. Others may do
anything in between, and every transaction may fail. What a run has deleted is counted with its last transaction.
-/
namespace ValidatorSigner.Protection
open Store Telemetry

def PruneReport.deleted (report : PruneReport) : Table → Nat
  | .signedBlocks => report.deletedBlocks
  | .signedAttestations => report.deletedAttestations
  | _ => 0

inductive PruneStage where
  | raise
  | blocks (watermark : Watermark)
  | attestations (watermark : Watermark)

def PruneStage.watermark? : PruneStage → Option Watermark
  | raise => none
  | blocks watermark => some watermark
  | attestations watermark => some watermark

structure PruneRun where
  id : ValidatorId
  window : Retention
  stage : PruneStage := .raise
  report : PruneReport := {}

inductive PruneTask where
  | single (run : PruneRun)
  | all (window : Retention)
  | each (window : Retention) (total : PruneReport) (run : PruneRun) (rest : List ValidatorId)

def Operation.task? : Operation → Option PruneTask
  | .prune id window => some (.single { id, window })
  | .pruneAll window => some (.all window)
  | _ => none

namespace PruneRun

def raise (run : PruneRun) : Request (PruneRun ⊕ PruneReport) := do
  let watermark ← transactCleaning "prune_watermark" (Prune.advanceWatermark run.id run.window)
  return .inl { run with stage := .blocks watermark, report.watermark := some watermark }

def deleteBlocks (run : PruneRun) (watermark : Watermark) : Request (PruneRun ⊕ PruneReport) := do
  let batch := max 1 (← get).service.pruning.batchSize
  let deleted ← transactCleaning "prune_blocks" (Transaction.deleteBlocks run.id watermark.slot batch)
  let run := { run with report.deletedBlocks := run.report.deletedBlocks + deleted }
  if deleted < batch then return .inl { run with stage := .attestations watermark }
  else return .inl run

/-- The last batch of attestations is the end of the run, and what the run has deleted is counted. -/
def deleteAttestations (run : PruneRun) (watermark : Watermark) : Request (PruneRun ⊕ PruneReport) := do
  let batch := max 1 (← get).service.pruning.batchSize
  let deleted ← transactCleaning "prune_attestations" (Transaction.deleteAttestations run.id watermark.target batch)
  let run := { run with report.deletedAttestations := run.report.deletedAttestations + deleted }
  if deleted < batch then
    count (.pruned Table.signedBlocks.name) run.report.deletedBlocks
    count (.pruned Table.signedAttestations.name) run.report.deletedAttestations
    return .inr run.report
  else return .inl run

def next (run : PruneRun) : Request (PruneRun ⊕ PruneReport) :=
  match run.stage with
  | .raise => run.raise
  | .blocks watermark => run.deleteBlocks watermark
  | .attestations watermark => run.deleteAttestations watermark

def within (form : PruneRun → PruneTask) (after : PruneReport → PruneTask ⊕ PruneReport) (run : PruneRun) :
    Request (PruneTask ⊕ PruneReport) := do
  return (← run.next).elim (fun run => .inl (form run)) after

end PruneRun

namespace PruneTask

def turn (window : Retention) (total : PruneReport) : List ValidatorId → PruneTask ⊕ PruneReport
  | [] => .inr total
  | id :: rest => .inl (.each window total { id, window } rest)

def next : PruneTask → Request (PruneTask ⊕ PruneReport)
  | single run => run.within .single .inr
  | all window => do return turn window {} (← Request.allIds)
  | each window total run rest =>
    run.within (.each window total · rest) fun report => turn window (total.merge report) rest

def run? : PruneTask → Option PruneRun
  | single run => some run
  | all _ => none
  | each _ _ run _ => some run

def operation : PruneTask → Operation
  | single run => .prune run.id run.window
  | all window => .pruneAll window
  | each window .. => .pruneAll window

/-- The rows of a table that are deleted but not yet counted. -/
def pending (task : PruneTask) (table : Table) : Nat := (task.run?.map (·.report.deleted table)).getD 0

def left : Except ProtectionError (PruneTask ⊕ PruneReport) → List PruneTask
  | .ok (.inl task) => [task]
  | _ => []

/-- The rows of a table that are deleted and will not be counted, since the request has failed. -/
def lost (task : PruneTask) (table : Table) : Except ProtectionError (PruneTask ⊕ PruneReport) → Nat
  | .error _ => task.pending table
  | .ok _ => 0

def answer? : Except ProtectionError (PruneTask ⊕ PruneReport) → Option (Except ProtectionError Answer)
  | .error cause => some (.error cause)
  | .ok (.inl _) => none
  | .ok (.inr report) => some (.ok (.pruned report))

end PruneTask

inductive Ends {σ : Type} (next : σ → Request (σ ⊕ PruneReport)) :
    Except ProtectionError (σ ⊕ PruneReport) × Engine → Except ProtectionError PruneReport × Engine → Prop
  | failed (cause : ProtectionError) (e : Engine) : Ends next (.error cause, e) (.error cause, e)
  | done (report : PruneReport) (e : Engine) : Ends next (.ok (.inr report), e) (.ok report, e)
  | goesOn (state : σ) (e : Engine) {result : Except ProtectionError PruneReport × Engine}
      (h : Ends next (next state e) result) : Ends next (.ok (.inl state), e) result

section Undisturbed
variable {e : Engine} {id : ValidatorId} {below limit n : Nat} {db db' : Database}

theorem size_of_deletion (size : Tables → Nat) {bound batch : Quantity} {table : Table}
    {delete : Int → Tables → Except StorageError (Nat × Tables)}
    (hdelete : ∀ {column t n t'}, delete column t = .ok (n, t') → size t' + n = size t)
    (h : (do
      let column ← Transaction.lift (toColumn bound below)
      let _ ← Transaction.lift (toColumn batch limit)
      Transaction.writing table (delete column)) db = .ok (n, db')) :
    size db'.tables + n = size db.tables := by
  obtain ⟨-, hrest⟩ := Transaction.column_ok_iff.mp h
  obtain ⟨-, hwrite⟩ := Transaction.column_ok_iff.mp hrest
  obtain ⟨-, -, t, hd, rfl⟩ := Transaction.of_writing_ok hwrite
  exact hdelete hd

theorem size_of_deleteBlocks (h : Transaction.deleteBlocks id below limit db = .ok (n, db')) :
    db'.tables.blocks.length + n = db.tables.blocks.length := by
  refine size_of_deletion (·.blocks.length) (fun hd => ?_) h
  cases hd
  exact Nat.add_sub_of_le removeLowest_sublist.length_le

theorem size_of_deleteAttestations (h : Transaction.deleteAttestations id below limit db = .ok (n, db')) :
    db'.tables.attestations.length + n = db.tables.attestations.length := by
  refine size_of_deletion (·.attestations.length) (fun hd => ?_) h
  cases hd
  exact Nat.add_sub_of_le removeLowest_sublist.length_le

/-- A step for each batch comes to the same as batch after batch, if there are as many as there can be. -/
theorem ends_batches {σ : Type} {next : σ → Request (σ ⊕ PruneReport)} {operation : String}
    {delete : Transaction Nat} {batch : Nat} (hb : 1 ≤ batch) (size : Tables → Nat)
    (hsize : ∀ {db db' n}, delete db = .ok (n, db') → size db'.tables + n = size db.tables)
    (state : Nat → σ) (last : Nat → Request (σ ⊕ PruneReport))
    (hnext : ∀ total e, max 1 e.service.pruning.batchSize = batch → next (state total) e =
      (do
        let n ← transactCleaning operation delete
        if n < batch then last (total + n) else return .inl (state (total + n)) : Request (σ ⊕ PruneReport)) e)
    {total rounds : Nat} (hbatch : max 1 e.service.pruning.batchSize = batch) (hr : size e.tables < rounds)
    {result : Except ProtectionError PruneReport × Engine}
    (h : Ends next ((Request.deleteBatches operation batch delete total rounds >>= last) e) result) :
    Ends next (next (state total) e) result := by
  induction rounds generalizing total e with
  | zero => exact absurd hr (Nat.not_lt_zero _)
  | succ rounds ih =>
    rw [hnext total e hbatch]
    unfold Request.deleteBatches at h
    rw [bind_assoc] at h
    rcases transactOn_cases (·.cleaning) operation delete e with ⟨n, db, hd, ht⟩ | ⟨cause, metrics, ht⟩
    · replace ht : transactCleaning operation delete e = (.ok n, { e with database := db }) := ht
      rw [Request.bind_of_ok ht] at h ⊢
      by_cases hn : n < batch
      · rw [if_pos hn, pure_bind] at h
        rwa [if_pos hn]
      · have hless : size db.tables < rounds := by
          have hsum : size db.tables + n = size e.database.tables := hsize hd
          dsimp only [Engine.tables] at hr
          omega
        rw [if_neg hn] at h ⊢
        exact .goesOn _ _ (ih hbatch hless h)
    · replace ht : transactCleaning operation delete e = (.error cause, { e with metrics }) := ht
      rw [Request.bind_of_error ht] at h ⊢
      exact h

theorem Ends.bind {σ α : Type} {next : σ → Request (σ ⊕ PruneReport)} {x : Request α}
    {f : α → Request (σ ⊕ PruneReport)} {g : α → Request PruneReport}
    (h : ∀ a e', x e = (.ok a, e') → Ends next (f a e') (g a e')) : Ends next ((x >>= f) e) ((x >>= g) e) := by
  cases hx : x e with
  | mk outcome e' =>
    cases outcome with
    | error cause =>
      rw [Request.bind_of_error hx, Request.bind_of_error hx]
      exact .failed cause e'
    | ok a =>
      rw [Request.bind_of_ok hx, Request.bind_of_ok hx]
      exact h a e' hx

/-- A prune run whose transactions follow one another is the prune run of the service. -/
theorem prune_ends (id : ValidatorId) (window : Retention) (e : Engine) :
    Ends PruneRun.next (PruneRun.next { id, window } e) (Request.prune id window e) := by
  let batch := max 1 e.service.pruning.batchSize
  have hb : 1 ≤ batch := Nat.le_max_left ..
  have hkept {α : Type} {x : Request α} (hx : x.Steady) {a : α} {e₁ e₂ : Engine} (h : x e₁ = (.ok a, e₂))
      (he : max 1 e₁.service.pruning.batchSize = batch) : max 1 e₂.service.pruning.batchSize = batch := by
    obtain ⟨database, metrics, hs⟩ := hx e₁
    rw [h] at hs
    rw [show e₂ = _ from hs]
    exact he
  unfold Request.prune
  rw [Request.get_bind]
  refine Ends.bind fun watermark e₁ h₁ => .goesOn _ e₁ ?_
  have hbatch₁ := hkept (Request.steady_transactOn _ _ _) h₁ rfl
  rw [Request.get_bind]
  let run (stage : PruneStage) (blocks attestations : Nat) : PruneRun :=
    ⟨id, window, stage, ⟨blocks, attestations, some watermark⟩⟩
  refine ends_batches hb (·.blocks.length) size_of_deleteBlocks (fun n => run (.blocks watermark) n 0)
    (fun n => return .inl (run (.attestations watermark) n 0)) (fun total e' he => ?_) hbatch₁ (Nat.lt_succ_self _)
    (Ends.bind fun blocks e₂ h₂ => .goesOn _ e₂ ?_)
  · simp only [PruneRun.next, PruneRun.deleteBlocks, run, Request.get_bind, he]
    rfl
  have hbatch₂ := hkept (Request.steady_deleteBatches _ _ _ _ _) h₂ hbatch₁
  rw [Request.get_bind]
  refine ends_batches hb (·.attestations.length) size_of_deleteAttestations
    (fun n => run (.attestations watermark) blocks n)
    (fun n => do
      count (.pruned Table.signedBlocks.name) blocks
      count (.pruned Table.signedAttestations.name) n
      return .inr ⟨blocks, n, some watermark⟩)
    (fun total e' he => ?_) hbatch₂ (Nat.lt_succ_self _) (Ends.bind fun attestations e₃ h₃ => ?_)
  · simp only [PruneRun.next, PruneRun.deleteAttestations, run, Request.get_bind, he]
    rfl
  · exact .done _ _

theorem within_apply (form : PruneRun → PruneTask) (after : PruneReport → PruneTask ⊕ PruneReport) (run : PruneRun)
    (e : Engine) : run.within form after e =
      ((run.next e).1.map (·.elim (fun run => .inl (form run)) after), (run.next e).2) := by
  unfold PruneRun.within
  cases h : run.next e with
  | mk outcome e' =>
    cases outcome with
    | ok a => exact Request.bind_of_ok h
    | error cause => exact Request.bind_of_error h

/-- Where the run of a validator ends, its request goes on with what comes after, or fails with it. -/
theorem Ends.within {form : PruneRun → PruneTask} {after : PruneReport → PruneTask ⊕ PruneReport}
    (hform : ∀ run, (form run).next = run.within form after)
    {step : Except ProtectionError (PruneRun ⊕ PruneReport) × Engine}
    {result whole : Except ProtectionError PruneReport × Engine} (h : Ends PruneRun.next step result)
    (hafter : ∀ report, result.1 = .ok report → Ends PruneTask.next (.ok (after report), result.2) whole)
    (hfailed : ∀ cause, result.1 = .error cause → whole = (.error cause, result.2)) :
    Ends PruneTask.next (step.1.map (·.elim (fun run => .inl (form run)) after), step.2) whole := by
  induction h with
  | failed cause e =>
    rw [hfailed cause rfl]
    exact .failed cause e
  | done report e => exact hafter report rfl
  | goesOn run e h ih =>
    refine .goesOn (form run) e ?_
    rw [hform, within_apply]
    exact ih hafter hfailed

theorem pruneEach_ends (window : Retention) (total : PruneReport) (ids : List ValidatorId) (e : Engine) :
    Ends PruneTask.next (.ok (PruneTask.turn window total ids), e) (Request.pruneEach window total ids e) := by
  induction ids generalizing total e with
  | nil => exact .done total e
  | cons id rest ih =>
    refine .goesOn (PruneTask.each window total { id, window } rest) e ?_
    change Ends PruneTask.next (PruneRun.within _ _ _ e) _
    rw [within_apply]
    refine (prune_ends id window e).within (fun _ => rfl) (fun report ho => ?_) fun cause ho => ?_
    · have hwhole : Request.pruneEach window total (id :: rest) e =
          Request.pruneEach window (total.merge report) rest (Request.prune id window e).2 :=
        Request.bind_of_ok (Prod.ext ho rfl)
      rw [hwhole]
      exact ih (total.merge report) _
    · exact Request.bind_of_error (Prod.ext ho rfl)

/-- A prune request whose transactions follow one another is the request that the service carries out. -/
theorem request_ends (e : Engine) :
    (∀ id window, Ends PruneTask.next (PruneTask.next (.single { id, window }) e) (Request.prune id window e)) ∧
      ∀ window, Ends PruneTask.next (PruneTask.next (.all window) e) (Request.pruneAll window e) := by
  refine ⟨fun id window => ?_, fun window => Ends.bind fun ids e' _ => pruneEach_ends window {} ids e'⟩
  change Ends PruneTask.next (PruneRun.within _ _ _ e) _
  rw [within_apply]
  refine (prune_ends id window e).within (fun _ => rfl) (fun report ho => ?_) fun cause ho => Prod.ext ho rfl
  rw [show Request.prune id window e = (.ok report, (Request.prune id window e).2) from Prod.ext ho rfl]
  exact .done report _

end Undisturbed

structure Watermark.Reached (w : Watermark) (id : ValidatorId) (t : Tables) : Prop where
  slot : (w.slot : Int) ≤ (t.floorOf id).slot
  target : (w.target : Int) ≤ (t.floorOf id).target

theorem Watermark.Reached.rises {w : Watermark} {id : ValidatorId} {t t' : Tables} (hw : w.Reached id t)
    (hr : Rises t t') : w.Reached id t' := by
  obtain ⟨hslot, -, htarget⟩ := hr id
  exact ⟨Int.le_trans hw.slot hslot, Int.le_trans hw.target htarget⟩

def PruneRun.Safe (run : PruneRun) (t : Tables) : Prop := ∀ w ∈ run.stage.watermark?, w.Reached run.id t

def PruneTask.Safe (task : PruneTask) (t : Tables) : Prop := ∀ run ∈ task.run?, run.Safe t

theorem PruneTask.Safe.rises {task : PruneTask} {t t' : Tables} (hs : task.Safe t) (hr : Rises t t') : task.Safe t' :=
  fun run hrun w hw => (hs run hrun w hw).rises hr

section Disturbed
variable {e : Engine} {h : History} {run : PruneRun} {task : PruneTask}

theorem transactCleaning_cases {α : Type} (operation : String) (body : Transaction α) (e : Engine) :
    (∃ a db, body e.database = .ok (a, db) ∧
      transactCleaning operation body e = (.ok a, { e with database := db })) ∨
    ∃ cause, transactCleaning operation body e = e.failed operation cause := by
  cases hf : e.obstacle? e.service.cleaning with
  | some fault => exact .inr ⟨_, transactOn_of_obstacle hf⟩
  | none =>
    cases hb : body e.database with
    | error cause => exact .inr ⟨cause, transactOn_of_error hf hb⟩
    | ok result => exact .inl ⟨result.1, result.2, rfl, transactOn_of_ok hf hb⟩

theorem raised_of_advanceWatermark_ok {id : ValidatorId} {window : Retention} {db db' : Database} {w : Watermark}
    (hm : db.missing = []) (hw : db.tables.WellFormed) (h : Prune.advanceWatermark id window db = .ok (w, db')) :
    db' = { db with tables := raised db.tables id window } ∧ w.Reached id (raised db.tables id window) := by
  obtain ⟨t', hdb, hfloor, -⟩ := of_advanceWatermark_ok h
  obtain rfl : t' = raised db.tables id window := by
    rw [advanceWatermark_apply hm hw] at h
    unfold raised
    split at h
    · rename_i he
      obtain ⟨-, rfl⟩ := Prod.mk.inj (Except.ok.inj h)
      rw [if_pos he]
      exact (congrArg Database.tables hdb).symm
    · rename_i he
      split at h
      · cases h
      · obtain ⟨-, rfl⟩ := Prod.mk.inj (Except.ok.inj h)
        rw [if_neg he]
        exact (congrArg Database.tables hdb).symm
  refine ⟨hdb, ?_, ?_⟩
  · rw [hfloor]
    exact Int.le_refl _
  · rw [hfloor]
    exact Int.le_refl _

/-- What a transaction of a run comes to. It fails and does nothing, or it changes the tables as pruning does, and
the run keeps account of what it deletes until that is counted. -/
inductive PruneRun.Proceeds (run : PruneRun) (e : Engine) :
    Except ProtectionError (PruneRun ⊕ PruneReport) × Engine → Prop
  | failed (operation : String) (cause : StorageError) : Proceeds run e (e.failed operation cause)
  | goesOn (run' : PruneRun) {t' : Tables} (ht : Trim e.tables t') (hs : run'.Safe t')
      (hrows : ∀ table ∈ Table.signed,
        t'.size table + run'.report.deleted table = e.tables.size table + run.report.deleted table) :
      Proceeds run e (.ok (.inl run'), e.withTables t')
  | done (report : PruneReport) {t' : Tables} (ht : Trim e.tables t')
      (hrows : ∀ table ∈ Table.signed,
        t'.size table + report.deleted table = e.tables.size table + run.report.deleted table) :
      Proceeds run e (.ok (.inr report), { e.withTables t' with metrics := report.counted e.metrics })

namespace PruneRun

theorem raise_proceeds (hs : e.Sound h) (run : PruneRun) : run.Proceeds e (run.raise e) := by
  unfold raise
  rcases transactCleaning_cases "prune_watermark" (Prune.advanceWatermark run.id run.window) e with
    ⟨w, db, hb, ht⟩ | ⟨cause, ht⟩
  · obtain ⟨rfl, hreached⟩ := raised_of_advanceWatermark_ok hs.installed hs.guards.wellFormed hb
    obtain ⟨-, -, hblocks, hattestations⟩ := raised_rest e.database.tables run.id run.window
    rw [Request.bind_of_ok ht]
    refine .goesOn _ (.raise run.id run.window) (fun w' hw' => ?_) fun table hm => ?_
    · cases hw'
      exact hreached
    · rw [size_congr hblocks hattestations table hm]
      rfl
  · rw [Request.bind_of_error ht]
    exact .failed _ _

theorem deleteBlocks_proceeds {w : Watermark} (hw : w.Reached run.id e.tables) (hstage : run.stage = .blocks w) :
    run.Proceeds e (run.deleteBlocks w e) := by
  unfold deleteBlocks
  rw [Request.get_bind]
  generalize max 1 e.service.pruning.batchSize = batch
  rcases transactCleaning_cases "prune_blocks" (Transaction.deleteBlocks run.id w.slot batch) e with
    ⟨n, db, hb, ht⟩ | ⟨cause, ht⟩
  · have hsize := size_of_deleteBlocks hb
    obtain rfl := of_deleteBlocks_ok hb
    have hforgets := forgets_withoutBlocks batch hw.slot
    have hreached := hw.rises (Quiet.trim (.forget hforgets)).rises
    have hrows : ∀ table ∈ Table.signed, (withoutBlocks e.tables run.id w.slot batch).size table +
        ({ run.report with deletedBlocks := run.report.deletedBlocks + n } : PruneReport).deleted table =
          e.tables.size table + run.report.deleted table := by
      refine forall_signed.mpr ⟨?_, rfl⟩
      dsimp only [Tables.size, PruneReport.deleted, Engine.tables] at hsize ⊢
      omega
    rw [Request.bind_of_ok ht]
    dsimp only
    split
    · refine .goesOn _ (.forget hforgets) (fun w' hw' => ?_) hrows
      cases hw'
      exact hreached
    · refine .goesOn _ (.forget hforgets) (fun w' hw' => ?_) hrows
      rw [hstage] at hw'
      cases hw'
      exact hreached
  · rw [Request.bind_of_error ht]
    exact .failed _ _

theorem deleteAttestations_proceeds {w : Watermark} (hw : w.Reached run.id e.tables)
    (hstage : run.stage = .attestations w) : run.Proceeds e (run.deleteAttestations w e) := by
  unfold deleteAttestations
  rw [Request.get_bind]
  generalize max 1 e.service.pruning.batchSize = batch
  rcases transactCleaning_cases "prune_attestations" (Transaction.deleteAttestations run.id w.target batch) e with
    ⟨n, db, hb, ht⟩ | ⟨cause, ht⟩
  · have hsize := size_of_deleteAttestations hb
    obtain rfl := of_deleteAttestations_ok hb
    have hforgets := forgets_withoutAttestations batch hw.target
    have hrows : ∀ table ∈ Table.signed, (withoutAttestations e.tables run.id w.target batch).size table +
        ({ run.report with deletedAttestations := run.report.deletedAttestations + n } : PruneReport).deleted table =
          e.tables.size table + run.report.deleted table := by
      refine forall_signed.mpr ⟨rfl, ?_⟩
      dsimp only [Tables.size, PruneReport.deleted, Engine.tables] at hsize ⊢
      omega
    rw [Request.bind_of_ok ht]
    dsimp only
    split
    · exact .done _ (.forget hforgets) hrows
    · refine .goesOn _ (.forget hforgets) (fun w' hw' => ?_) hrows
      rw [hstage] at hw'
      cases hw'
      exact hw.rises (Quiet.trim (.forget hforgets)).rises
  · rw [Request.bind_of_error ht]
    exact .failed _ _

theorem next_proceeds (hs : e.Sound h) (hsafe : run.Safe e.tables) : run.Proceeds e (run.next e) := by
  unfold next
  cases hstage : run.stage with
  | raise => exact raise_proceeds hs run
  | blocks w => exact deleteBlocks_proceeds (hsafe w (by rw [hstage]; rfl)) hstage
  | attestations w => exact deleteAttestations_proceeds (hsafe w (by rw [hstage]; rfl)) hstage

end PruneRun

theorem balance_failed {α : Type} (operation : String) (cause : StorageError) (table : Table) :
    ((e.failed operation cause : Except ProtectionError α × Engine).2).balance table = e.balance table :=
  congrArg (e.tables.size table + ·) (count_countRetries _ _ _ (by simp [Series.pruned]))

theorem count_counted (report : PruneReport) (metrics : Metrics) :
    (report.counted metrics).count (.pruned Table.signedBlocks.name) =
        metrics.count (.pruned Table.signedBlocks.name) + report.deletedBlocks ∧
      (report.counted metrics).count (.pruned Table.signedAttestations.name) =
        metrics.count (.pruned Table.signedAttestations.name) + report.deletedAttestations := by
  have hne : Series.pruned Table.signedBlocks.name ≠ .pruned Table.signedAttestations.name := by decide
  constructor
  · simp only [PruneReport.counted, Metrics.count_add, if_true, if_neg hne, Nat.add_zero]
  · simp only [PruneReport.counted, Metrics.count_add, if_true, if_neg hne.symm, Nat.add_zero]

theorem balance_counted (report : PruneReport) (t' : Tables) : ∀ table ∈ Table.signed,
    ({ e.withTables t' with metrics := report.counted e.metrics } : Engine).balance table =
      t'.size table + e.metrics.count (.pruned table.name) + report.deleted table := by
  obtain ⟨hblocks, hattestations⟩ := count_counted report e.metrics
  refine forall_signed.mpr ⟨?_, ?_⟩
  · exact (congrArg (t'.size .signedBlocks + ·) hblocks).trans (Nat.add_assoc ..).symm
  · exact (congrArg (t'.size .signedAttestations + ·) hattestations).trans (Nat.add_assoc ..).symm

namespace PruneTask

/-- What a transaction of a request leaves. The rows that are there and those that were deleted, counted or not, are
as many as before. -/
structure Proceeds (task : PruneTask) (e : Engine) (result : Except ProtectionError (PruneTask ⊕ PruneReport) × Engine) :
    Prop where
  trims : Relation.ReflTransGen Trim e.tables result.2.tables
  same : result.2 = { e.withTables result.2.tables with metrics := result.2.metrics }
  safe : ∀ task' ∈ left result.1, task'.Safe result.2.tables
  rows : ∀ table ∈ Table.signed,
    result.2.balance table + ((left result.1).map (·.pending table)).sum + task.lost table result.1 =
      e.balance table + task.pending table
  spares : ∀ s : Series, s.family ∉ [Family.retries, .pruned] → result.2.metrics.count s = e.metrics.count s

theorem failed_proceeds (task : PruneTask) (e : Engine) (operation : String) (cause : StorageError) :
    task.Proceeds e (e.failed operation cause) where
  trims := .refl
  same := rfl
  safe _ hm := by cases hm
  rows table _ := congrArg (· + task.pending table) (balance_failed operation cause table)
  spares s hs := count_countRetries _ _ _ fun h => hs (by simp [h])

def Begins (task : PruneTask) : Prop := (∀ table, task.pending table = 0) ∧ ∀ t, task.Safe t

theorem begins_of_run? {id : ValidatorId} {window : Retention} (h : task.run? = some { id, window }) : task.Begins := by
  refine ⟨fun table => ?_, fun t run hrun => ?_⟩
  · rw [pending, h]
    cases table <;> rfl
  · rw [h] at hrun
    cases hrun
    exact fun w hw => by cases hw

theorem begins_of_turn {window : Retention} {total : PruneReport} {ids : List ValidatorId}
    (h : turn window total ids = .inl task) : task.Begins := by
  cases ids with
  | nil => cases h
  | cons id rest =>
    cases h
    exact begins_of_run? rfl

theorem begins_of_task? {op : Operation} (h : op.task? = some task) : task.Begins := by
  cases op with
  | prune id window =>
    cases h
    exact begins_of_run? rfl
  | pruneAll window =>
    cases h
    exact ⟨fun _ => rfl, fun _ _ hrun => by cases hrun⟩
  | _ => cases h

theorem prunes_of_task? {op : Operation} (h : op.task? = none) : op.prunes = false := by
  cases op with
  | prune id window => cases h
  | pruneAll window => cases h
  | _ => rfl

theorem safe_left {next? : PruneTask ⊕ PruneReport} (h : ∀ task, next? = .inl task → task.Begins) (t : Tables) :
    ∀ task ∈ left (.ok next?), task.Safe t := by
  intro task hm
  cases next? with
  | inl other =>
    obtain rfl := List.mem_singleton.mp hm
    exact (h task rfl).2 t
  | inr report => cases hm

theorem pending_left {next? : PruneTask ⊕ PruneReport} (h : ∀ task, next? = .inl task → task.Begins) (table : Table) :
    ((left (.ok next?)).map (·.pending table)).sum = 0 := by
  cases next? with
  | inl task => exact (Nat.add_zero _).trans ((h task rfl).1 table)
  | inr report => rfl

theorem within_proceeds (form : PruneRun → PruneTask) (after : PruneReport → PruneTask ⊕ PruneReport)
    (hform : ∀ run, (form run).run? = some run) (hafter : ∀ report task', after report = .inl task' → task'.Begins)
    (hrun : run.Proceeds e (run.next e)) : (form run).Proceeds e (run.within form after e) := by
  have hpending (run : PruneRun) (table : Table) : (form run).pending table = run.report.deleted table := by
    rw [pending, hform]
    rfl
  rw [within_apply]
  generalize run.next e = result at hrun
  cases hrun with
  | failed operation cause => exact failed_proceeds (form run) e operation cause
  | goesOn run' ht hs hrows =>
    refine ⟨.single ht, rfl, fun task' hm => ?_, fun table hm => ?_, fun _ _ => rfl⟩
    · obtain rfl := List.mem_singleton.mp hm
      intro other hother
      rw [hform] at hother
      cases hother
      exact hs
    · have hsum := hrows table hm
      simp only [Except.map, Sum.elim_inl, left, lost, List.map_cons, List.map_nil, List.sum_singleton, hpending,
        Engine.balance, Engine.tables] at hsum ⊢
      omega
  | done report ht hrows =>
    refine ⟨.single ht, rfl, safe_left (hafter report) _, fun table hm => ?_, fun s hs => ?_⟩
    · have hsum := hrows table hm
      refine (congrArg (_ + · + 0) (pending_left (hafter report) table)).trans
        ((balance_counted (e := e) report _ table hm).trans ?_)
      rw [hpending]
      dsimp only [Engine.balance]
      omega
    · have hne (name : String) : s ≠ .pruned name := fun h => hs (by simp [h, Series.pruned])
      simp [PruneReport.counted, Metrics.count_add, hne]

theorem all_proceeds (hs : e.Sound h) (window : Retention) : (all window).Proceeds e ((all window).next e) := by
  obtain ⟨metrics, hids⟩ := @allIds_effect e hs.installed
  have hspares : Request.Spares [.retries] Request.allIds :=
    Request.spares_transactOn (List.mem_singleton_self _) _ _ _
  have hbalance := hspares.balance (e := e) Request.keeps_allIds
  have hcount (s : Series) (hm : s.family ∉ [Family.retries, .pruned]) :=
    hspares e s fun h => hm (by simp [List.mem_singleton.mp h])
  change (all window).Proceeds e ((Request.allIds >>= fun ids => pure (turn window {} ids)) e)
  cases ho : Request.allIds e with
  | mk outcome e' =>
    rw [ho] at hids hbalance hcount
    obtain rfl : e' = { e with metrics } := hids
    cases outcome with
    | error cause =>
      rw [Request.bind_of_error ho]
      exact ⟨.refl, rfl, fun _ hm => (by cases hm), hbalance, hcount⟩
    | ok ids =>
      rw [Request.bind_of_ok ho]
      have hbegins (task : PruneTask) (ht : turn window {} ids = .inl task) : task.Begins := begins_of_turn ht
      refine ⟨.refl, rfl, safe_left hbegins _, fun table hm => ?_, hcount⟩
      exact (congrArg (_ + · + 0) (pending_left hbegins table)).trans (hbalance table hm)

theorem next_proceeds (hs : e.Sound h) (hsafe : task.Safe e.tables) : task.Proceeds e (task.next e) := by
  cases task with
  | single run => exact within_proceeds single .inr (fun _ => rfl) (fun _ _ h => by cases h) (run.next_proceeds hs (hsafe run rfl))
  | all window => exact all_proceeds hs window
  | each window total run rest =>
    exact within_proceeds (each window total · rest) (fun report => turn window (total.merge report) rest)
      (fun _ => rfl) (fun _ _ h => begins_of_turn h) (run.next_proceeds hs (hsafe run rfl))

end PruneTask
end Disturbed
end ValidatorSigner.Protection
