import Mathlib.Order.Defs.Unbundled
import ValidatorSigner.Proofs.Protection.Journal

/-! # Requests as sequences of changes

Every request is made of a few kinds of changes to the tables. A preorder that relates the databases before and
after each of these changes relates those before and after the whole request, whatever the tables hold and
however the request ends.
-/
namespace ValidatorSigner.Store.Transaction
open Protection
variable {α β : Type}

/-- Where it succeeds, a transaction leads from a database to a related one. -/
def Relates (R : Database → Database → Prop) (x : Transaction α) : Prop := ∀ db a db', x db = .ok (a, db') → R db db'

variable {R : Database → Database → Prop}

theorem relates_writing (table : Table) {write : Tables → Except StorageError (α × Tables)}
    (hw : ∀ db a t, write db.tables = .ok (a, t) → R db { db with tables := t }) :
    Relates R (writing table write) := by
  intro db a db' h
  obtain ⟨-, -, t, hr, rfl⟩ := of_writing_ok h
  exact hw db a t hr

variable [IsPreorder Database R]

theorem relates_pure (a : α) : Relates R (pure a : Transaction α) := by
  intro db b db' h
  cases h
  exact refl_of R db

theorem relates_lift (x : Except StorageError α) : Relates R (lift x) := by
  intro db a db' h
  obtain ⟨-, rfl⟩ := of_lift_ok h
  exact refl_of R db

theorem relates_reading (table : Table) (read : Tables → Except StorageError α) : Relates R (reading table read) := by
  intro db a db' h
  obtain ⟨-, -, rfl⟩ := of_reading_ok h
  exact refl_of R db

theorem Relates.bind {x : Transaction α} {f : α → Transaction β} (hx : Relates R x) (hf : ∀ a, Relates R (f a)) :
    Relates R (x >>= f) := by
  intro db b db' h
  obtain ⟨a, db₁, ha, hb⟩ := of_bind_ok h
  exact trans_of R (hx db a db₁ ha) (hf a db₁ b db' hb)

theorem relates_insertUnless (table : Table) {fault? : Tables → Option DatabaseFault} {add : Tables → Tables}
    (ha : ∀ db, fault? db.tables = none → R db { db with tables := add db.tables }) :
    Relates R (insertUnless table fault? add) := by
  intro db outcome db' h
  obtain ⟨-, -, ⟨-, hf, rfl⟩ | ⟨-, -, rfl⟩⟩ := of_insertUnless_ok h
  · exact ha db hf
  · exact refl_of R db

theorem relates_mapM {f : α → Transaction β} (hf : ∀ a, Relates R (f a)) (xs : List α) : Relates R (xs.mapM f) := by
  induction xs with
  | nil => exact relates_pure []
  | cons a rest ih =>
    rw [List.mapM_cons]
    exact (hf a).bind fun b => ih.bind fun bs => relates_pure (b :: bs)

theorem relates_registerValidator
    (henrol : ∀ db key, db.tables.idOf key = none → R db { db with tables := db.tables.addValidator key })
    (key : PublicKey) : Relates R (registerValidator key) := by
  unfold registerValidator
  have hinsert : Relates R (insertValidator key) := by
    refine relates_insertUnless _ fun db hf => henrol db key ?_
    cases hk : db.tables.idOf key with
    | none => rfl
    | some id => simp [hk] at hf
  refine hinsert.bind fun _ => (relates_reading _ _).bind fun found => ?_
  cases found with
  | none => exact relates_lift _
  | some id => exact relates_pure id

theorem relates_checkGenesis {root : Root}
    (hbind : ∀ db, db.tables.genesis = none → R db { db with tables := bound db.tables root }) :
    Relates R (Decide.checkGenesis root) := by
  unfold Decide.checkGenesis
  have hinsert : Relates R (insertGenesis root) := by
    refine relates_insertUnless _ fun db hf => hbind db ?_
    cases hg : db.tables.genesis with
    | none => rfl
    | some bytes => simp [hg] at hf
  refine (relates_reading _ _).bind fun found => ?_
  cases found with
  | some recorded => exact relates_pure _
  | none =>
    refine hinsert.bind fun outcome => ?_
    cases outcome with
    | inserted => exact relates_pure _
    | conflict =>
      refine (relates_reading _ _).bind fun found => ?_
      cases found with
      | some recorded => exact relates_pure _
      | none => exact relates_lift _

variable {genesis : Option Root}

theorem relates_guardChain
    (hbind : ∀ root ∈ genesis, ∀ db, db.tables.genesis = none → R db { db with tables := bound db.tables root }) :
    Relates R (Decide.guardChain genesis) := by
  cases genesis with
  | none => exact relates_pure true
  | some root => exact relates_checkGenesis (hbind root rfl)

theorem relates_block
    (hbind : ∀ root ∈ genesis, ∀ db, db.tables.genesis = none → R db { db with tables := bound db.tables root })
    (hadd : ∀ db row, R db { db with tables := db.tables.addBlock row }) (c : BlockProposal) :
    Relates R (Decide.block genesis c) := by
  unfold Decide.block
  have hfind : Relates R (findBlock c.validator c.slot) := (relates_lift _).bind fun _ => relates_reading _ _
  have hinsert : Relates R (insertBlock c) :=
    (relates_lift _).bind fun _ => relates_insertUnless _ fun db _ => hadd db _
  refine (relates_guardChain hbind).bind fun belongs => ?_
  split
  · exact relates_pure _
  · refine (relates_reading _ _).bind fun watermark => hfind.bind fun existing => ?_
    cases checkBlock c watermark existing with
    | alreadySigned => exact relates_pure _
    | refuse reason => exact relates_pure _
    | record =>
      refine hinsert.bind fun outcome => ?_
      cases outcome with
      | inserted => exact relates_pure _
      | conflict => exact relates_pure _

theorem relates_gatherEvidence (c : Attestation) : Relates R (Decide.gatherEvidence c) := by
  have hsame : Relates R (findAttestations c.validator c.target) := (relates_lift _).bind fun _ => relates_reading _ _
  have henclosing : Relates R (findEnclosing c.validator c.source c.target) :=
    (relates_lift _).bind fun _ => (relates_lift _).bind fun _ => relates_reading _ _
  have henclosed : Relates R (findEnclosed c.validator c.source c.target) :=
    (relates_lift _).bind fun _ => (relates_lift _).bind fun _ => relates_reading _ _
  exact hsame.bind fun _ => henclosing.bind fun _ => henclosed.bind fun _ => relates_pure _

theorem relates_attestation
    (hbind : ∀ root ∈ genesis, ∀ db, db.tables.genesis = none → R db { db with tables := bound db.tables root })
    (hadd : ∀ db row, R db { db with tables := db.tables.addAttestation row }) (c : Attestation) :
    Relates R (Decide.attestation genesis c) := by
  unfold Decide.attestation
  have hinsert : Relates R (insertAttestation c) :=
    (relates_lift _).bind fun _ => (relates_lift _).bind fun _ => relates_insertUnless _ fun db _ => hadd db _
  refine (relates_guardChain hbind).bind fun belongs => ?_
  split
  · exact relates_pure _
  · refine (relates_reading _ _).bind fun watermark => (relates_gatherEvidence c).bind fun evidence => ?_
    cases checkAttestation c watermark evidence with
    | alreadySigned => exact relates_pure _
    | refuse reason => exact relates_pure _
    | record =>
      refine hinsert.bind fun outcome => ?_
      cases outcome with
      | inserted => exact relates_pure _
      | conflict => exact relates_pure _

theorem relates_slotToKeep (id : ValidatorId) (window : Retention) : Relates R (Prune.slotToKeep id window) := by
  unfold Prune.slotToKeep
  refine (relates_reading _ _).bind fun highest => ?_
  cases highest with
  | none => exact relates_pure none
  | some highest => exact (relates_lift _).bind fun _ => relates_reading _ _

theorem relates_attestationToKeep (id : ValidatorId) (window : Retention) :
    Relates R (Prune.attestationToKeep id window) := by
  unfold Prune.attestationToKeep
  refine (relates_reading _ _).bind fun highest => ?_
  cases highest with
  | none => exact relates_pure none
  | some highest => exact (relates_lift _).bind fun _ => relates_reading _ _

theorem relates_raiseWatermark (hput : ∀ db row, R db { db with tables := db.tables.putWatermark row })
    (w : Watermark) : Relates R (raiseWatermark w) := by
  unfold raiseWatermark
  refine (relates_lift _).bind fun slot => (relates_lift _).bind fun source => (relates_lift _).bind fun target => ?_
  refine relates_writing _ fun db _ t h => ?_
  split at h
  · cases h
    exact hput db _
  · split at h
    · cases h
      exact hput db _
    · cases h

theorem relates_advanceWatermark (hput : ∀ db row, R db { db with tables := db.tables.putWatermark row })
    (id : ValidatorId) (window : Retention) : Relates R (Prune.advanceWatermark id window) := by
  unfold Prune.advanceWatermark
  refine (relates_reading _ _).bind fun current => (relates_slotToKeep id window).bind fun slot =>
    (relates_attestationToKeep id window).bind fun pair => ?_
  dsimp only
  split
  · exact (relates_raiseWatermark hput _).bind fun _ => relates_pure _
  · exact relates_pure _

omit [IsPreorder Database R] in
theorem relates_deleteBlocks {id : ValidatorId} {below limit : Nat}
    (hforget : ∀ db, R db { db with tables := withoutBlocks db.tables id below limit }) :
    Relates R (deleteBlocks id below limit) := by
  intro db n db' h
  rw [of_deleteBlocks_ok h]
  exact hforget db

omit [IsPreorder Database R] in
theorem relates_deleteAttestations {id : ValidatorId} {below limit : Nat}
    (hforget : ∀ db, R db { db with tables := withoutAttestations db.tables id below limit }) :
    Relates R (deleteAttestations id below limit) := by
  intro db n db' h
  rw [of_deleteAttestations_ok h]
  exact hforget db

end ValidatorSigner.Store.Transaction

namespace ValidatorSigner.Protection
open Store Telemetry

namespace Request
variable {α β : Type} {R : Database → Database → Prop}

def Relates (R : Database → Database → Prop) (x : Request α) : Prop := ∀ e, R e.database (x e).2.database

variable [IsPreorder Database R]

theorem relates_pure (a : α) : Relates R (pure a : Request α) := fun e => refl_of R e.database

theorem Relates.bind {x : Request α} {f : α → Request β} (hx : Relates R x) (hf : ∀ a, Relates R (f a)) :
    Relates R (x >>= f) := by
  intro e
  have hfirst := hx e
  cases hr : x e with
  | mk outcome e' =>
    rw [hr] at hfirst
    cases outcome with
    | error cause =>
      rw [bind_of_error hr]
      exact hfirst
    | ok a =>
      rw [bind_of_ok hr]
      exact trans_of R hfirst (hf a e')

theorem relates_transactOn {pool : Service → Pool} {operation : String} {body : Transaction α}
    (hb : Transaction.Relates R body) : Relates R (transactOn pool operation fun _ => body) := by
  intro e
  rcases transactOn_cases pool operation body e with ⟨a, db, ho, hr⟩ | ⟨cause, metrics, hr⟩
  · rw [hr]
    exact hb _ _ _ ho
  · rw [hr]
    exact refl_of R e.database

theorem relates_counted (artifact : Artifact) (d : Decision) : Relates R (counted artifact d) := by
  intro e
  obtain ⟨metrics, hd⟩ := counted_apply artifact d e
  rw [hd]
  exact refl_of R e.database

theorem Relates.answered {x : Request α} (hx : Relates R x) (form : α → Answer) :
    Relates R (Request.answered form x) := hx.bind fun a => relates_pure (form a)

theorem relates_resolveValidator
    (henrol : ∀ db key, db.tables.idOf key = none → R db { db with tables := db.tables.addValidator key })
    (key : PublicKey) : Relates R (resolveValidator key) := by
  have hregister : Relates R (transact "resolve_validator" (Transaction.registerValidator key)) :=
    relates_transactOn (Transaction.relates_registerValidator henrol key)
  intro e
  unfold resolveValidator
  rw [get_bind]
  cases e.service.known? key with
  | some id => exact refl_of R e.database
  | none => exact (hregister.bind fun _ e => refl_of R e.database) e

theorem relates_registerValidators
    (henrol : ∀ db key, db.tables.idOf key = none → R db { db with tables := db.tables.addValidator key })
    (keys : List PublicKey) : Relates R (registerValidators keys) := by
  refine (relates_transactOn (Transaction.relates_mapM (Transaction.relates_registerValidator henrol) keys)).bind
    fun ids e => ?_
  rw [bind_of_ok (rememberAll_apply _ _)]
  exact refl_of R e.database

theorem relates_validatorId (key : PublicKey) : Relates R (validatorId key) := by
  have hfind : Relates R (transact "find_validator" (Transaction.findValidator key)) :=
    relates_transactOn (Transaction.relates_reading _ _)
  intro e
  unfold validatorId
  rw [get_bind]
  cases e.service.known? key with
  | some id => exact refl_of R e.database
  | none =>
    refine (hfind.bind fun found => ?_) e
    cases found with
    | some id => exact fun e => refl_of R e.database
    | none => exact relates_pure none

theorem relates_allIds : Relates R allIds := relates_transactOn (Transaction.relates_reading _ _)

theorem relates_genesisExists : Relates R genesisExists :=
  relates_transactOn ((Transaction.relates_reading _ _).bind fun _ => Transaction.relates_pure _)

theorem relates_checkGenesis {root : Root}
    (hbind : ∀ db, db.tables.genesis = none → R db { db with tables := bound db.tables root }) :
    Relates R (checkGenesis root) := relates_transactOn (Transaction.relates_checkGenesis hbind)

section Decisions
variable {genesis : Option Root}

theorem relates_maySignBlock
    (hbind : ∀ root ∈ genesis, ∀ db, db.tables.genesis = none → R db { db with tables := bound db.tables root })
    (hadd : ∀ db row, R db { db with tables := db.tables.addBlock row }) (c : BlockProposal) :
    Relates R (maySignBlock genesis c) :=
  (relates_transactOn (Transaction.relates_block hbind hadd c)).bind fun d => relates_counted .block d

theorem relates_maySignAttestation
    (hbind : ∀ root ∈ genesis, ∀ db, db.tables.genesis = none → R db { db with tables := bound db.tables root })
    (hadd : ∀ db row, R db { db with tables := db.tables.addAttestation row }) (c : Attestation) :
    Relates R (maySignAttestation genesis c) := by
  unfold maySignAttestation
  split
  · exact relates_counted _ _
  · exact (relates_transactOn (Transaction.relates_attestation hbind hadd c)).bind fun d =>
      relates_counted .attestation d

end Decisions

theorem relates_deleteBatches (operation : String) (batch total : Nat) {delete : Transaction Nat}
    (hd : Transaction.Relates R delete) (rounds : Nat) :
    Relates R (deleteBatches operation batch delete total rounds) := by
  induction rounds generalizing total with
  | zero => exact relates_pure total
  | succ rounds ih =>
    unfold deleteBatches
    refine (relates_transactOn hd).bind fun deleted => ?_
    split
    · exact relates_pure _
    · exact ih (total + deleted)

theorem relates_sweep (rounds : Rounds) {id : ValidatorId} {batch : Nat} {watermark : Watermark}
    (hblocks : ∀ db, R db { db with tables := withoutBlocks db.tables id watermark.slot batch })
    (hattestations : ∀ db, R db { db with tables := withoutAttestations db.tables id watermark.target batch }) :
    Relates R (sweep rounds id batch watermark) := by
  have hb := Transaction.relates_deleteBlocks hblocks
  have ha := Transaction.relates_deleteAttestations hattestations
  intro e
  unfold sweep
  rw [get_bind]
  refine ((relates_deleteBatches _ batch 0 hb _).bind fun blocks e => ?_) e
  rw [get_bind]
  refine ((relates_deleteBatches _ batch 0 ha _).bind fun attestations e => ?_) e
  exact refl_of R e.database

section Pruning
variable (hput : ∀ db row, R db { db with tables := db.tables.putWatermark row })
  (hblocks : ∀ db id below limit, R db { db with tables := withoutBlocks db.tables id below limit })
  (hattestations : ∀ db id below limit, R db { db with tables := withoutAttestations db.tables id below limit })
include hput hblocks hattestations

theorem relates_pruneWithin (rounds : Rounds) (id : ValidatorId) (window : Retention) :
    Relates R (pruneWithin rounds id window) := by
  intro e
  unfold pruneWithin
  rw [get_bind]
  exact ((relates_transactOn (Transaction.relates_advanceWatermark hput id window)).bind fun watermark =>
    relates_sweep rounds (hblocks · id _ _) (hattestations · id _ _)) e

theorem relates_pruneEachWithin (rounds : ValidatorId → Rounds) (window : Retention) (total : PruneReport)
    (ids : List ValidatorId) : Relates R (pruneEachWithin rounds window total ids) := by
  induction ids generalizing total with
  | nil => exact relates_pure total
  | cons id rest ih =>
    exact (relates_pruneWithin hput hblocks hattestations (rounds id) id window).bind fun report =>
      ih (total.merge report)

theorem relates_pruneAllWithin (rounds : ValidatorId → Rounds) (window : Retention) :
    Relates R (pruneAllWithin rounds window) :=
  relates_allIds.bind fun ids => relates_pruneEachWithin hput hblocks hattestations rounds window {} ids

end Pruning
end Request

namespace Request
variable {α β : Type}

def Steady (x : Request α) : Prop := ∀ e, ∃ database metrics, (x e).2 = { e with database, metrics }

theorem steady_pure (a : α) : Steady (pure a : Request α) := fun e => ⟨e.database, e.metrics, rfl⟩

theorem Steady.bind {x : Request α} {f : α → Request β} (hx : Steady x) (hf : ∀ a, Steady (f a)) :
    Steady (x >>= f) := by
  intro e
  obtain ⟨db, metrics, he⟩ := hx e
  cases hr : x e with
  | mk outcome e' =>
    rw [hr] at he
    cases outcome with
    | error cause =>
      rw [bind_of_error hr]
      exact ⟨db, metrics, he⟩
    | ok a =>
      obtain ⟨db', metrics', he'⟩ := hf a e'
      rw [bind_of_ok hr, he']
      simp only at he
      rw [he]
      exact ⟨db', metrics', rfl⟩

theorem steady_transactOn (pool : Service → Pool) (operation : String) (body : Transaction α) :
    Steady (transactOn pool operation fun _ => body) := by
  intro e
  rcases transactOn_cases pool operation body e with ⟨a, db, -, hr⟩ | ⟨cause, metrics, hr⟩
  · exact ⟨db, e.metrics, by rw [hr]⟩
  · exact ⟨e.database, metrics, by rw [hr]⟩

theorem steady_transact (operation : String) (body : Transaction α) : Steady (transact operation body) :=
  steady_transactOn _ _ _

theorem steady_count (series : Series) (n : Nat) : Steady (count series n) := fun e =>
  ⟨e.database, e.metrics.add series n, rfl⟩

theorem steady_counted (artifact : Artifact) (d : Decision) : Steady (counted artifact d) := by
  intro e
  obtain ⟨metrics, hd⟩ := counted_apply artifact d e
  exact ⟨e.database, metrics, by rw [hd]⟩

theorem Steady.answered {x : Request α} (hx : Steady x) (form : α → Answer) : Steady (Request.answered form x) :=
  hx.bind fun a => steady_pure (form a)

theorem steady_maySignBlock (genesis : Option Root) (c : BlockProposal) : Steady (maySignBlock genesis c) :=
  (steady_transact _ _).bind fun d => steady_counted .block d

theorem steady_maySignAttestation (genesis : Option Root) (c : Attestation) :
    Steady (maySignAttestation genesis c) := by
  unfold maySignAttestation
  split
  · exact steady_counted _ _
  · exact (steady_transact _ _).bind fun d => steady_counted .attestation d

theorem steady_deleteBatches (operation : String) (batch total : Nat) (delete : Transaction Nat) (rounds : Nat) :
    Steady (deleteBatches operation batch delete total rounds) := by
  induction rounds generalizing total with
  | zero => exact steady_pure total
  | succ rounds ih =>
    unfold deleteBatches
    refine (steady_transactOn _ _ _).bind fun deleted => ?_
    split
    · exact steady_pure _
    · exact ih (total + deleted)

theorem steady_sweep (rounds : Rounds) (id : ValidatorId) (batch : Nat) (watermark : Watermark) :
    Steady (sweep rounds id batch watermark) := by
  intro e
  unfold sweep
  rw [get_bind]
  refine ((steady_deleteBatches _ batch 0 _ _).bind fun blocks e => ?_) e
  rw [get_bind]
  exact ((steady_deleteBatches _ batch 0 _ _).bind fun attestations => (steady_count _ _).bind fun _ =>
    (steady_count _ _).bind fun _ => steady_pure _) e

theorem steady_pruneWithin (rounds : Rounds) (id : ValidatorId) (window : Retention) :
    Steady (pruneWithin rounds id window) := by
  intro e
  unfold pruneWithin
  rw [get_bind]
  exact ((steady_transactOn _ _ _).bind fun watermark => steady_sweep rounds id _ watermark) e

theorem steady_pruneEachWithin (rounds : ValidatorId → Rounds) (window : Retention) (total : PruneReport)
    (ids : List ValidatorId) : Steady (pruneEachWithin rounds window total ids) := by
  induction ids generalizing total with
  | nil => exact steady_pure total
  | cons id rest ih => exact (steady_pruneWithin (rounds id) id window).bind fun report => ih (total.merge report)

end Request

structure Covers (R : Database → Database → Prop) : Prop where
  enrol : ∀ db key, db.tables.idOf key = none → R db { db with tables := db.tables.addValidator key }
  bind : ∀ root db, db.tables.genesis = none → R db { db with tables := bound db.tables root }
  addBlock : ∀ db row, R db { db with tables := db.tables.addBlock row }
  addAttestation : ∀ db row, R db { db with tables := db.tables.addAttestation row }
  putWatermark : ∀ db row, R db { db with tables := db.tables.putWatermark row }
  forgetBlocks : ∀ db id below limit, R db { db with tables := withoutBlocks db.tables id below limit }
  forgetAttestations : ∀ db id below limit, R db { db with tables := withoutAttestations db.tables id below limit }

theorem Covers.performWithin {R : Database → Database → Prop} [IsPreorder Database R] (hc : Covers R)
    (rounds : ValidatorId → Rounds) (op : Operation) : Request.Relates R (op.performWithin rounds) := by
  cases op with
  | resolveValidator key => exact (Request.relates_resolveValidator hc.enrol key).answered _
  | registerValidators keys => exact (Request.relates_registerValidators hc.enrol keys).answered _
  | validatorId key => exact (Request.relates_validatorId key).answered _
  | allIds => exact Request.relates_allIds.answered _
  | checkGenesis root => exact (Request.relates_checkGenesis (hc.bind root)).answered _
  | genesisExists => exact Request.relates_genesisExists.answered _
  | maySignBlock genesis c =>
    exact (Request.relates_maySignBlock (fun root _ => hc.bind root) hc.addBlock c).answered _
  | maySignAttestation genesis c =>
    exact (Request.relates_maySignAttestation (fun root _ => hc.bind root) hc.addAttestation c).answered _
  | prune id window =>
    exact (Request.relates_pruneWithin hc.putWatermark hc.forgetBlocks hc.forgetAttestations (rounds id) id
      window).answered _
  | pruneAll window =>
    exact (Request.relates_pruneAllWithin hc.putWatermark hc.forgetBlocks hc.forgetAttestations rounds
      window).answered _

/-- It holds across whole runs then. -/
theorem Covers.afterWithin {R : Database → Database → Prop} [IsPreorder Database R] (hc : Covers R) (run : Run)
    (script : List (Event × (ValidatorId → Rounds))) :
    R run.engine.database (run.afterWithin script).engine.database := by
  induction script generalizing run with
  | nil => exact refl_of R run.engine.database
  | cons step rest ih =>
    have hnext : R run.engine.database (run.next (·.performWithin step.2) step.1).engine.database := by
      cases step.1 with
      | request op => exact hc.performWithin step.2 op run.engine
      | restart service => exact refl_of R run.engine.database
      | disturb locked decisions cleaning => exact refl_of R run.engine.database
    exact trans_of R hnext (ih _)

end ValidatorSigner.Protection
