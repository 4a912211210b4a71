import ValidatorSigner.Proofs.Protection.Related

/-! # Numbers at hand

No request but a lookup of a key depends on the numbers at hand, and a number at hand is always the one on
record. So an engine that has lost numbers answers like one that has kept them, except where it cannot look up
again what the other one still knows.
-/
namespace ValidatorSigner.Protection
open Store Telemetry

/-- Engines that differ only in their counters and in their numbers at hand. -/
structure Beside (p r : Engine) : Prop where
  database : p.database = r.database
  locked : p.locked = r.locked
  service : p.service.opened = r.service.opened

theorem Beside.symm {p r : Engine} (h : Beside p r) : Beside r p := ⟨h.database.symm, h.locked.symm, h.service.symm⟩

theorem Beside.trans {p q r : Engine} (h₁ : Beside p q) (h₂ : Beside q r) : Beside p r :=
  ⟨h₁.database.trans h₂.database, h₁.locked.trans h₂.locked, h₁.service.trans h₂.service⟩

theorem Beside.retry {p r : Engine} (h : Beside p r) : p.service.retry = r.service.retry := by
  have hopened := congrArg Service.retry h.service
  exact hopened

theorem Beside.pruning {p r : Engine} (h : Beside p r) : p.service.pruning = r.service.pruning := by
  have hopened := congrArg Service.pruning h.service
  exact hopened

theorem beside_counted (e : Engine) (metrics : Metrics) : Beside e { e with metrics } := ⟨rfl, rfl, rfl⟩

theorem beside_remember (e : Engine) (key : PublicKey) (id : ValidatorId) :
    Beside e { e with service := e.service.remember key id } := ⟨rfl, rfl, rfl⟩

theorem beside_rememberAll (e : Engine) (pairs : List (PublicKey × ValidatorId)) :
    Beside e { e with service := e.service.rememberAll pairs } := by
  refine ⟨rfl, rfl, ?_⟩
  dsimp only
  rw [rememberAll_rest]
  rfl

namespace Request
variable {α β : Type}

/-- A request that is answered alike whatever the counters and the numbers at hand. -/
def Oblivious (x : Request α) : Prop := ∀ p r, Beside p r → (x p).1 = (x r).1 ∧ Beside (x p).2 (x r).2

theorem oblivious_pure (a : α) : Oblivious (pure a : Request α) := fun _ _ h => ⟨rfl, h⟩

theorem Oblivious.bind {x : Request α} {f : α → Request β} (hx : Oblivious x) (hf : ∀ a, Oblivious (f a)) :
    Oblivious (x >>= f) := by
  intro p r h
  obtain ⟨hanswer, hbeside⟩ := hx p r h
  cases hp : x p with
  | mk outcome p' =>
    cases hr : x r with
    | mk outcome' r' =>
      rw [hp, hr] at hanswer hbeside
      obtain rfl : outcome = outcome' := hanswer
      cases outcome with
      | error cause =>
        rw [bind_of_error hp, bind_of_error hr]
        exact ⟨rfl, hbeside⟩
      | ok a =>
        rw [bind_of_ok hp, bind_of_ok hr]
        exact hf a p' r' hbeside

/-- What is read off an engine may be anything but its counters and numbers at hand. -/
theorem oblivious_get {f : Engine → Request α} (hsame : ∀ p r, Beside p r → f p = f r) (hf : ∀ e, Oblivious (f e)) :
    Oblivious ((get : Request Engine) >>= f) := by
  intro p r h
  rw [get_bind, get_bind, hsame p r h]
  exact hf r p r h

theorem oblivious_transactOn {pool : Service → Pool} (hpool : ∀ service, pool service.opened = pool service)
    (operation : String) (body : Transaction α) : Oblivious (transactOn pool operation fun _ => body) := by
  intro p r h
  have hsame : pool p.service = pool r.service := by rw [← hpool, h.service, hpool]
  have hobstacle : p.obstacle? (pool p.service) = r.obstacle? (pool r.service) := by
    simp only [Engine.obstacle?, hsame, h.locked, h.database]
  have hfailed (cause : StorageError) : (p.failed operation cause : Except ProtectionError α × Engine).1 =
      (r.failed operation cause).1 ∧
      Beside (p.failed operation cause : Except ProtectionError α × Engine).2
        (r.failed operation cause : Except ProtectionError α × Engine).2 := by
    simp only [Engine.failed, h.retry, true_and]
    exact ⟨h.database, h.locked, h.service⟩
  rw [transactOn_apply, transactOn_apply, hobstacle, h.database]
  split
  · exact hfailed _
  · exact hfailed _
  · exact ⟨rfl, rfl, h.locked, h.service⟩

theorem oblivious_transact (operation : String) (body : Transaction α) : Oblivious (transact operation body) :=
  oblivious_transactOn (fun _ => rfl) operation body

theorem oblivious_count (series : Series) (n : Nat) : Oblivious (count series n) := fun _ _ h =>
  ⟨rfl, h.database, h.locked, h.service⟩

theorem oblivious_counted (artifact : Artifact) (d : Decision) : Oblivious (counted artifact d) := by
  unfold counted
  cases d with
  | allow => exact (oblivious_count _ _).bind fun _ => oblivious_pure _
  | deny reason => exact (oblivious_count _ _).bind fun _ => oblivious_pure _

theorem Oblivious.answered {x : Request α} (hx : Oblivious x) (form : α → Answer) :
    Oblivious (Request.answered form x) := hx.bind fun a => oblivious_pure (form a)

theorem oblivious_registerValidators (keys : List PublicKey) : Oblivious (registerValidators keys) := by
  refine (oblivious_transact _ _).bind fun ids => Oblivious.bind ?_ fun _ => oblivious_pure ids
  intro p r h
  rw [rememberAll_apply, rememberAll_apply]
  exact ⟨rfl, ((beside_rememberAll p _).symm.trans h).trans (beside_rememberAll r _)⟩

theorem oblivious_maySignBlock (genesis : Option Root) (c : BlockProposal) : Oblivious (maySignBlock genesis c) :=
  (oblivious_transact _ _).bind fun d => oblivious_counted .block d

theorem oblivious_maySignAttestation (genesis : Option Root) (c : Attestation) :
    Oblivious (maySignAttestation genesis c) := by
  unfold maySignAttestation
  split
  · exact oblivious_counted _ _
  · exact (oblivious_transact _ _).bind fun d => oblivious_counted .attestation d

theorem oblivious_deleteBatches (operation : String) (batch total : Nat) (delete : Transaction Nat) (rounds : Nat) :
    Oblivious (deleteBatches operation batch delete total rounds) := by
  induction rounds generalizing total with
  | zero => exact oblivious_pure total
  | succ rounds ih =>
    unfold deleteBatches
    refine (oblivious_transactOn (fun _ => rfl) _ _).bind fun deleted => ?_
    split
    · exact oblivious_pure _
    · exact ih (total + deleted)

theorem oblivious_sweep (rounds : Rounds) (id : ValidatorId) (batch : Nat) (watermark : Watermark) :
    Oblivious (sweep rounds id batch watermark) := by
  refine oblivious_get (fun p r h => by rw [h.database]) fun e =>
    (oblivious_deleteBatches _ batch 0 _ _).bind fun blocks => ?_
  refine oblivious_get (fun p r h => by rw [h.database]) fun e =>
    (oblivious_deleteBatches _ batch 0 _ _).bind fun attestations => ?_
  exact (oblivious_count _ _).bind fun _ => (oblivious_count _ _).bind fun _ => oblivious_pure _

theorem oblivious_pruneWithin (rounds : Rounds) (id : ValidatorId) (window : Retention) :
    Oblivious (pruneWithin rounds id window) :=
  oblivious_get (fun p r h => by rw [h.pruning]) fun e =>
    (oblivious_transactOn (fun _ => rfl) _ _).bind fun watermark => oblivious_sweep rounds id _ watermark

theorem oblivious_pruneEachWithin (rounds : ValidatorId → Rounds) (window : Retention) (total : PruneReport)
    (ids : List ValidatorId) : Oblivious (pruneEachWithin rounds window total ids) := by
  induction ids generalizing total with
  | nil => exact oblivious_pure total
  | cons id rest ih => exact (oblivious_pruneWithin (rounds id) id window).bind fun report => ih (total.merge report)

end Request

/-- The key whose number a request looks up, and may find at hand. -/
def Operation.lookedUp? : Operation → Option PublicKey
  | .resolveValidator key => some key
  | .validatorId key => some key
  | _ => none

theorem oblivious_performWithin (rounds : ValidatorId → Rounds) {op : Operation} (ho : op.lookedUp? = none) :
    Request.Oblivious (op.performWithin rounds) := by
  cases op with
  | resolveValidator key => cases ho
  | validatorId key => cases ho
  | registerValidators keys => exact (Request.oblivious_registerValidators keys).answered _
  | allIds => exact (Request.oblivious_transact _ _).answered _
  | checkGenesis root => exact (Request.oblivious_transact _ _).answered _
  | genesisExists => exact (Request.oblivious_transact _ _).answered _
  | maySignBlock genesis c => exact (Request.oblivious_maySignBlock genesis c).answered _
  | maySignAttestation genesis c => exact (Request.oblivious_maySignAttestation genesis c).answered _
  | prune id window => exact (Request.oblivious_pruneWithin (rounds id) id window).answered _
  | pruneAll window =>
    exact ((Request.oblivious_transact _ _).bind fun ids =>
      Request.oblivious_pruneEachWithin rounds window {} ids).answered _

structure Carries (db db' : Database) : Prop where
  form : db' = { db with tables := db'.tables }
  version : db'.tables.version = db.tables.version
  idOf : ∀ {key id}, db.tables.idOf key = some id → db'.tables.idOf key = some id

instance isPreorder_carries : IsPreorder Database Carries where
  refl _ := ⟨rfl, rfl, id⟩
  trans db _ _ h₁ h₂ := by
    refine ⟨?_, h₂.version.trans h₁.version, fun hk => h₂.idOf (h₁.idOf hk)⟩
    rw [h₂.form, h₁.form]

theorem carries_enrol (db : Database) {key : PublicKey} (hn : db.tables.idOf key = none) :
    Carries db { db with tables := db.tables.addValidator key } := by
  refine ⟨rfl, rfl, fun {other} id ho => ?_⟩
  dsimp only
  rw [idOf_addValidator hn, if_neg]
  · exact ho
  · rintro rfl
    rw [hn] at ho
    cases ho

theorem covers_carries : Covers Carries where
  enrol db _ hn := carries_enrol db hn
  bind _ _ _ := ⟨rfl, rfl, id⟩
  addBlock _ _ := ⟨rfl, rfl, id⟩
  addAttestation _ _ := ⟨rfl, rfl, id⟩
  putWatermark _ _ := ⟨rfl, rfl, id⟩
  forgetBlocks _ _ _ _ := ⟨rfl, rfl, id⟩
  forgetAttestations _ _ _ _ := ⟨rfl, rfl, id⟩

def Operation.fetches : Operation → Bool
  | .resolveValidator _ => true
  | .registerValidators _ => true
  | .validatorId _ => true
  | _ => false

theorem steady_performWithin (rounds : ValidatorId → Rounds) {op : Operation} (ho : op.fetches = false) :
    Request.Steady (op.performWithin rounds) := by
  cases op with
  | resolveValidator key => cases ho
  | registerValidators keys => cases ho
  | validatorId key => cases ho
  | allIds => exact (Request.steady_transact _ _).answered _
  | checkGenesis root => exact (Request.steady_transact _ _).answered _
  | genesisExists => exact (Request.steady_transact _ _).answered _
  | maySignBlock genesis c => exact (Request.steady_maySignBlock genesis c).answered _
  | maySignAttestation genesis c => exact (Request.steady_maySignAttestation genesis c).answered _
  | prune id window => exact (Request.steady_pruneWithin (rounds id) id window).answered _
  | pruneAll window =>
    exact ((Request.steady_transact _ _).bind fun ids =>
      Request.steady_pruneEachWithin rounds window {} ids).answered _

def Service.OnRecord (service : Service) (db : Database) : Prop :=
  ∀ key id, service.known? key = some id → .validators ∉ db.missing ∧ db.tables.idOf key = some id

namespace Service.OnRecord
variable {service : Service} {db db' : Database}

theorem coherent (h : service.OnRecord db) : service.Coherent db.tables := fun key id hk => (h key id hk).2

theorem carries (h : service.OnRecord db) (hc : Carries db db') : service.OnRecord db' := by
  intro key id hk
  obtain ⟨hm, hid⟩ := h key id hk
  rw [hc.form]
  exact ⟨hm, hc.idOf hid⟩

theorem remember (h : service.OnRecord db) {key : PublicKey} {id : ValidatorId} (hm : .validators ∉ db.missing)
    (hid : db.tables.idOf key = some id) : (service.remember key id).OnRecord db := by
  intro other found hk
  rw [known?_remember] at hk
  by_cases he : other = key
  · rw [if_pos he] at hk
    cases hk
    exact ⟨hm, he ▸ hid⟩
  · rw [if_neg he] at hk
    exact h other found hk

theorem rememberAll (h : service.OnRecord db) {pairs : List (PublicKey × ValidatorId)}
    (hp : ∀ pair ∈ pairs, .validators ∉ db.missing ∧ db.tables.idOf pair.1 = some pair.2) :
    (service.rememberAll pairs).OnRecord db := by
  induction pairs generalizing service with
  | nil => exact h
  | cons pair rest ih =>
    obtain ⟨hm, hid⟩ := hp pair List.mem_cons_self
    exact ih (h.remember hm hid) fun other ho => hp other (List.mem_cons_of_mem _ ho)

end Service.OnRecord

section Registering
variable {db db' : Database}

theorem carries_registerValidator (key : PublicKey) :
    Transaction.Relates Carries (Transaction.registerValidator key) :=
  Transaction.relates_registerValidator (fun db _ hn => carries_enrol db hn) key

/-- Who registers a key reads its number back. -/
theorem onRecord_registerValidator {key : PublicKey} {id : ValidatorId}
    (h : Transaction.registerValidator key db = .ok (id, db')) :
    .validators ∉ db'.missing ∧ db'.tables.idOf key = some id := by
  obtain ⟨_, db₁, -, hread⟩ := Transaction.of_bind_ok h
  obtain ⟨found, db₂, hfind, hanswer⟩ := Transaction.of_bind_ok hread
  obtain ⟨hm, hid, rfl⟩ := findValidator_ok_iff.mp hfind
  cases found with
  | none => cases hanswer
  | some id =>
    cases hanswer
    exact ⟨hm, hid⟩

theorem onRecord_registerAll {keys : List PublicKey} {ids : List ValidatorId}
    (h : keys.mapM Transaction.registerValidator db = .ok (ids, db')) :
    ∀ pair ∈ keys.zip ids, .validators ∉ db'.missing ∧ db'.tables.idOf pair.1 = some pair.2 := by
  induction keys generalizing db ids with
  | nil =>
    intro pair hp
    cases hp
  | cons key rest ih =>
    rw [List.mapM_cons] at h
    obtain ⟨id, db₁, hfirst, hothers⟩ := Transaction.of_bind_ok h
    obtain ⟨ids', db₂, hrest, hanswer⟩ := Transaction.of_bind_ok hothers
    cases hanswer
    have hcarries := Transaction.relates_mapM carries_registerValidator rest _ _ _ hrest
    obtain ⟨hm, hid⟩ := onRecord_registerValidator hfirst
    intro pair hp
    rcases List.mem_cons.mp hp with rfl | hp
    · rw [hcarries.form]
      exact ⟨hm, hcarries.idOf hid⟩
    · exact ih hrest pair hp

end Registering

structure Engine.Retains (e e' : Engine) : Prop where
  service : e'.service.opened = e.service.opened
  onRecord : e.service.OnRecord e.database → e'.service.OnRecord e'.database

section Retaining
variable {e : Engine}

theorem retains_counted (e : Engine) (metrics : Metrics) : e.Retains { e with metrics } := ⟨rfl, id⟩

theorem retains_resolveValidator (key : PublicKey) : e.Retains (Request.resolveValidator key e).2 := by
  unfold Request.resolveValidator
  rw [Request.get_bind]
  cases e.service.known? key with
  | some known => exact ⟨rfl, id⟩
  | none =>
    dsimp only
    rcases transactOn_cases (·.decisions) "resolve_validator" (Transaction.registerValidator key) e with
      ⟨id, db', hbody, hr⟩ | ⟨cause, metrics, hr⟩
    · rw [Request.bind_of_ok (show transact _ _ e = _ from hr), Request.bind_of_ok (remember_apply _ _ _)]
      have hcarries := carries_registerValidator key _ _ _ hbody
      obtain ⟨hm, hid⟩ := onRecord_registerValidator hbody
      exact ⟨rfl, fun hrecord => (hrecord.carries hcarries).remember hm hid⟩
    · rw [Request.bind_of_error (show transact _ _ e = _ from hr)]
      exact retains_counted e metrics

theorem retains_registerValidators (keys : List PublicKey) : e.Retains (Request.registerValidators keys e).2 := by
  unfold Request.registerValidators
  rcases transactOn_cases (·.decisions) "register_validators" (keys.mapM Transaction.registerValidator) e with
    ⟨ids, db', hbody, hr⟩ | ⟨cause, metrics, hr⟩
  · rw [Request.bind_of_ok (show transact _ _ e = _ from hr), Request.bind_of_ok (rememberAll_apply _ _)]
    have hcarries := Transaction.relates_mapM carries_registerValidator keys _ _ _ hbody
    refine ⟨?_, fun hrecord => (hrecord.carries hcarries).rememberAll (onRecord_registerAll hbody)⟩
    exact (beside_rememberAll e _).service.symm
  · rw [Request.bind_of_error (show transact _ _ e = _ from hr)]
    exact retains_counted e metrics

theorem retains_validatorId (key : PublicKey) : e.Retains (Request.validatorId key e).2 := by
  unfold Request.validatorId
  rw [Request.get_bind]
  cases e.service.known? key with
  | some known => exact ⟨rfl, id⟩
  | none =>
    dsimp only
    rcases transactOn_cases (·.decisions) "find_validator" (Transaction.findValidator key) e with
      ⟨found, db', hbody, hr⟩ | ⟨cause, metrics, hr⟩
    · obtain ⟨hm, hid, rfl⟩ := findValidator_ok_iff.mp hbody
      rw [Request.bind_of_ok (show transact _ _ e = _ from hr)]
      cases found with
      | none => exact ⟨rfl, id⟩
      | some id => exact ⟨rfl, fun hrecord => hrecord.remember hm hid⟩
    · rw [Request.bind_of_error (show transact _ _ e = _ from hr)]
      exact retains_counted e metrics

/-- Whatever the tables hold, and whichever are missing, numbers at hand stay the ones on record. -/
theorem performWithin_retains (rounds : ValidatorId → Rounds) (op : Operation) :
    e.Retains (op.performWithin rounds e).2 := by
  cases ho : op.fetches with
  | false =>
    obtain ⟨database, metrics, he⟩ := steady_performWithin rounds ho e
    have hcarries := (covers_carries.performWithin rounds op) e
    rw [he] at hcarries ⊢
    exact ⟨rfl, fun hrecord => hrecord.carries hcarries⟩
  | true =>
    cases op with
    | resolveValidator key =>
      simp only [Operation.performWithin, Operation.perform, Request.answered_apply]
      exact retains_resolveValidator key
    | registerValidators keys =>
      simp only [Operation.performWithin, Operation.perform, Request.answered_apply]
      exact retains_registerValidators keys
    | validatorId key =>
      simp only [Operation.performWithin, Operation.perform, Request.answered_apply]
      exact retains_validatorId key
    | _ => cases ho

end Retaining

def Service.Within (few many : Service) : Prop := ∀ key id, few.known? key = some id → many.known? key = some id

/-- The numbers at hand of the second engine are some of those of the first one, which are the ones on record. -/
structure Recalls (p r : Engine) : Prop extends Beside p r where
  onRecord : p.service.OnRecord p.database
  fewer : r.service.Within p.service
  idle : p.service.decisions.closed = false ∧ p.service.decisions.occupied < p.service.decisions.size

/-- What is answered without numbers at hand, beside what is answered with them: the same, or that the number
could not be looked up again. -/
inductive AskedAgain (readOnly locked : Prop) :
    Operation × Except ProtectionError Answer → Operation × Except ProtectionError Answer → Prop
  | same (entry : Operation × Except ProtectionError Answer) : AskedAgain readOnly locked entry entry
  | unwritable (key : PublicKey) (id : ValidatorId) (runs : Nat) (hr : readOnly) :
    AskedAgain readOnly locked (.resolveValidator key, .ok (.number id))
      (.resolveValidator key, .error (.infrastructure "resolve_validator" runs (.ofDatabase .readOnly)))
  | unresolved (key : PublicKey) (id : ValidatorId) (runs : Nat) (hl : locked) :
    AskedAgain readOnly locked (.resolveValidator key, .ok (.number id))
      (.resolveValidator key, .error (.infrastructure "resolve_validator" runs (.ofDatabase .locked)))
  | unfound (key : PublicKey) (id : ValidatorId) (runs : Nat) (hl : locked) :
    AskedAgain readOnly locked (.validatorId key, .ok (.found (some id)))
      (.validatorId key, .error (.infrastructure "find_validator" runs (.ofDatabase .locked)))

theorem AskedAgain.mono {readOnly locked readOnly' locked' : Prop}
    {a b : Operation × Except ProtectionError Answer} (h : AskedAgain readOnly locked a b) (hr : readOnly → readOnly')
    (hl : locked → locked') : AskedAgain readOnly' locked' a b := by
  cases h with
  | same => exact .same a
  | unwritable key id runs h => exact .unwritable key id runs (hr h)
  | unresolved key id runs h => exact .unresolved key id runs (hl h)
  | unfound key id runs h => exact .unfound key id runs (hl h)

theorem AskedAgain.eq {readOnly locked : Prop} {a b : Operation × Except ProtectionError Answer}
    (h : AskedAgain readOnly locked a b) (hr : ¬ readOnly) (hl : ¬ locked) : a = b := by
  cases h with
  | same => rfl
  | unwritable _ _ _ h => exact absurd h hr
  | unresolved _ _ _ h => exact absurd h hl
  | unfound _ _ _ h => exact absurd h hl

section Losing
variable {few many : Service} {p r : Engine}

theorem Service.Within.remember (hw : few.Within many) (key : PublicKey) (id : ValidatorId) :
    (few.remember key id).Within (many.remember key id) := by
  intro other found hk
  rw [known?_remember] at hk ⊢
  by_cases he : other = key
  · rw [if_pos he] at hk ⊢
    exact hk
  · rw [if_neg he] at hk ⊢
    exact hw other found hk

/-- What is at hand on one side only now was at hand on the other side before. -/
theorem Service.Within.remember_left (hw : few.Within many) {key : PublicKey} {id : ValidatorId}
    (hid : many.known? key = some id) : (few.remember key id).Within many := by
  intro other found hk
  rw [known?_remember] at hk
  split at hk
  · rename_i he
    rw [he, hid, hk]
  · exact hw other found hk

theorem Service.Within.rememberAll (hw : few.Within many) (pairs : List (PublicKey × ValidatorId)) :
    (few.rememberAll pairs).Within (many.rememberAll pairs) := by
  induction pairs generalizing few many with
  | nil => exact hw
  | cons pair rest ih => exact ih (hw.remember pair.1 pair.2)

/-- A transaction ends alike on both sides, and leaves the services as they are. -/
theorem Beside.transact {α : Type} (h : Beside p r) (operation : String) (body : Transaction α) :
    ∃ outcome p' r', transact operation body p = (outcome, p') ∧ transact operation body r = (outcome, r') ∧
      Beside p' r' ∧ p'.service = p.service ∧ r'.service = r.service := by
  obtain ⟨hanswer, hbeside⟩ := Request.oblivious_transact operation body p r h
  have hsteady (e : Engine) : (Protection.transact operation body e).2.service = e.service := by
    obtain ⟨_, _, he⟩ := Request.steady_transact operation body e
    rw [he]
  exact ⟨(Protection.transact operation body p).1, (Protection.transact operation body p).2,
    (Protection.transact operation body r).2, rfl, Prod.ext hanswer.symm rfl, hbeside, hsteady p,
    hsteady r⟩

theorem obstacle_of_idle {e : Engine} {fault : AccessFault}
    (hidle : e.service.decisions.closed = false ∧ e.service.decisions.occupied < e.service.decisions.size)
    (hf : e.obstacle? e.service.decisions = some fault) : e.locked = true ∧ fault = .database .locked := by
  unfold Engine.obstacle? at hf
  rw [if_neg (by simp [hidle.1]), if_neg (Nat.not_le.mpr hidle.2)] at hf
  split at hf
  · rename_i hlocked
    exact ⟨hlocked.1, (Option.some.inj hf).symm⟩
  · cases hf

structure Recalled (p : Engine) (op : Operation) (a b : Except ProtectionError Answer × Engine) : Prop where
  answers : AskedAgain (p.database.readOnly = true) (p.locked = true) (op, a.1) (op, b.1)
  beside : Beside a.2 b.2
  fewer : b.2.service.Within a.2.service

namespace Recalls

theorem decisions_eq (h : Recalls p r) : p.service.decisions = r.service.decisions := by
  have hopened := congrArg Service.decisions h.service
  exact hopened

/-- Without its number at hand, a key is looked up on record. -/
theorem lookup {α : Type} (h : Recalls p r) {key : PublicKey} {id : ValidatorId}
    (hid : p.service.known? key = some id) (operation : String) (body : Transaction α) :
    (∃ metrics runs, p.locked = true ∧ transact operation body r =
        (.error (.infrastructure operation runs (.ofDatabase .locked)), { r with metrics })) ∨
    r.obstacle? r.service.decisions = none ∧ .validators ∉ r.database.missing ∧ r.tables.idOf key = some id := by
  cases hf : r.obstacle? r.service.decisions with
  | some fault =>
    obtain ⟨hlocked, rfl⟩ := obstacle_of_idle (h.decisions_eq ▸ h.idle) hf
    exact .inl ⟨_, _, h.locked.trans hlocked, transactOn_of_obstacle hf⟩
  | none =>
    have hrecord := h.onRecord key id hid
    rw [h.database] at hrecord
    exact .inr ⟨rfl, hrecord⟩

theorem resolveValidator (h : Recalls p r) (rounds : ValidatorId → Rounds) (key : PublicKey) :
    Recalled p (.resolveValidator key) ((Operation.resolveValidator key).performWithin rounds p)
      ((Operation.resolveValidator key).performWithin rounds r) := by
  simp only [Operation.performWithin, Operation.perform, Request.answered_apply, Request.resolveValidator,
    Request.get_bind]
  -- The number is at hand on both sides, on the first side only, or on neither one.
  cases hr : r.service.known? key with
  | some id =>
    rw [h.fewer key id hr]
    exact ⟨.same _, h.toBeside, h.fewer⟩
  | none =>
    cases hp : p.service.known? key with
    | some id =>
      dsimp only
      rcases h.lookup hp "resolve_validator" (Transaction.registerValidator key) with
        ⟨metrics, runs, hlocked, ht⟩ | ⟨hf, hm, hid⟩
      · rw [Request.bind_of_error ht]
        exact ⟨.unresolved key id _ hlocked, h.toBeside.trans (beside_counted r metrics), h.fewer⟩
      · have hbody := registerValidator_apply hm key
        split at hbody
        · rename_i hreadOnly
          have ht : transact "resolve_validator" (Transaction.registerValidator key) r = _ :=
            transactOn_of_error hf hbody
          rw [Request.bind_of_error ht]
          exact ⟨.unwritable key id _ (h.database ▸ hreadOnly), h.toBeside.trans (beside_counted r _), h.fewer⟩
        · have ht : transact "resolve_validator" (Transaction.registerValidator key) r = _ :=
            transactOn_of_ok hf hbody
          have henrol : enrol r.database.tables key = (id, r.database.tables) := by
            simp only [enrol, show r.database.tables.idOf key = some id from hid]
          rw [henrol] at ht
          rw [Request.bind_of_ok ht, Request.bind_of_ok (remember_apply _ _ _)]
          exact ⟨.same _, h.toBeside.trans (beside_remember r key id), h.fewer.remember_left hp⟩
    | none =>
      dsimp only
      obtain ⟨outcome, p', r', htp, htr, hbeside, hsp, hsr⟩ :=
        h.toBeside.transact "resolve_validator" (Transaction.registerValidator key)
      have hfewer : r'.service.Within p'.service := hsp ▸ hsr ▸ h.fewer
      cases outcome with
      | error cause =>
        rw [Request.bind_of_error htp, Request.bind_of_error htr]
        exact ⟨.same _, hbeside, hfewer⟩
      | ok id =>
        rw [Request.bind_of_ok htp, Request.bind_of_ok htr, Request.bind_of_ok (remember_apply _ _ _),
          Request.bind_of_ok (remember_apply _ _ _)]
        exact ⟨.same _, ((beside_remember p' key id).symm.trans hbeside).trans (beside_remember r' key id),
          hfewer.remember key id⟩

theorem validatorId (h : Recalls p r) (rounds : ValidatorId → Rounds) (key : PublicKey) :
    Recalled p (.validatorId key) ((Operation.validatorId key).performWithin rounds p)
      ((Operation.validatorId key).performWithin rounds r) := by
  simp only [Operation.performWithin, Operation.perform, Request.answered_apply, Request.validatorId,
    Request.get_bind]
  cases hr : r.service.known? key with
  | some id =>
    rw [h.fewer key id hr]
    exact ⟨.same _, h.toBeside, h.fewer⟩
  | none =>
    cases hp : p.service.known? key with
    | some id =>
      dsimp only
      rcases h.lookup hp "find_validator" (Transaction.findValidator key) with
        ⟨metrics, runs, hlocked, ht⟩ | ⟨hf, hm, hid⟩
      · rw [Request.bind_of_error ht]
        exact ⟨.unfound key id _ hlocked, h.toBeside.trans (beside_counted r metrics), h.fewer⟩
      · have ht : transact "find_validator" (Transaction.findValidator key) r = _ :=
          transactOn_of_ok hf (findValidator_apply hm key)
        rw [show r.database.tables.idOf key = some id from hid] at ht
        rw [Request.bind_of_ok ht]
        exact ⟨.same _, h.toBeside.trans (beside_remember r key id), h.fewer.remember_left hp⟩
    | none =>
      dsimp only
      obtain ⟨outcome, p', r', htp, htr, hbeside, hsp, hsr⟩ :=
        h.toBeside.transact "find_validator" (Transaction.findValidator key)
      have hfewer : r'.service.Within p'.service := hsp ▸ hsr ▸ h.fewer
      cases outcome with
      | error cause =>
        rw [Request.bind_of_error htp, Request.bind_of_error htr]
        exact ⟨.same _, hbeside, hfewer⟩
      | ok found =>
        rw [Request.bind_of_ok htp, Request.bind_of_ok htr]
        cases found with
        | none => exact ⟨.same _, hbeside, hfewer⟩
        | some id =>
          exact ⟨.same _, ((beside_remember p' key id).symm.trans hbeside).trans (beside_remember r' key id),
            hfewer.remember key id⟩

theorem registerValidators (h : Recalls p r) (rounds : ValidatorId → Rounds) (keys : List PublicKey) :
    Recalled p (.registerValidators keys) ((Operation.registerValidators keys).performWithin rounds p)
      ((Operation.registerValidators keys).performWithin rounds r) := by
  simp only [Operation.performWithin, Operation.perform, Request.answered_apply, Request.registerValidators]
  obtain ⟨outcome, p', r', htp, htr, hbeside, hsp, hsr⟩ :=
    h.toBeside.transact "register_validators" (keys.mapM Transaction.registerValidator)
  have hfewer : r'.service.Within p'.service := hsp ▸ hsr ▸ h.fewer
  cases outcome with
  | error cause =>
    rw [Request.bind_of_error htp, Request.bind_of_error htr]
    exact ⟨.same _, hbeside, hfewer⟩
  | ok ids =>
    rw [Request.bind_of_ok htp, Request.bind_of_ok htr, Request.bind_of_ok (rememberAll_apply _ _),
      Request.bind_of_ok (rememberAll_apply _ _)]
    exact ⟨.same _, ((beside_rememberAll p' _).symm.trans hbeside).trans (beside_rememberAll r' _),
      hfewer.rememberAll _⟩

theorem steady (h : Recalls p r) (rounds : ValidatorId → Rounds) {op : Operation} (ho : op.fetches = false) :
    Recalled p op (op.performWithin rounds p) (op.performWithin rounds r) := by
  have hunknown : op.lookedUp? = none := by
    cases op with
    | resolveValidator key => cases ho
    | validatorId key => cases ho
    | _ => rfl
  obtain ⟨hanswer, hbeside⟩ := oblivious_performWithin rounds hunknown p r h.toBeside
  obtain ⟨_, _, hp⟩ := steady_performWithin rounds ho p
  obtain ⟨_, _, hr⟩ := steady_performWithin rounds ho r
  refine ⟨?_, hbeside, ?_⟩
  · rw [hanswer]
    exact .same _
  · rw [hp, hr]
    exact h.fewer

/-- One request, with and without numbers at hand. -/
theorem performWithin (h : Recalls p r) (rounds : ValidatorId → Rounds) (op : Operation) :
    Recalled p op (op.performWithin rounds p) (op.performWithin rounds r) ∧
      Recalls (op.performWithin rounds p).2 (op.performWithin rounds r).2 := by
  have hrecalled : Recalled p op (op.performWithin rounds p) (op.performWithin rounds r) := by
    cases ho : op.fetches with
    | false => exact h.steady rounds ho
    | true =>
      cases op with
      | resolveValidator key => exact h.resolveValidator rounds key
      | registerValidators keys => exact h.registerValidators rounds keys
      | validatorId key => exact h.validatorId rounds key
      | _ => cases ho
  have hretains := @performWithin_retains p rounds op
  have hdecisions := congrArg Service.decisions hretains.service
  refine ⟨hrecalled, hrecalled.beside, hretains.onRecord h.onRecord, hrecalled.fewer, ?_⟩
  rw [show (op.performWithin rounds p).2.service.decisions = p.service.decisions from hdecisions]
  exact h.idle

end Recalls
end Losing
end ValidatorSigner.Protection
