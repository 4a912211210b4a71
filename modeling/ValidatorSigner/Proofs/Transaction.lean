import ValidatorSigner.Protection.Engine

/-! # Running transactions and requests step by step

A transaction is opened one step at a time, by the outcome of that step. A request that runs one
transaction has three endings: the transaction cannot begin, and every permitted attempt fails alike;
the body ends in an error; or the body gives a value and its database.
-/
namespace ValidatorSigner.Store.Transaction
variable {α β : Type} {x : Transaction α} {f : α → Transaction β} {db db' : Database}

theorem bind_of_ok {a : α} (h : x db = .ok (a, db')) : (x >>= f) db = f a db' := by
  simp only [bind, StateT.bind, h, Except.bind]

theorem bind_of_error {e : StorageError} (h : x db = .error e) : (x >>= f) db = .error e := by
  simp only [bind, StateT.bind, h, Except.bind]

theorem pure_apply (a : α) (db : Database) : (pure a : Transaction α) db = .ok (a, db) := rfl

theorem lift_ok (a : α) (db : Database) : lift (.ok a) db = .ok (a, db) := rfl

theorem lift_error (e : StorageError) (db : Database) : (lift (.error e) : Transaction α) db = .error e := rfl

theorem reading_ok {table : Table} {read : Tables → Except StorageError α} {a : α}
    (hm : db.missing = []) (h : read db.tables = .ok a) : reading table read db = .ok (a, db) := by
  simp [reading, hm, h, Except.map]

theorem not_mem_missing (hm : db.missing = []) (table : Table) : table ∉ db.missing := by
  rw [hm]
  exact List.not_mem_nil

theorem writing_apply {table : Table} {write : Tables → Except StorageError (α × Tables)}
    (hm : table ∉ db.missing) :
    writing table write db =
      if db.readOnly then .error (.ofDatabase .readOnly)
      else (write db.tables).map fun (a, tables) => (a, { db with tables := tables }) := by
  simp [writing, hm]

theorem of_bind_ok {b : β} (h : (x >>= f) db = .ok (b, db')) :
    ∃ a db₁, x db = .ok (a, db₁) ∧ f a db₁ = .ok (b, db') := by
  cases hx : x db with
  | error e =>
    rw [bind_of_error hx] at h
    cases h
  | ok result =>
    obtain ⟨a, db₁⟩ := result
    rw [bind_of_ok hx] at h
    exact ⟨a, db₁, rfl, h⟩

theorem of_lift_ok {y : Except StorageError α} {a : α} (h : lift y db = .ok (a, db')) : y = .ok a ∧ db = db' := by
  cases y with
  | error e => cases h
  | ok b =>
    cases h
    exact ⟨rfl, rfl⟩

theorem of_reading_ok {table : Table} {read : Tables → Except StorageError α} {a : α}
    (h : reading table read db = .ok (a, db')) : table ∉ db.missing ∧ read db.tables = .ok a ∧ db = db' := by
  unfold reading at h
  split at h
  · cases h
  · rename_i hm
    cases hr : read db.tables with
    | error e =>
      rw [hr] at h
      cases h
    | ok b =>
      rw [hr] at h
      cases h
      exact ⟨hm, rfl, rfl⟩

theorem reading_ok_iff {table : Table} {read : Tables → Except StorageError α} {a : α} :
    reading table read db = .ok (a, db') ↔ table ∉ db.missing ∧ read db.tables = .ok a ∧ db = db' := by
  refine ⟨of_reading_ok, ?_⟩
  rintro ⟨hm, hr, rfl⟩
  simp [reading, hm, hr, Except.map]

theorem of_writing_ok {table : Table} {write : Tables → Except StorageError (α × Tables)} {a : α}
    (h : writing table write db = .ok (a, db')) :
    table ∉ db.missing ∧ db.readOnly = false ∧
      ∃ t, write db.tables = .ok (a, t) ∧ db' = { db with tables := t } := by
  unfold writing at h
  split at h
  · cases h
  · rename_i hm
    split at h
    · cases h
    · rename_i hr
      cases hw : write db.tables with
      | error e =>
        rw [hw] at h
        cases h
      | ok result =>
        rw [hw] at h
        cases h
        exact ⟨hm, by simpa using hr, _, rfl, rfl⟩

theorem of_insertUnless_ok {table : Table} {fault? : Tables → Option DatabaseFault} {add : Tables → Tables}
    {outcome : Insertion} (h : insertUnless table fault? add db = .ok (outcome, db')) :
    table ∉ db.missing ∧ db.readOnly = false ∧
      ((outcome = .inserted ∧ fault? db.tables = none ∧ db' = { db with tables := add db.tables }) ∨
        outcome = .conflict ∧ (fault? db.tables).isSome ∧ db = db') := by
  obtain ⟨hm, hr, t, hw, rfl⟩ := of_writing_ok h
  refine ⟨hm, hr, ?_⟩
  cases hf : fault? db.tables with
  | none =>
    simp only [hf] at hw
    cases hw
    exact .inl ⟨rfl, rfl, rfl⟩
  | some fault =>
    simp only [hf] at hw
    cases fault with
    | duplicate table =>
      cases hw
      exact .inr ⟨rfl, rfl, rfl⟩
    | _ => cases hw

end ValidatorSigner.Store.Transaction

namespace ValidatorSigner.Store

theorem of_toColumn_ok {quantity : Quantity} {n : Nat} {column : Int} (h : toColumn quantity n = .ok column) :
    n < storeBound ∧ column = n := by
  unfold toColumn at h
  split at h
  · rename_i hn
    cases h
    exact ⟨hn, rfl⟩
  · cases h

theorem toColumn_of_lt {quantity : Quantity} {n : Nat} (h : n < storeBound) :
    toColumn quantity n = .ok (n : Int) := by
  simp [toColumn, h]

/-- A number that goes into a column is checked and handed on. -/
theorem Transaction.column_ok_iff {β : Type} {quantity : Quantity} {n : Nat} {f : Int → Transaction β} {b : β}
    {db db' : Database} :
    (lift (toColumn quantity n) >>= f) db = .ok (b, db') ↔ n < storeBound ∧ f n db = .ok (b, db') := by
  constructor
  · intro h
    obtain ⟨column, _, hlift, hrest⟩ := of_bind_ok h
    obtain ⟨hc, rfl⟩ := of_lift_ok hlift
    obtain ⟨hn, rfl⟩ := of_toColumn_ok hc
    exact ⟨hn, hrest⟩
  · rintro ⟨hn, hrest⟩
    rw [toColumn_of_lt hn, bind_of_ok (lift_ok _ _)]
    exact hrest

theorem toColumn_of_le {quantity : Quantity} {n : Nat} (h : storeBound ≤ n) :
    toColumn quantity n = .error (.outOfRange quantity n) := by
  simp [toColumn, Nat.not_lt.mpr h]

theorem RetryPolicy.allowsRetry_iff {policy : RetryPolicy} {attempts : Nat} :
    policy.allowsRetry attempts = true ↔ attempts ≤ policy.maxRetries := by
  simp [allowsRetry]

section Attempts
variable {α : Type} {policy : RetryPolicy} {body : Nat → Transaction α} {db : Database}

theorem attempt_of_ok {result : α × Database} (h : body 0 db = .ok result) :
    attempt policy body db = ⟨1, .ok result⟩ := by
  unfold attempt
  cases policy.maxRetries with
  | zero => simp only [attemptFrom, StateT.run, h]
  | succ n => simp only [attemptFrom, StateT.run, h]

theorem attempt_of_lasting {e : StorageError} (h : body 0 db = .error e) (he : e.isRetryable = false) :
    attempt policy body db = ⟨1, .error e⟩ := by
  unfold attempt
  cases policy.maxRetries with
  | zero => simp only [attemptFrom, StateT.run, h]
  | succ n => simp [attemptFrom, StateT.run, h, he]

theorem attemptFrom_of_passing {e : StorageError} (h : ∀ n, body n db = .error e)
    (he : e.isRetryable = true) {done further : Nat} (hmost : done + further = policy.maxRetries) :
    attemptFrom policy body db done further = ⟨policy.maxRetries + 1, .error e⟩ := by
  induction further generalizing done with
  | zero => simp only [attemptFrom, StateT.run, h, ← hmost, Nat.add_zero]
  | succ n ih =>
    have hallowed : policy.allowsRetry (done + 1) = true := RetryPolicy.allowsRetry_iff.mpr (by omega)
    simp only [attemptFrom, StateT.run, h, he, hallowed, Bool.and_self, if_true]
    exact ih (by omega)

end Attempts
end ValidatorSigner.Store

namespace ValidatorSigner.Protection
open Store Telemetry
variable {α β : Type} {e e' : Engine}

namespace Request
variable {x : Request α} {f : α → Request β}

theorem bind_of_ok {a : α} (h : x e = (.ok a, e')) : (x >>= f) e = f a e' := by
  simp only [bind, ExceptT.bind, ExceptT.mk, StateT.bind, h, ExceptT.bindCont]

theorem bind_of_error {cause : ProtectionError} (h : x e = (.error cause, e')) :
    (x >>= f) e = (.error cause, e') := by
  simp only [bind, ExceptT.bind, ExceptT.mk, StateT.bind, h, ExceptT.bindCont]
  rfl

theorem get_bind (f : Engine → Request β) (e : Engine) : ((get : Request Engine) >>= f) e = f e e := rfl

end Request

/-- The answer to a request whose transaction always ends in one error: one that may pass is met as often
as the policy allows, and counted. -/
def Engine.failed (e : Engine) (operation : String) (cause : StorageError) : Except ProtectionError α × Engine :=
  let runs := if cause.isRetryable then e.service.retry.maxRetries + 1 else 1
  (.error (.infrastructure operation runs cause),
    { e with metrics := Engine.countRetries e.metrics operation runs })

section Transact
variable {pool : Service → Pool} {operation : String} {body : Transaction α}

theorem attempt_of_error {policy : RetryPolicy} {attempts : Nat → Transaction α} {db : Database}
    {cause : StorageError} (h : ∀ n, attempts n db = .error cause) :
    attempt policy attempts db = ⟨if cause.isRetryable then policy.maxRetries + 1 else 1, .error cause⟩ := by
  cases hc : cause.isRetryable with
  | true => exact attemptFrom_of_passing h hc (Nat.zero_add _)
  | false => exact attempt_of_lasting (h 0) hc

/-- What a request does, whatever happens: it meets an obstacle, or its body fails, or its body gives a
value and a database. -/
theorem transactOn_apply (pool : Service → Pool) (operation : String) (body : Transaction α) (e : Engine) :
    transactOn pool operation (fun _ => body) e =
      match e.obstacle? (pool e.service), body e.database with
      | some fault, _ => e.failed operation (.access fault)
      | none, .error cause => e.failed operation cause
      | none, .ok (a, db) => (.ok a, { e with database := db }) := by
  let attempts : Nat → Transaction α := fun _ => do e.begin (pool e.service); body
  cases hf : e.obstacle? (pool e.service) with
  | some fault =>
    have hbegin : e.begin (pool e.service) e.database = .error (.access fault) := by
      simp only [Engine.begin, hf, Transaction.lift_error]
    have ha : attempt e.service.retry attempts e.database = _ :=
      attempt_of_error fun _ => Transaction.bind_of_error hbegin
    simp only [transactOn, ha, attempts, Engine.failed]
  | none =>
    have hbegin : e.begin (pool e.service) e.database = .ok ((), e.database) := by
      simp only [Engine.begin, hf, Transaction.pure_apply]
    cases hb : body e.database with
    | error cause =>
      have ha : attempt e.service.retry attempts e.database = _ :=
        attempt_of_error fun _ => (Transaction.bind_of_ok hbegin).trans hb
      simp only [transactOn, ha, attempts, Engine.failed]
    | ok result =>
      have ha : attempt e.service.retry attempts e.database = ⟨1, .ok result⟩ :=
        attempt_of_ok ((Transaction.bind_of_ok hbegin).trans hb)
      simp only [transactOn, ha, attempts]
      rfl

theorem transactOn_of_obstacle {fault : AccessFault} (h : e.obstacle? (pool e.service) = some fault) :
    transactOn pool operation (fun _ => body) e = e.failed operation (.access fault) := by
  rw [transactOn_apply, h]

theorem transactOn_of_error (h : e.obstacle? (pool e.service) = none) {cause : StorageError}
    (hb : body e.database = .error cause) :
    transactOn pool operation (fun _ => body) e = e.failed operation cause := by
  rw [transactOn_apply, h, hb]

theorem transactOn_of_ok (h : e.obstacle? (pool e.service) = none) {a : α} {db : Database}
    (hb : body e.database = .ok (a, db)) :
    transactOn pool operation (fun _ => body) e = (.ok a, { e with database := db }) := by
  rw [transactOn_apply, h, hb]

/-- A request takes the value and the database of its body, or it fails and changes nothing but counters. -/
theorem transactOn_cases (pool : Service → Pool) (operation : String) (body : Transaction α) (e : Engine) :
    (∃ a db, body e.database = .ok (a, db) ∧
      transactOn pool operation (fun _ => body) e = (.ok a, { e with database := db })) ∨
    ∃ cause metrics, transactOn pool operation (fun _ => body) e = (.error cause, { e with metrics }) := by
  cases hf : e.obstacle? (pool e.service) with
  | some fault => exact .inr ⟨_, _, transactOn_of_obstacle hf⟩
  | none =>
    cases hb : body e.database with
    | error cause => exact .inr ⟨_, _, transactOn_of_error hf hb⟩
    | ok result => exact .inl ⟨result.1, result.2, rfl, transactOn_of_ok hf hb⟩

end Transact
end ValidatorSigner.Protection
