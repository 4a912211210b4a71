import ValidatorSigner.Proofs.Protection.Counters
import ValidatorSigner.Proofs.Store.Passing
import ValidatorSigner.Store.Write

/-! # Attempts

A transaction is attempted until one attempt settles it, by a success or by an error that will not pass, or until
no further attempt is allowed. Every attempt starts from the same database, and only the one that succeeds is
seen in it. All but the first are counted.
-/
namespace ValidatorSigner.Store
variable {α β : Type}

/-- The first attempt that is not worth another one has this number, counted from zero. A number beyond the attempts
that are allowed stands for none. -/
structure RetryPolicy.Settles (policy : RetryPolicy) (outcome : Nat → Except StorageError β) (k : Nat) : Prop where
  before : ∀ n < k, ∃ cause, outcome n = .error cause ∧ cause.MayPass
  settled : k ≤ policy.maxRetries → ∀ cause, outcome k = .error cause → ¬ cause.MayPass

theorem RetryPolicy.exists_settles (policy : RetryPolicy) (outcome : Nat → Except StorageError β) :
    ∃ k ≤ policy.maxRetries + 1, policy.Settles outcome k := by
  by_cases h : ∃ k, ∀ cause, outcome k = .error cause → ¬ cause.MayPass
  · classical
    have hbefore (n : Nat) (hn : n < Nat.find h) : ∃ cause, outcome n = .error cause ∧ cause.MayPass := by
      simpa using Nat.find_min h hn
    by_cases hk : Nat.find h ≤ policy.maxRetries
    · exact ⟨Nat.find h, by omega, hbefore, fun _ => Nat.find_spec h⟩
    · exact ⟨policy.maxRetries + 1, le_rfl, fun n hn => hbefore n (by omega), fun hk => by omega⟩
  · refine ⟨policy.maxRetries + 1, le_rfl, fun n _ => ?_, fun hk => by omega⟩
    simpa using not_exists.mp h n

section Attempts
variable {body : Nat → Transaction α} {db : Database} {k : Nat}

/-- The attempts that are left, once some have failed that do not settle the matter. -/
theorem attemptFrom_eq {policy : RetryPolicy} (hk : policy.Settles (fun n => body n db) k) {done further : Nat}
    (hdone : done ≤ k) (hmost : done + further = policy.maxRetries) :
    attemptFrom policy body db done further =
      ⟨min k policy.maxRetries + 1, body (min k policy.maxRetries) db⟩ := by
  induction further generalizing done with
  | zero =>
    have hlast : min k policy.maxRetries = done := by omega
    rw [hlast]
    rfl
  | succ further ih =>
    unfold attemptFrom
    by_cases hkd : k = done
    · have hlast : min k policy.maxRetries = k := by omega
      rw [hlast, ← hkd]
      cases hb : body k db with
      | ok result =>
        simp only [StateT.run, hb]
      | error cause =>
        have hlasting : cause.isRetryable = false := by
          rw [← Bool.not_eq_true, StorageError.isRetryable_iff]
          exact hk.settled (by omega) cause hb
        simp [StateT.run, hb, hlasting]
    · obtain ⟨cause, hb, hpasses⟩ := hk.before done (by omega)
      have hallowed : policy.allowsRetry (done + 1) = true := RetryPolicy.allowsRetry_iff.mpr (by omega)
      have hagain : (cause.isRetryable && policy.allowsRetry (done + 1)) = true := by
        rw [StorageError.isRetryable_iff.mpr hpasses, hallowed, Bool.and_self]
      simp only [StateT.run, hb, hagain, if_true]
      exact ih (by omega) (by omega)

theorem attempt_eq {policy : RetryPolicy} (hk : policy.Settles (fun n => body n db) k) :
    attempt policy body db = ⟨min k policy.maxRetries + 1, body (min k policy.maxRetries) db⟩ :=
  attemptFrom_eq hk (Nat.zero_le k) (Nat.zero_add _)

end Attempts
end ValidatorSigner.Store

namespace ValidatorSigner.Protection
open Store Telemetry
variable {α : Type} {pool : Service → Pool} {operation : String} {body : Nat → Transaction α} {e : Engine} {k : Nat}

/-- What an attempt comes to: it may not even begin. -/
def Engine.outcome (e : Engine) (pool : Service → Pool) (body : Nat → Transaction α) (n : Nat) :
    Except StorageError (α × Database) :=
  match e.obstacle? (pool e.service) with
  | some fault => .error (.access fault)
  | none => body n e.database

theorem begin_outcome (n : Nat) :
    (do e.begin (pool e.service); body n : Transaction α) e.database = e.outcome pool body n := by
  unfold Engine.outcome
  cases hf : e.obstacle? (pool e.service) with
  | some fault =>
    apply Transaction.bind_of_error
    simp only [Engine.begin, hf, Transaction.lift_error]
  | none =>
    have hbegin : e.begin (pool e.service) e.database = .ok ((), e.database) := by
      simp only [Engine.begin, hf, Transaction.pure_apply]
    exact Transaction.bind_of_ok hbegin

def Engine.retried (e : Engine) (operation : String) (last : Nat) : Metrics :=
  Engine.countRetries e.metrics operation (last + 1)

theorem count_retried (last : Nat) (series : Series) :
    (e.retried operation last).count series =
      e.metrics.count series + if series = .retried operation then last else 0 := by
  unfold Engine.retried Engine.countRetries
  split
  · have hnone : last = 0 := by omega
    simp [hnone]
  · simp [Metrics.count_add]

theorem transactOn_attempts (hk : e.service.retry.Settles (e.outcome pool body) k) :
    attempt e.service.retry (fun n => do e.begin (pool e.service); body n) e.database =
      ⟨min k e.service.retry.maxRetries + 1, e.outcome pool body (min k e.service.retry.maxRetries)⟩ := by
  have ha := @attempt_eq α (fun n => do e.begin (pool e.service); body n) e.database k e.service.retry
  simp only [begin_outcome] at ha
  exact ha hk

/-- A request does what its last attempt does. -/
theorem transactOn_of_last_ok (hk : e.service.retry.Settles (e.outcome pool body) k) {last : Nat}
    (hl : last = min k e.service.retry.maxRetries) {a : α} {database : Database}
    (ho : e.outcome pool body last = .ok (a, database)) :
    transactOn pool operation body e = (.ok a, { e with database, metrics := e.retried operation last }) := by
  unfold transactOn
  rw [transactOn_attempts hk, ← hl, ho]
  rfl

theorem transactOn_of_last_error (hk : e.service.retry.Settles (e.outcome pool body) k) {last : Nat}
    (hl : last = min k e.service.retry.maxRetries) {cause : StorageError}
    (ho : e.outcome pool body last = .error cause) :
    transactOn pool operation body e =
      (.error (.infrastructure operation (last + 1) cause), { e with metrics := e.retried operation last }) := by
  unfold transactOn
  rw [transactOn_attempts hk, ← hl, ho]
  rfl

/-- For every policy, every body and every sequence of outcomes: attempts are made up to the first one that settles
the matter, as far as they are allowed. A success that settles it is the answer, and what it did to the database it
started from is all that is done. Otherwise the answer tells the number of attempts and the error of the last one,
and nothing is done. Each attempt after the first is counted. Only errors that may pass lead to another attempt. -/
theorem attempted_until_settled (pool : Service → Pool) (operation : String) (body : Nat → Transaction α) (e : Engine) :
    let policy := e.service.retry
    let outcome := e.outcome pool body
    let result := (transactOn pool operation body).run e
    (∀ cause : StorageError, cause.isRetryable = true ↔ cause.MayPass) ∧
    (∃ k, policy.Settles outcome k) ∧
    ∀ k, policy.Settles outcome k →
      let last := min k policy.maxRetries
      (attempt policy (fun n => do e.begin (pool e.service); body n) e.database).runs = last + 1 ∧
      (policy.maxRetries < 2 ^ 32 - 1 → last + 1 < 2 ^ 32) ∧
      (∀ a, result.1 = .ok a ↔ k ≤ policy.maxRetries ∧ ∃ db, outcome k = .ok (a, db)) ∧
      (∀ failure, result.1 = .error failure ↔
        ∃ cause, outcome last = .error cause ∧ failure = .infrastructure operation (last + 1) cause) ∧
      (∀ a db, result.1 = .ok a → outcome k = .ok (a, db) → result.2.database = db) ∧
      (∀ failure, result.1 = .error failure → result.2.database = e.database) ∧
      result.2 = { e with database := result.2.database, metrics := result.2.metrics } ∧
      ∀ series, result.2.metrics.count series =
        e.metrics.count series + if series = .retried operation then last else 0 := by
  intro policy outcome result
  obtain ⟨k₀, -, hk₀⟩ := policy.exists_settles outcome
  refine ⟨fun cause => StorageError.isRetryable_iff, ⟨k₀, hk₀⟩, ?_⟩
  intro k hk last
  refine ⟨congrArg Attempted.runs (transactOn_attempts hk), fun hbound => by omega, ?_⟩
  cases ho : outcome last with
  | ok settled =>
    obtain ⟨a, db⟩ := settled
    -- An error that may pass is the last one only where no further attempt is allowed.
    have hsettled : k = last ∧ k ≤ policy.maxRetries := by
      by_contra hmore
      obtain ⟨cause, hc, -⟩ := hk.before last (by omega)
      rw [ho] at hc
      cases hc
    obtain ⟨hlast, hle⟩ := hsettled
    have hr : result = (.ok a, { e with database := db, metrics := e.retried operation last }) :=
      transactOn_of_last_ok hk rfl ho
    rw [hr, hlast, ho]
    refine ⟨?_, ?_, ?_, nofun, rfl, count_retried last⟩
    · intro b
      constructor
      · intro hb
        cases hb
        exact ⟨by omega, db, rfl⟩
      · rintro ⟨-, db', hb⟩
        cases hb
        rfl
    · intro failure
      constructor
      · intro hf
        cases hf
      · rintro ⟨cause, hc, -⟩
        cases hc
    · intro b db' _ hb
      cases hb
      rfl
  | error cause =>
    have hr : result = (.error (.infrastructure operation (last + 1) cause), { e with metrics := e.retried operation last }) :=
      transactOn_of_last_error hk rfl ho
    rw [hr]
    refine ⟨?_, ?_, nofun, fun _ _ => rfl, rfl, count_retried last⟩
    · intro b
      constructor
      · intro hb
        cases hb
      · rintro ⟨hle, db, hb⟩
        have hlast : k = last := by omega
        rw [hlast, ho] at hb
        cases hb
    · intro failure
      constructor
      · intro hf
        cases hf
        exact ⟨cause, rfl, rfl⟩
      · rintro ⟨other, hc, rfl⟩
        cases hc
        rfl

def troubledBody : Nat → Transaction Insertion
  | 0 => Transaction.fault (.reported (some "+0261") "database is locked")
  | 1 => do
    let _ ← Transaction.insertGenesis (.replicate .root 1)
    Transaction.lift (.error (.access (.communication "broken pipe")))
  | _ => Transaction.insertGenesis (.replicate .root 2)

/-- The third of four attempts settles the matter. The chain of the second one is gone. -/
theorem attempted_until_settled_troubled :
    let e := Engine.fresh false false {} { retry := ⟨3, .zero⟩ }
    let result := (transactOn (·.decisions) "check_genesis" troubledBody).run e
    e.service.retry.Settles (e.outcome (·.decisions) troubledBody) 2 ∧ result.1 = .ok .inserted ∧
      result.2.tables.genesis = some (List.replicate 32 2) ∧
      result.2.metrics.count (.retried "check_genesis") = 2 := by
  intro e result
  have hk : e.service.retry.Settles (e.outcome (·.decisions) troubledBody) 2 := by
    refine ⟨?_, fun _ cause hc => by cases hc⟩
    intro n hn
    obtain rfl | rfl : n = 0 ∨ n = 1 := by omega
    · exact ⟨_, rfl, StorageError.isRetryable_iff.mp (by decide)⟩
    · exact ⟨_, rfl, .communication _⟩
  obtain ⟨-, -, hsettled⟩ := attempted_until_settled (·.decisions) "check_genesis" troubledBody e
  obtain ⟨-, -, hanswer, -, hdatabase, -, -, hcount⟩ := hsettled 2 hk
  have hr : result.1 = .ok .inserted := (hanswer _).mpr ⟨by decide, _, rfl⟩
  refine ⟨hk, hr, ?_, hcount _⟩
  exact congrArg (·.tables.genesis) (hdatabase _ _ hr rfl)

end ValidatorSigner.Protection
