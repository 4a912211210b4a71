import ValidatorSigner.Duration
import ValidatorSigner.Store.Transaction

/-! # Running a transaction again

A transaction whose error may pass by itself is run again, a bounded number of times, always from
the database before the first run.
-/
namespace ValidatorSigner.Store

structure RetryPolicy where
  maxRetries : Nat
  backoff : Duration
deriving DecidableEq, Repr

namespace RetryPolicy

def standard : RetryPolicy := ⟨1, .ofMilliseconds 50⟩

def none : RetryPolicy := ⟨0, .zero⟩

/-- Whether another run is allowed after `attempts` have failed. -/
def allowsRetry (policy : RetryPolicy) (attempts : Nat) : Bool := attempts ≤ policy.maxRetries

end RetryPolicy

structure Attempted (α : Type) where
  /-- Number of runs, at least one. -/
  runs : Nat
  /-- The value and the database of the run that succeeded, or the error of the last run. -/
  outcome : Except StorageError (α × Database)

/-- Runs attempt after attempt, each from the same database, `done` having failed so far. The body may
depend on the number of the attempt. The last argument bounds the further runs; the policy allows no
more than `policy.maxRetries` of them. -/
def attemptFrom {α : Type} (policy : RetryPolicy) (body : Nat → Transaction α) (db : Database) (done : Nat) :
    Nat → Attempted α
  | 0 => ⟨done + 1, (body done).run db⟩
  | further + 1 =>
    match (body done).run db with
    | .ok result => ⟨done + 1, .ok result⟩
    | .error e =>
      if e.isRetryable && policy.allowsRetry (done + 1) then attemptFrom policy body db (done + 1) further
      else ⟨done + 1, .error e⟩

def attempt {α : Type} (policy : RetryPolicy) (body : Nat → Transaction α) (db : Database) :
    Attempted α :=
  attemptFrom policy body db 0 policy.maxRetries

end ValidatorSigner.Store
