import ValidatorSigner.Protection.Parameters
import ValidatorSigner.Protection.Rules
import ValidatorSigner.Store.Write
import ValidatorSigner.Telemetry.Metrics

/-! # The state of running protection

A request to slashing protection runs one or more transactions over one database. It keeps the
numbers of known keys at hand, and counts what it does. A request that fails leaves the state as
its completed transactions left it.
-/
namespace ValidatorSigner.Protection

open Store Telemetry

structure Pool where
  /-- At least one. -/
  size : Nat := 1
  /-- Connections that somebody else occupies. -/
  occupied : Nat := 0
  closed : Bool := false
deriving DecidableEq, Repr

structure Service where
  /-- Serves decisions and registrations. -/
  decisions : Pool := {}
  /-- Serves pruning. -/
  cleaning : Pool := {}
  retry : RetryPolicy := .standard
  pruning : PruningParameters := {}
  /-- Numbers of keys that were looked up before. -/
  known : List (PublicKey × ValidatorId) := []

structure Engine where
  database : Database
  /-- Whether another connection holds the write lock. -/
  locked : Bool := false
  metrics : Metrics := {}
  service : Service := {}

abbrev Request (α : Type) := ExceptT ProtectionError (StateM Engine) α

namespace Engine

/-- Why a transaction over this pool cannot begin. -/
def obstacle? (engine : Engine) (pool : Pool) : Option AccessFault :=
  if pool.closed then some .poolClosed
  else if pool.size ≤ pool.occupied then some .poolTimedOut
  -- A database that is open for reading only needs no write lock.
  else if engine.locked ∧ !engine.database.readOnly then some (.database .locked)
  else none

def begin (engine : Engine) (pool : Pool) : Transaction Unit :=
  match engine.obstacle? pool with
  | some fault => Transaction.lift (.error (.access fault))
  | none => pure ()

def countRetries (metrics : Metrics) (operation : String) (runs : Nat) : Metrics :=
  if runs ≤ 1 then metrics else metrics.add (.retried operation) (runs - 1)

end Engine

/-- Runs a body as one transaction, which may be attempted several times. -/
def transactOn {α : Type} (pool : Service → Pool) (operation : String)
    (body : Nat → Transaction α) : Request α := fun engine =>
  let attempted := attempt engine.service.retry
    (fun n => do engine.begin (pool engine.service); body n) engine.database
  let metrics := Engine.countRetries engine.metrics operation attempted.runs
  match attempted.outcome with
  | .ok (value, database) => (.ok value, { engine with database, metrics })
  | .error cause =>
    (.error (.infrastructure operation attempted.runs cause), { engine with metrics })

def transact {α : Type} (operation : String) (body : Transaction α) : Request α :=
  transactOn (·.decisions) operation fun _ => body

def transactCleaning {α : Type} (operation : String) (body : Transaction α) : Request α :=
  transactOn (·.cleaning) operation fun _ => body

def count (series : Series) (n : Nat) : Request Unit :=
  modify fun engine => { engine with metrics := engine.metrics.add series n }

end ValidatorSigner.Protection
