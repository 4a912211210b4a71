import ValidatorSigner.Protection.Decide
import ValidatorSigner.Protection.Prune
import ValidatorSigner.Store.Connection

/-! # Opening protection

A context is opened over a database that is already installed: opening checks the version, and on
demand that the database belongs to a chain, but installs nothing and changes no row.
-/
namespace ValidatorSigner.Protection

open Store Telemetry

/-- What outlives a context: the disk, whether another connection holds the write lock, and the
counters of the process. -/
structure Host where
  disk : Disk := {}
  locked : Bool := false
  metrics : Metrics := {}

structure Context where
  connection : Connection
  service : Service

def verifyVersion (expected : Int) (database : Database) : Except ConfigurationError Int :=
  match Transaction.findVersion.run database with
  | .error cause => .error (.versionUnreadable expected cause)
  | .ok (none, _) => .error (.versionMissing expected)
  | .ok (some found, _) =>
    if found = expected then .ok found else .error (.versionMismatch found expected)

namespace Host

/-- The longest time, in milliseconds, that a connection can be told to wait for a lock. -/
def longestBusyTimeout : Nat := 1 <<< 31 - 1

def connectTo (host : Host) (busyTimeout : Duration) (address : Address) :
    Except AccessFault Connection × Host :=
  match host.disk.reach address with
  | .error fault => (.error fault, host)
  | .ok (file?, disk) =>
    let host := { host with disk }
    -- A connection that would wait too long for a lock is given up, but the file is there by now.
    if longestBusyTimeout < busyTimeout.milliseconds then (.error .workerCrashed, host)
    else
      match disk.prepare address file? with
      | .error fault => (.error fault, host)
      | .ok (connection, disk) => (.ok connection, { host with disk })

/-- Opens the database of the parameters, creating its file if they say so. -/
def connect (host : Host) (p : DatabaseParameters) :
    Except ConfigurationError (Connection × Database) × Host :=
  match Location.ofUrl p.url with
  | .error fault => (.error (.connectionFailed p.url fault), host)
  | .ok location =>
    -- No connection is made in no time at all.
    if p.acquireTimeout = .zero then (.error (.connectionFailed p.url .poolTimedOut), host)
    else
      match Address.ofLocation p.createIfMissing location with
      | .error fault => (.error (.connectionFailed p.url fault), host)
      | .ok address =>
        match host.connectTo p.busyTimeout address with
        | (.error fault, host) => (.error (.connectionFailed p.url fault), host)
        | (.ok connection, host) => (.ok (connection, host.disk.read connection), host)

def act {α : Type} (host : Host) (context : Context) (action : StateM Engine α) :
    α × Context × Host :=
  let (result, engine) := action.run
    { database := host.disk.read context.connection, locked := host.locked
      metrics := host.metrics, service := context.service }
  let (disk, connection) := host.disk.write context.connection engine.database
  (result, ⟨connection, engine.service⟩, { host with disk, metrics := engine.metrics })

def run {α : Type} (host : Host) (context : Context) (request : Request α) :
    Except ProtectionError α × Context × Host :=
  host.act context request.run

/-- Runs a body as one transaction of its own, outside any context. -/
def transactOnce {α : Type} (host : Host) (connection : Connection) (operation : String)
    (body : Transaction α) : Except ProtectionError α × Host :=
  let (result, _, host) := host.run ⟨connection, { retry := .none }⟩ (transact operation body)
  (result, host)

def install (host : Host) (connection : Connection) : Except StorageError Unit × Host :=
  let database := host.disk.read connection
  if database.readOnly then (.error (.ofDatabase .readOnly), host)
  else if host.locked then (.error (.ofDatabase .locked), host)
  else (.ok (), { host with disk := (host.disk.write connection database.install).1 })

end Host

def Service.ofParameters (p : ProtectionParameters) : Service :=
  { decisions := { size := max 1 p.database.maxConnections }
    cleaning := { size := max 1 p.pruningPoolSize }
    retry := p.retry
    pruning := p.pruning }

namespace Context

/-- Opens a context. The parameters are looked at first, then the database is reached, its version
checked, and last whether it belongs to a chain, if that is required. -/
def create (p : ProtectionParameters) (host : Host) : Except ProtectionError Context × Host :=
  match p.pruning.validate with
  | .error e => (.error (.configuration e), host)
  | .ok () =>
    match host.connect p.database with
    | (.error e, host) => (.error (.configuration e), host)
    | (.ok (connection, database), host) =>
      match verifyVersion Database.expectedVersion database with
      | .error e => (.error (.configuration e), host)
      | .ok _ =>
        let context : Context := ⟨connection, .ofParameters p⟩
        if !p.requireGenesisRoot then (.ok context, host)
        else
          match host.run context Request.genesisExists with
          | (.error e, _, host) => (.error e, host)
          | (.ok true, context, host) => (.ok context, host)
          | (.ok false, _, host) => (.error (.configuration .missingGenesisRoot), host)

def close (context : Context) : Context :=
  -- The service keeps its numbers at hand, and still answers them.
  { context with
    service := { context.service with
      decisions := { context.service.decisions with closed := true }
      cleaning := { context.service.cleaning with closed := true } } }

end Context
end ValidatorSigner.Protection
