import ValidatorSigner.Keys.Directory
import ValidatorSigner.Protection.Context
import ValidatorSigner.Settings
import ValidatorSigner.Signing.Handler

/-! # The signer at work

A start loads the keys, opens slashing protection, and registers the keys. Whatever goes wrong ends
the start; there is no signer that runs with protection half open. Without protection the database
is not looked at, and everything is signed.
-/
namespace ValidatorSigner

open Keys Protection Signing Store Telemetry

structure Daemon where
  ring : KeyRing
  /-- The protection of blocks and attestations; none if it is disabled. -/
  context? : Option Context

inductive StartError where
  | keys (path : String) (error : KeyError)
  | unreachable (error : ConfigurationError)
  | notInstalled (error : StorageError)
  | notOpened (error : ProtectionError)
  | notRegistered (error : ProtectionError)
deriving DecidableEq

/-- What was attempted, followed by the text of the error and the texts of its causes. -/
def StartError.chain : StartError → List String
  | keys path error => ("Failed to load signing keys from " ++ path) :: error.chain
  | unreachable error => error.chain
  | notInstalled error => "Failed to migrate slashing protection database" :: error.chain
  | notOpened error => "Failed to open slashing protection" :: error.chain
  | notRegistered error => "Failed to register validators" :: error.chain

namespace Daemon

def install (settings : Settings) (host : Host) : Except StartError Unit × Host :=
  if !settings.autoMigrate then (.ok (), host)
  else
    match host.connect settings.protectionParameters.database with
    | (.error e, host) => (.error (.unreachable e), host)
    | (.ok (connection, _), host) =>
      match host.install connection with
      | (.error e, host) => (.error (.notInstalled e), host)
      | (.ok (), host) => (.ok (), host)

/-- Opens slashing protection, and registers all loaded keys. -/
def protect (settings : Settings) (ring : KeyRing) (host : Host) :
    Except StartError Context × Host :=
  match Context.create settings.protectionParameters host with
  | (.error e, host) => (.error (.notOpened e), host)
  | (.ok context, host) =>
    match host.run context (Request.registerValidators ring.keys) with
    | (.error e, _, host) => (.error (.notRegistered e), host)
    | (.ok _, context, host) => (.ok context, host)

def startWith (settings : Settings) (ring : KeyRing) (host : Host) :
    Except StartError Daemon × Host :=
  let host := { host with metrics := { host.metrics with loadedKeys := ring.size } }
  if !settings.protectionEnabled then (.ok ⟨ring, none⟩, host)
  else
    match install settings host with
    | (.error e, host) => (.error e, host)
    | (.ok (), host) =>
      match protect settings ring host with
      | (.error e, host) => (.error e, host)
      | (.ok context, host) => (.ok ⟨ring, some context⟩, host)

def start (settings : Settings) (host : Host) : Except StartError Daemon × Host :=
  match host.disk.keyRing settings.keysPath with
  | .error e => (.error (.keys settings.keysPath e), host)
  | .ok ring => startWith settings ring host

def signMessage (daemon : Daemon) (key : PublicKey) (message : List UInt8) (host : Host) :
    Except HandlerError Signature × Host :=
  let (result, metrics) :=
    (signUnchecked daemon.ring .unprotected key message).run.run host.metrics
  (result, { host with metrics })

def sign (daemon : Daemon) (key : PublicKey) (genesis : Root) (duty : Duty) (root : Root)
    (host : Host) : Except HandlerError Outcome × Daemon × Host :=
  match daemon.context? with
  | none =>
    let (result, metrics) :=
      (signUnchecked daemon.ring duty.artifact key root.toList).run.run host.metrics
    (result.map .signed, daemon, { host with metrics })
  | some context =>
    let (result, context, host) :=
      host.act context (signProtected daemon.ring key genesis duty root).run
    (result, { daemon with context? := some context }, host)

end Daemon
end ValidatorSigner
