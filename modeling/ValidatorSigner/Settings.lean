import ValidatorSigner.Protection.Parameters
import ValidatorSigner.Telemetry.Settings
import ValidatorSigner.Text.Blank
import ValidatorSigner.Text.Quoted

/-! # Settings

Each setting has a default and a variable that overrides it. A value that cannot be read is an
error, and the first one in a fixed order is told. Blanks around numbers and flags
are passed over.
-/
namespace ValidatorSigner

open Protection Telemetry

/-- The settings with a number or a flag for a value, in the order in which they are read. -/
inductive Setting where
  | poolSize
  | pruningPoolSize
  | acquireTimeout
  | busyTimeout
  | autoMigrate
  | protectionEnabled
  | requireGenesisRoot
  | pruningEnabled
  | epochsToKeep
  | slotsPerEpoch
  | pruningInterval
  | pruningAtBoot
  | batchSize
deriving DecidableEq, Repr

def Setting.name : Setting → String
  | poolSize => "SIGNER_DB_POOL_SIZE"
  | pruningPoolSize => "SIGNER_DB_PRUNING_POOL_SIZE"
  | acquireTimeout => "SIGNER_DB_ACQUIRE_TIMEOUT_SECS"
  | busyTimeout => "SIGNER_DB_BUSY_TIMEOUT_MS"
  | autoMigrate => "SIGNER_DB_AUTO_MIGRATE"
  | protectionEnabled => "SIGNER_SLASHING_PROTECTION_ENABLED"
  | requireGenesisRoot => "SIGNER_REQUIRE_GENESIS_ROOT"
  | pruningEnabled => "SIGNER_PRUNING_ENABLED"
  | epochsToKeep => "SIGNER_PRUNING_EPOCHS_TO_KEEP"
  | slotsPerEpoch => "SIGNER_PRUNING_SLOTS_PER_EPOCH"
  | pruningInterval => "SIGNER_PRUNING_INTERVAL_HOURS"
  | pruningAtBoot => "SIGNER_PRUNING_AT_BOOT"
  | batchSize => "SIGNER_PRUNING_BATCH_SIZE"

structure SettingsError where
  setting : Setting
  value : String
deriving DecidableEq, Repr

def SettingsError.message (e : SettingsError) : String :=
  "Invalid value " ++ Text.quoted e.value ++ " for " ++ e.setting.name

/-- A flag: yes or no in a few words, in any case. -/
def readFlag (chars : List Char) : Option Bool :=
  match lowerCase (String.ofList chars) with
  | "true" | "1" | "yes" => some true
  | "false" | "0" | "no" => some false
  | _ => none

namespace Environment

def readWith {α : Type} (read : List Char → Option α) (environment : Environment)
    (setting : Setting) (fallback : α) : Except SettingsError α :=
  match environment.lookup setting.name with
  | none => .ok fallback
  | some text =>
    match read (Text.trimBlanks text.toList) with
    | some value => .ok value
    | none => .error ⟨setting, text⟩

def word (environment : Environment) : Setting → Nat → Except SettingsError Nat :=
  environment.readWith (Text.readBounded (1 <<< 32))

def long (environment : Environment) : Setting → Nat → Except SettingsError Nat :=
  environment.readWith (Text.readBounded (1 <<< 64))

def flag (environment : Environment) : Setting → Bool → Except SettingsError Bool :=
  environment.readWith readFlag

/-- A number of hours whose seconds fit 64 bits. -/
def hours (environment : Environment) (setting : Setting) (fallback : Nat) :
    Except SettingsError Duration := do
  let hours ← environment.long setting fallback
  if hours * 3600 < 1 <<< 64 then return .ofSeconds (hours * 3600)
  -- The number is told as it was understood, not as it was written.
  else throw ⟨setting, toString hours⟩

end Environment

structure Settings where
  url : String := "sqlite://./data/slashing-protection.db"
  poolSize : Nat := 1
  pruningPoolSize : Nat := 1
  acquireTimeout : Duration := .ofSeconds 10
  busyTimeout : Duration := .ofMilliseconds 5000
  /-- Whether missing tables, and a missing database file, are created. -/
  autoMigrate : Bool := false
  protectionEnabled : Bool := true
  requireGenesisRoot : Bool := false
  pruning : PruningParameters := {}
  keysPath : String := "./keys"
  telemetry : TelemetrySettings := {}
deriving DecidableEq, Repr

namespace Settings

def read (environment : Environment) : Except SettingsError Settings := do
  let poolSize ← environment.word .poolSize 1
  let pruningPoolSize ← environment.word .pruningPoolSize 1
  let acquireTimeout ← environment.long .acquireTimeout 10
  let busyTimeout ← environment.long .busyTimeout 5000
  let autoMigrate ← environment.flag .autoMigrate false
  let protectionEnabled ← environment.flag .protectionEnabled true
  let requireGenesisRoot ← environment.flag .requireGenesisRoot false
  let enabled ← environment.flag .pruningEnabled false
  let epochsToKeep ← environment.long .epochsToKeep 250
  let slotsPerEpoch ← environment.long .slotsPerEpoch 32
  let interval ← environment.hours .pruningInterval 24
  let atBoot ← environment.flag .pruningAtBoot false
  let batchSize ← environment.long .batchSize 10000
  return {
    url := (environment.lookup "SIGNER_DB_URL").getD "sqlite://./data/slashing-protection.db"
    poolSize, pruningPoolSize
    acquireTimeout := .ofSeconds acquireTimeout
    busyTimeout := .ofMilliseconds busyTimeout
    autoMigrate, protectionEnabled, requireGenesisRoot
    pruning := { enabled, epochsToKeep, slotsPerEpoch, interval, atBoot, batchSize }
    keysPath := (environment.lookup "SIGNER_KEY_CONFIG_PATH").getD "./keys"
    telemetry := .read environment }

def protectionParameters (s : Settings) : ProtectionParameters where
  database :=
    { url := s.url, maxConnections := s.poolSize, acquireTimeout := s.acquireTimeout
      busyTimeout := s.busyTimeout, createIfMissing := s.autoMigrate }
  pruningPoolSize := s.pruningPoolSize
  requireGenesisRoot := s.requireGenesisRoot
  pruning := s.pruning

end Settings
end ValidatorSigner
