import Mathlib
import ValidatorSigner.Proofs.Protection.Opening
import ValidatorSigner.Proofs.Protection.Related
import ValidatorSigner.Proofs.Store.Contents

/-! # The gate of a context

A context is opened if its parameters can be worked with, the database they lead to can be opened and has the
expected version, and it belongs to a chain, should that be required. If not, the error tells the first of these
conditions that fails. Whatever comes of it, every file holds what it held.
-/
namespace ValidatorSigner.Protection
open Store Telemetry

inductive Condition where
  | parameters
  | connection
  | version
  | genesisRoot
deriving DecidableEq, Repr

def Condition.before : Condition → List Condition
  | .parameters => []
  | .connection => [.parameters]
  | .version => [.parameters, .connection]
  | .genesisRoot => [.parameters, .connection, .version]

def ConfigurationError.condition : ConfigurationError → Condition
  | .invalidParameters _ => .parameters
  | .connectionFailed .. => .connection
  | .versionUnreadable .. | .versionMissing _ | .versionMismatch .. => .version
  | .missingGenesisRoot => .genesisRoot

def PruningParameters.IsZero (p : PruningParameters) : ParameterFault → Prop
  | .epochsToKeep => p.epochsToKeep = 0
  | .slotsPerEpoch => p.slotsPerEpoch = 0
  | .interval => p.interval = .zero
  | .batchSize => p.batchSize = 0

/-- The database that the parameters open, as it was left; none if they do not open any. -/
def DatabaseParameters.offered? (p : DatabaseParameters) (disk : Disk) : Option Database :=
  match Location.ofUrl p.url with
  | .error _ => none
  | .ok location =>
    if p.acquireTimeout = .zero ∨ Host.longestBusyTimeout < p.busyTimeout.milliseconds then none
    else
      match Address.ofLocation p.createIfMissing location with
      | .error _ => none
      | .ok address => disk.offered? address

namespace ProtectionParameters
variable (p : ProtectionParameters) (disk : Disk)

def Meets : Condition → Prop
  | .parameters => p.pruning.enabled = true → ∀ fault, ¬p.pruning.IsZero fault
  | .connection => ∃ db, p.database.offered? disk = some db
  | .version => ∃ db, p.database.offered? disk = some db ∧
      .databaseVersion ∉ db.missing ∧ db.tables.version = some Database.expectedVersion
  | .genesisRoot => p.requireGenesisRoot = true →
      ∃ db root, p.database.offered? disk = some db ∧ db.tables.genesis = some root

def Explains : ConfigurationError → Prop
  | .invalidParameters fault => p.pruning.enabled = true ∧ p.pruning.IsZero fault
  | .connectionFailed url _ => url = p.database.url ∧ p.database.offered? disk = none
  | .versionUnreadable expected cause => expected = Database.expectedVersion ∧
      cause = .ofDatabase (.missingTable .databaseVersion) ∧
      ∃ db, p.database.offered? disk = some db ∧ .databaseVersion ∈ db.missing
  | .versionMissing expected => expected = Database.expectedVersion ∧
      ∃ db, p.database.offered? disk = some db ∧ .databaseVersion ∉ db.missing ∧ db.tables.version = none
  | .versionMismatch found expected => expected = Database.expectedVersion ∧ found ≠ expected ∧
      ∃ db, p.database.offered? disk = some db ∧ .databaseVersion ∉ db.missing ∧ db.tables.version = some found
  | .missingGenesisRoot => p.requireGenesisRoot = true ∧
      ∃ db, p.database.offered? disk = some db ∧ db.tables.genesis = none

structure FailsFirst (e : ConfigurationError) : Prop where
  explained : p.Explains disk e
  fails : ¬p.Meets disk e.condition
  before : ∀ condition ∈ e.condition.before, p.Meets disk condition

end ProtectionParameters

/-- A database without any table, or one with all of them, whose rows have a meaning. -/
def Whole (db : Database) : Prop := db.missing = Table.all ∨ db.missing = [] ∧ db.tables.WellFormed

section Steps
variable {p : ProtectionParameters} {host : Host}

theorem validate_cases (p : PruningParameters) :
    (p.validate = .ok () ∧ (p.enabled = true → ∀ fault, ¬p.IsZero fault)) ∨
    ∃ fault, p.validate = .error (.invalidParameters fault) ∧ p.enabled = true ∧ p.IsZero fault := by
  unfold PruningParameters.validate PruningParameters.fault?
  cases henabled : p.enabled with
  | false => exact .inl ⟨rfl, nofun⟩
  | true =>
    by_cases hepochs : p.epochsToKeep = 0
    · exact .inr ⟨.epochsToKeep, by simp [hepochs], rfl, hepochs⟩
    by_cases hslots : p.slotsPerEpoch = 0
    · exact .inr ⟨.slotsPerEpoch, by simp [hepochs, hslots], rfl, hslots⟩
    by_cases hinterval : p.interval = .zero
    · exact .inr ⟨.interval, by simp [hepochs, hslots, hinterval], rfl, hinterval⟩
    by_cases hbatch : p.batchSize = 0
    · exact .inr ⟨.batchSize, by simp [hepochs, hslots, hinterval, hbatch], rfl, hbatch⟩
    refine .inl ⟨by simp [hepochs, hslots, hinterval, hbatch], fun _ fault => ?_⟩
    cases fault with
    | epochsToKeep => exact hepochs
    | slotsPerEpoch => exact hslots
    | interval => exact hinterval
    | batchSize => exact hbatch

theorem connect_cases (p : DatabaseParameters) (host : Host) :
    (∃ fault disk, host.connect p = (.error (.connectionFailed p.url fault), { host with disk }) ∧
      p.offered? host.disk = none ∧ host.disk.Keeps disk) ∨
    ∃ connection disk db, host.connect p = (.ok (connection, disk.read connection), { host with disk }) ∧
      p.offered? host.disk = some db ∧ host.disk.Keeps disk ∧ disk.Serves connection db.content := by
  unfold Host.connect DatabaseParameters.offered?
  cases Location.ofUrl p.url with
  | error fault => exact .inl ⟨fault, host.disk, rfl, rfl, .refl _⟩
  | ok location =>
    dsimp only
    by_cases hzero : p.acquireTimeout = .zero
    · rw [if_pos hzero, if_pos (.inl hzero)]
      exact .inl ⟨_, host.disk, rfl, rfl, .refl _⟩
    · cases Address.ofLocation p.createIfMissing location with
      | error fault =>
        rw [if_neg hzero, ite_self]
        exact .inl ⟨fault, host.disk, rfl, rfl, .refl _⟩
      | ok address =>
        simp only [hzero, false_or, if_false]
        unfold Host.connectTo
        rcases host.disk.open_cases address with ⟨fault, hr, hnone⟩ | ⟨file?, reached, hr, hkeeps, hopen⟩
        · simp only [hr, hnone, ite_self]
          exact .inl ⟨fault, host.disk, rfl, trivial, .refl _⟩
        · by_cases hlong : Host.longestBusyTimeout < p.busyTimeout.milliseconds
          · simp only [hr, if_pos hlong]
            exact .inl ⟨_, reached, rfl, trivial, hkeeps⟩
          · rcases hopen with ⟨fault, hf, hnone⟩ | ⟨connection, disk, db, ho, hsome, hkeeps', hserves⟩
            · simp only [hr, if_neg hlong, hf, hnone]
              exact .inl ⟨fault, reached, rfl, trivial, hkeeps⟩
            · simp only [hr, if_neg hlong, ho, hsome]
              exact .inr ⟨connection, disk, db, rfl, rfl, hkeeps', hserves⟩

theorem verifyVersion_cases (expected : Int) {db served : Database} (hc : served.content = db.content) :
    (verifyVersion expected served = .ok expected ∧ .databaseVersion ∉ db.missing ∧
      db.tables.version = some expected) ∨
    (verifyVersion expected served =
        .error (.versionUnreadable expected (.ofDatabase (.missingTable .databaseVersion))) ∧
      .databaseVersion ∈ db.missing) ∨
    (verifyVersion expected served = .error (.versionMissing expected) ∧ .databaseVersion ∉ db.missing ∧
      db.tables.version = none) ∨
    ∃ found, verifyVersion expected served = .error (.versionMismatch found expected) ∧
      .databaseVersion ∉ db.missing ∧ db.tables.version = some found ∧ found ≠ expected := by
  obtain ⟨htables, hmissing⟩ := Database.content_eq_iff.mp hc
  unfold verifyVersion
  by_cases hm : .databaseVersion ∈ db.missing
  · have hfind : Transaction.findVersion.run served = .error (.ofDatabase (.missingTable .databaseVersion)) :=
      if_pos (hmissing ▸ hm)
    rw [hfind]
    exact .inr (.inl ⟨rfl, hm⟩)
  · have hfind : Transaction.findVersion.run served = .ok (db.tables.version, served) :=
      Transaction.findVersion_ok_iff.mpr ⟨hmissing ▸ hm, htables ▸ rfl, rfl⟩
    rw [hfind]
    cases hv : db.tables.version with
    | none => exact .inr (.inr (.inl ⟨rfl, hm, rfl⟩))
    | some found =>
      by_cases he : found = expected
      · subst he
        exact .inl ⟨if_pos rfl, hm, rfl⟩
      · exact .inr (.inr (.inr ⟨found, if_neg he, hm, rfl, he⟩))

/-- Asking whether the database belongs to a chain keeps what every file holds. -/
theorem keeps_run_genesisExists (host : Host) (context : Context) :
    host.disk.Keeps (host.run context Request.genesisExists).2.2.disk := by
  have hrelates : Request.Relates (· = ·) Request.genesisExists := Request.relates_genesisExists
  have hsame : (Request.genesisExists (host.engine context)).2.database = host.disk.read context.connection :=
    (hrelates (host.engine context)).symm
  have hkeeps := (host.disk.keeps_write_read context.connection).1
  rw [← hsame] at hkeeps
  exact hkeeps

/-- A context that has just been opened answers at once whether its database belongs to a chain. -/
theorem run_genesisExists_opened {connection : Connection} {db : Database} (hl : host.locked = false)
    (hs : host.disk.Serves connection db.content) (hm : db.missing = []) (hw : db.tables.WellFormed) :
    ∃ disk, host.run ⟨connection, .ofParameters p⟩ Request.genesisExists =
        (.ok db.tables.genesis.isSome, ⟨connection, .ofParameters p⟩, { host with disk }) ∧
      disk.Serves connection db.content := by
  let e := host.engine ⟨connection, .ofParameters p⟩
  obtain ⟨htables, hmissing⟩ := Database.content_eq_iff.mp hs.read
  have hfree : e.obstacle? e.service.decisions = none := by
    simp [e, Host.engine, Engine.obstacle?, Service.ofParameters, hl]
  have hanswer : Request.genesisExists e = _ :=
    transactOn_of_ok hfree (genesisExists_apply (hmissing.trans hm) (htables ▸ hw))
  obtain ⟨hkeeps, hsame⟩ := host.disk.keeps_write_read connection
  refine ⟨_, ?_, hkeeps.serves hs⟩
  have hrun : host.run ⟨connection, .ofParameters p⟩ Request.genesisExists =
      ((Request.genesisExists e).1,
        ⟨(host.disk.write connection (Request.genesisExists e).2.database).2, (Request.genesisExists e).2.service⟩,
        { host with
          disk := (host.disk.write connection (Request.genesisExists e).2.database).1
          metrics := (Request.genesisExists e).2.metrics }) := rfl
  rw [hrun, hanswer, ← htables]
  exact congrArg (fun connection => (_, Context.mk connection _, _)) hsame

end Steps

section Gate
variable {p : ProtectionParameters} {host : Host}

/-- Whether it opens a context or not, every file holds what it held. -/
theorem Context.create_keeps (p : ProtectionParameters) (host : Host) :
    host.disk.Keeps (Context.create p host).2.disk := by
  unfold Context.create
  cases p.pruning.validate with
  | error e => exact .refl _
  | ok =>
    dsimp only
    rcases connect_cases p.database host with ⟨fault, disk, hc, -, hk⟩ | ⟨connection, disk, db, hc, -, hk, -⟩
    · rw [hc]
      exact hk
    · simp only [hc]
      split
      · exact hk
      · split
        · exact hk
        · have hrun := keeps_run_genesisExists { host with disk } ⟨connection, .ofParameters p⟩
          have hlast := hk.trans hrun
          split
          · rename_i ho
            rw [ho] at hlast
            exact hlast
          · rename_i ho
            rw [ho] at hlast
            exact hlast
          · rename_i ho
            rw [ho] at hlast
            exact hlast

theorem failsFirst_version {db : Database} (hparameters : p.Meets host.disk .parameters)
    (hsome : p.database.offered? host.disk = some db)
    (hfails : ¬(.databaseVersion ∉ db.missing ∧ db.tables.version = some Database.expectedVersion))
    {e : ConfigurationError} (he : e.condition = .version) (hx : p.Explains host.disk e) :
    p.FailsFirst host.disk e := by
  have hconnection : p.Meets host.disk .connection := ⟨db, hsome⟩
  refine ⟨hx, ?_, ?_⟩
  · rw [he]
    rintro ⟨db', hsome', hmet⟩
    rw [Option.some.inj (hsome'.symm.trans hsome)] at hmet
    exact hfails hmet
  · rw [he]
    simp only [Condition.before, List.forall_mem_cons]
    exact ⟨hparameters, hconnection, nofun⟩

theorem create_of_unverified {connection : Connection} {disk : Disk} {e : ConfigurationError}
    (hvalid : p.pruning.validate = .ok ())
    (hc : host.connect p.database = (.ok (connection, disk.read connection), { host with disk }))
    (hversion : verifyVersion Database.expectedVersion (disk.read connection) = .error e) :
    Context.create p host = (.error (.configuration e), { host with disk }) := by
  simp only [Context.create, hvalid, hc, hversion]

theorem create_of_stamped {connection : Connection} {disk : Disk} {db : Database}
    (hl : p.requireGenesisRoot = true → host.locked = false) (hw : Whole db)
    (hvalid : p.pruning.validate = .ok ()) (hparameters : p.Meets host.disk .parameters)
    (hc : host.connect p.database = (.ok (connection, disk.read connection), { host with disk }))
    (hsome : p.database.offered? host.disk = some db) (hs : disk.Serves connection db.content)
    (hversion : verifyVersion Database.expectedVersion (disk.read connection) = .ok Database.expectedVersion)
    (hm : .databaseVersion ∉ db.missing) (hv : db.tables.version = some Database.expectedVersion) :
    (∃ disk', Context.create p host = (.ok ⟨connection, .ofParameters p⟩, { host with disk := disk' }) ∧
      disk'.Serves connection db.content ∧ ∀ condition, p.Meets host.disk condition) ∨
    ∃ host', Context.create p host = (.error (.configuration .missingGenesisRoot), host') ∧
      p.FailsFirst host.disk .missingGenesisRoot := by
  have hstamped : p.Meets host.disk .version := ⟨db, hsome, hm, hv⟩
  have hmet (hgenesis : p.Meets host.disk .genesisRoot) (condition : Condition) : p.Meets host.disk condition := by
    cases condition with
    | parameters => exact hparameters
    | connection => exact ⟨db, hsome⟩
    | version => exact hstamped
    | genesisRoot => exact hgenesis
  simp only [Context.create, hvalid, hc, hversion]
  cases hrequired : p.requireGenesisRoot with
  | false =>
    refine .inl ⟨disk, rfl, hs, hmet fun h => ?_⟩
    rw [hrequired] at h
    cases h
  | true =>
    obtain hall | ⟨hinstalled, hwf⟩ := hw
    · rw [hall] at hm
      exact absurd (by decide) hm
    · obtain ⟨disk', hrun, hs'⟩ := @run_genesisExists_opened p { host with disk } connection db
        (hl hrequired) hs hinstalled hwf
      simp only [hrun]
      cases hg : db.tables.genesis with
      | some root => exact .inl ⟨disk', rfl, hs', hmet fun _ => ⟨db, root, hsome, hg⟩⟩
      | none =>
        refine .inr ⟨_, rfl, ⟨hrequired, db, hsome, hg⟩, fun hchain => ?_, ?_⟩
        · obtain ⟨db', root, hsome', hg'⟩ := hchain hrequired
          rw [Option.some.inj (hsome'.symm.trans hsome), hg] at hg'
          cases hg'
        · simp only [ConfigurationError.condition, Condition.before, List.forall_mem_cons]
          exact ⟨hparameters, ⟨db, hsome⟩, hstamped, nofun⟩

/-- A context is opened over the database of the parameters, which meet all conditions, or an error is about the
first condition that fails. -/
theorem create_cases (hl : p.requireGenesisRoot = true → host.locked = false)
    (hw : ∀ db, p.database.offered? host.disk = some db → Whole db) :
    (∃ connection disk db, Context.create p host = (.ok ⟨connection, .ofParameters p⟩, { host with disk }) ∧
      p.database.offered? host.disk = some db ∧ disk.Serves connection db.content ∧
      ∀ condition, p.Meets host.disk condition) ∨
    ∃ e host', Context.create p host = (.error (.configuration e), host') ∧ p.FailsFirst host.disk e := by
  rcases validate_cases p.pruning with ⟨hvalid, hparameters⟩ | ⟨fault, hvalid, henabled, hzero⟩
  · rcases connect_cases p.database host with ⟨fault, disk, hc, hnone, -⟩ | ⟨connection, disk, db, hc, hsome, -, hs⟩
    · have ho : Context.create p host =
          (.error (.configuration (.connectionFailed p.database.url fault)), { host with disk }) := by
        simp only [Context.create, hvalid, hc]
      refine .inr ⟨_, _, ho, ⟨rfl, hnone⟩, ?_, ?_⟩
      · rintro ⟨db, hsome⟩
        rw [hnone] at hsome
        cases hsome
      · simp only [ConfigurationError.condition, Condition.before, List.forall_mem_cons]
        exact ⟨hparameters, nofun⟩
    · rcases verifyVersion_cases Database.expectedVersion hs.read with
        ⟨hversion, hm, hv⟩ | ⟨hversion, hm⟩ | ⟨hversion, hm, hv⟩ | ⟨found, hversion, hm, hv, hne⟩
      · rcases create_of_stamped hl (hw db hsome) hvalid hparameters hc hsome hs hversion hm hv with
          ⟨disk', ho, hs', hmet⟩ | ⟨host', ho, hf⟩
        · exact .inl ⟨connection, disk', db, ho, hsome, hs', hmet⟩
        · exact .inr ⟨_, host', ho, hf⟩
      all_goals
        refine .inr ⟨_, _, create_of_unverified hvalid hc hversion, ?_⟩
        refine failsFirst_version hparameters hsome (fun h => ?_) rfl ?_
      · exact h.1 hm
      · exact ⟨rfl, rfl, db, hsome, hm⟩
      · rw [hv] at h
        cases h.2
      · exact ⟨rfl, db, hsome, hm, hv⟩
      · rw [hv] at h
        exact hne (Option.some.inj h.2)
      · exact ⟨rfl, hne, db, hsome, hm, hv⟩
  · have ho : Context.create p host = (.error (.configuration (.invalidParameters fault)), host) := by
      simp only [Context.create, hvalid]
    exact .inr ⟨_, host, ho, ⟨henabled, hzero⟩, fun hm => hm henabled fault hzero, nofun⟩

/-- Unless others hold the write lock when it is asked for a chain, a context is opened exactly if the parameters and
the database that they open meet all conditions, and is then over that database. Otherwise a fatal error is about the
first condition that fails, and what it says is so. In any case every database keeps its rows and its tables, and
every file holds what it held. -/
theorem Context.create_exact (p : ProtectionParameters) (host : Host)
    (hl : p.requireGenesisRoot = true → host.locked = false)
    (hw : ∀ db, p.database.offered? host.disk = some db → Whole db) :
    let opened := Context.create p host
    ((∃ context, opened.1 = .ok context) ↔ ∀ condition, p.Meets host.disk condition) ∧
    (∀ context, opened.1 = .ok context → context.service = .ofParameters p ∧
      ∃ db, p.database.offered? host.disk = some db ∧
        (opened.2.disk.read context.connection).content = db.content) ∧
    (∀ e, opened.1 = .error e → e.isFatal = true ∧ ∃ cause, e = .configuration cause ∧ p.FailsFirst host.disk cause) ∧
    host.disk.Keeps opened.2.disk := by
  intro opened
  have hkeeps : host.disk.Keeps opened.2.disk := create_keeps p host
  rcases create_cases hl hw with ⟨connection, disk, db, ho, hsome, hs, hmet⟩ | ⟨cause, host', ho, hf⟩
  · rw [show opened = _ from ho] at hkeeps ⊢
    refine ⟨⟨fun _ => hmet, fun _ => ⟨_, rfl⟩⟩, fun context hopened => ?_, nofun, hkeeps⟩
    cases hopened
    exact ⟨rfl, db, hsome, hs.read⟩
  · rw [show opened = _ from ho] at hkeeps ⊢
    refine ⟨⟨nofun, fun hmet => absurd (hmet _) hf.fails⟩, nofun, fun e he => ?_, hkeeps⟩
    cases he
    exact ⟨rfl, cause, rfl, hf⟩

theorem whole_of_offered (hw : ∀ db ∈ host.disk.databases, Whole db) {db : Database}
    (ho : p.database.offered? host.disk = some db) : Whole db := by
  unfold DatabaseParameters.offered? at ho
  split at ho
  · cases ho
  · split at ho
    · cases ho
    · split at ho
      · cases ho
      · obtain rfl | hmem := Disk.mem_of_offered ho
        · exact .inl rfl
        · exact hw db hmem

end Gate

def chainlessHost : Host where
  disk := { entries := [(["home", "d"], .database 0)], databases := [Database.fresh] }

def chainParameters : ProtectionParameters := { database := { url := "d" }, requireGenesisRoot := true }

theorem chainless_whole : ∀ db ∈ chainlessHost.disk.databases, Whole db := by
  simp only [chainlessHost, List.mem_singleton, forall_eq]
  refine .inr ⟨rfl, ?_⟩
  constructor <;> nofun

theorem chainless_offered : chainParameters.database.offered? chainlessHost.disk = some Database.fresh := by
  have hurl : Location.ofUrl "d" = .ok { name := "d" } := by cbv
  have hname : Address.ofLocation false { name := "d" } =
      .ok { path := [100], access := .readWrite, inMemory := false } := by cbv
  have hpath : chainlessHost.disk.databasePath (Text.lenientText [100]) = .ok ["home", "d"] := by
    have htext : Text.lenientText [100] = "d" := by cbv
    have hparts : "d".splitOn "/" = ["d"] := by cbv
    have hstart : chainlessHost.disk.start "d" = ["home"] := by cbv
    have hstep : chainlessHost.disk.simplify ["home"] "d" = .ok ["home", "d"] := by cbv
    simp only [Disk.databasePath, htext, hparts, hstart, List.foldlM_cons, hstep]
    rfl
  have hat : chainlessHost.disk.at? ["home", "d"] = some (.database 0) := by cbv
  have hvolatile : Address.isVolatile { path := [100], access := .readWrite, inMemory := false } = false := by cbv
  simp only [DatabaseParameters.offered?, chainParameters, hurl, hname, Disk.offered?, hvolatile, hpath, hat]
  decide

/-- A chain is required of a database that belongs to none. -/
theorem create_exact_chainless :
    ((chainParameters.requireGenesisRoot = true → chainlessHost.locked = false) ∧
      ∀ db, chainParameters.database.offered? chainlessHost.disk = some db → Whole db) ∧
    (Context.create chainParameters chainlessHost).1 = .error (.configuration .missingGenesisRoot) := by
  have hl : chainParameters.requireGenesisRoot = true → chainlessHost.locked = false := fun _ => rfl
  have hw : ∀ db, chainParameters.database.offered? chainlessHost.disk = some db → Whole db :=
    fun _ => whole_of_offered chainless_whole
  obtain ⟨hiff, -, herror, -⟩ := Context.create_exact chainParameters chainlessHost hl hw
  refine ⟨⟨hl, hw⟩, ?_⟩
  cases ho : (Context.create chainParameters chainlessHost).1 with
  | ok context =>
    obtain ⟨db, root, hsome, hg⟩ := hiff.mp ⟨context, ho⟩ .genesisRoot rfl
    rw [← Option.some.inj (chainless_offered.symm.trans hsome)] at hg
    cases hg
  | error e =>
    obtain ⟨-, cause, rfl, hf⟩ := herror e ho
    have hfails := hf.fails
    cases cause with
    | missingGenesisRoot => rfl
    | invalidParameters fault => exact absurd hf.explained.1 (by decide)
    | connectionFailed url fault => exact absurd ⟨_, chainless_offered⟩ hfails
    | versionUnreadable expected cause => exact absurd ⟨_, chainless_offered, by decide, rfl⟩ hfails
    | versionMissing expected => exact absurd ⟨_, chainless_offered, by decide, rfl⟩ hfails
    | versionMismatch found expected => exact absurd ⟨_, chainless_offered, by decide, rfl⟩ hfails

end ValidatorSigner.Protection
