import ValidatorSigner.Proofs.Protection.Related
import ValidatorSigner.Proofs.Signing.Safety

/-! # Databases of another version

Opening a context refuses a database that is stamped with another version. An installation comes before and
stamps whatever version it finds: a signer that installs takes over the database of another version, as long as
its tables can be written.
-/
namespace ValidatorSigner
open Keys Protection Signing Store Telemetry

def Store.Disk.Has (disk : Disk) (n : Nat) (tables : Tables) (missing : List Table) : Prop :=
  ∃ database, disk.databases[n]? = some database ∧ database.tables = tables ∧ database.missing = missing

def Enrols (db db' : Database) : Prop :=
  db'.missing = db.missing ∧
    ∃ enrolled, db'.tables = { db.tables with validators := db.tables.validators ++ enrolled }

instance isPreorder_enrols : IsPreorder Database Enrols where
  refl db := ⟨rfl, [], by rw [List.append_nil]⟩
  trans _ _ _ := by
    rintro ⟨hm₁, enrolled₁, ht₁⟩ ⟨hm₂, enrolled₂, ht₂⟩
    refine ⟨hm₂.trans hm₁, enrolled₁ ++ enrolled₂, ?_⟩
    rw [ht₂, ht₁, List.append_assoc]

section Hosts
variable {host : Host} {n : Nat} {tables : Tables} {missing : List Table}

theorem Store.Disk.Has.replace {disk : Disk} {tables' : Tables} {missing' : List Table}
    (hh : disk.Has n tables missing) {database : Database} (ht : database.tables = tables')
    (hm : database.missing = missing') : (disk.replace n database).Has n tables' missing' := by
  obtain ⟨_, hd, -⟩ := hh
  exact ⟨database, Disk.getElem?_replace hd, ht, hm⟩

/-- Parameters that lead to a database do not open it, or open it with its rows; it keeps them either way. -/
theorem connect_has {p : DatabaseParameters} (hl : p.LeadsTo host.disk n) (hh : host.disk.Has n tables missing) :
    (∃ fault, host.connect p = (.error (.connectionFailed p.url fault), host)) ∨
    ∃ connection database host', host.connect p = (.ok (connection, database), host') ∧
      connection.number? = some n ∧ database.tables = tables ∧ database.missing = missing ∧
      host'.disk.Has n tables missing := by
  have hhere := hh
  obtain ⟨_, hd, ht, hm⟩ := hhere
  rcases connect_settles hl hd with hfailed | ⟨readOnly, writeAhead, hc, -⟩
  · exact .inl hfailed
  · exact .inr ⟨_, _, _, hc, rfl, ht, hm, hh.replace ht hm⟩

theorem Store.Disk.Has.connect {p : DatabaseParameters} (hh : host.disk.Has n tables missing)
    (hl : p.LeadsTo host.disk n) : (host.connect p).2.disk.Has n tables missing := by
  rcases connect_has hl hh with ⟨fault, hc⟩ | ⟨_, _, _, hc, -, -, -, hh'⟩
  · rw [hc]
    exact hh
  · rw [hc]
    exact hh'

theorem install_has {connection : Connection} (hn : connection.number? = some n)
    (hh : host.disk.Has n tables missing) :
    (∃ e, host.install connection = (.error e, host)) ∨
    ∃ host', host.install connection = (.ok (), host') ∧ host.disk.SamePaths host'.disk ∧
      host'.disk.Has n { tables with version := some Database.expectedVersion } [] := by
  obtain ⟨_, hd, rfl, -⟩ := hh
  have hread := Disk.read_of_number hn hd
  unfold Host.install
  dsimp only
  split
  · exact .inl ⟨_, rfl⟩
  · split
    · exact .inl ⟨_, rfl⟩
    · refine .inr ⟨_, rfl, (Disk.write_same hn _).1, ?_⟩
      simp only [Disk.write, hn, hread]
      exact ⟨_, Disk.getElem?_replace hd, rfl, rfl⟩

theorem verifyVersion_of_other {database : Database} (hm : .databaseVersion ∉ database.missing) {v : Int}
    (hv : database.tables.version = some v) {expected : Int} (hne : v ≠ expected) :
    verifyVersion expected database = .error (.versionMismatch v expected) := by
  have hfind : Transaction.findVersion.run database = .ok (some v, database) :=
    Transaction.findVersion_ok_iff.mpr ⟨hm, hv, rfl⟩
  simp only [verifyVersion, hfind, if_neg hne]

/-- Why a context is not opened over a database of version `v`. -/
def Protection.ProtectionParameters.Refuses (p : ProtectionParameters) (v : Int) (e : ConfigurationError) : Prop :=
  p.pruning.validate = .error e ∨ (∃ fault, e = .connectionFailed p.database.url fault) ∨
    e = .versionMismatch v Database.expectedVersion

theorem create_of_other {p : ProtectionParameters} (hl : p.database.LeadsTo host.disk n)
    (hh : host.disk.Has n tables missing) (hm : .databaseVersion ∉ missing) {v : Int}
    (hv : tables.version = some v) (hne : v ≠ Database.expectedVersion) :
    ∃ e host', Context.create p host = (.error (.configuration e), host') ∧ p.Refuses v e ∧
      host'.disk.Has n tables missing := by
  unfold Context.create
  cases hvalid : p.pruning.validate with
  | error e => exact ⟨e, host, rfl, .inl hvalid, hh⟩
  | ok =>
    rcases connect_has hl hh with ⟨fault, hc⟩ | ⟨connection, database, host', hc, -, rfl, rfl, hh'⟩
    · simp only [hc]
      exact ⟨_, host, rfl, .inr (.inl ⟨fault, rfl⟩), hh⟩
    · simp only [hc, verifyVersion_of_other hm hv hne]
      exact ⟨_, host', rfl, .inr (.inr rfl), hh'⟩

end Hosts

section Starts
variable {settings : Settings} {host : Host} {n : Nat} {tables : Tables}

theorem run_enrols {α : Type} {context : Context} (hn : context.connection.number? = some n) {request : Request α}
    (hr : Request.Relates Enrols request)
    (hh : ∃ enrolled, host.disk.Has n { tables with validators := tables.validators ++ enrolled } []) :
    ∃ enrolled, (host.run context request).2.2.disk.Has n
      { tables with validators := tables.validators ++ enrolled } [] := by
  obtain ⟨enrolled, database, hd, ht, hm⟩ := hh
  have hread := Disk.read_of_number hn hd
  obtain ⟨hm', further, ht'⟩ := hr (host.engine context)
  rw [show (host.engine context).database = _ from hread] at hm' ht'
  refine ⟨enrolled ++ further, ?_⟩
  rw [Host.run, act_of_number hn]
  refine ⟨_, Disk.getElem?_replace hd, ?_, ?_⟩
  · rw [← List.append_assoc]
    refine ht'.trans ?_
    simp only [ht]
  · exact hm'.trans hm

/-- Over an installed database, a start adds validators at most. -/
theorem enrols_startInvariant (hl : settings.protectionParameters.database.LeadsTo host.disk n)
    (hv : tables.version = some Database.expectedVersion) :
    StartInvariant settings
      (fun host' => host.disk.SamePaths host'.disk ∧
        ∃ enrolled, host'.disk.Has n { tables with validators := tables.validators ++ enrolled } [])
      (fun context host' => (host.disk.SamePaths host'.disk ∧
        ∃ enrolled, host'.disk.Has n { tables with validators := tables.validators ++ enrolled } []) ∧
          context.connection.number? = some n) where
  counted _ hp := hp
  connect := by
    rintro host' ⟨hs, enrolled, hh⟩
    exact ⟨hs.trans (connect_same (hl.same hs)).1, enrolled, hh.connect (hl.same hs)⟩
  opened := by
    rintro host' connection database ⟨hs, enrolled, hh⟩ ho
    exact ⟨⟨hs.trans (connect_same (hl.same hs)).1, enrolled, hh.connect (hl.same hs)⟩,
      (connect_same (hl.same hs)).2 _ ho⟩
  install := by
    rintro host' context ⟨⟨hs, enrolled, hh⟩, hn⟩
    rcases install_has hn hh with ⟨e, hi⟩ | ⟨host'', hi, hs', hh'⟩
    · rw [hi]
      exact ⟨hs, enrolled, hh⟩
    · rw [hi]
      refine ⟨hs.trans hs', enrolled, ?_⟩
      rwa [← hv] at hh'
  genesis := by
    rintro host' context ⟨⟨hs, hh⟩, hn⟩
    have hrelates : Request.Relates Enrols Request.genesisExists := Request.relates_genesisExists
    exact ⟨⟨hs.trans (act_same hn _).1, run_enrols hn hrelates hh⟩, (act_same hn _).2⟩
  register := by
    rintro host' context keys ⟨⟨hs, hh⟩, hn⟩
    have hrelates : Request.Relates Enrols (Request.registerValidators keys) :=
      Request.relates_registerValidators (fun db key _ => ⟨rfl, [⟨db.tables.nextId, key⟩], rfl⟩) keys
    exact ⟨⟨hs.trans (act_same hn _).1, run_enrols hn hrelates hh⟩, (act_same hn _).2⟩
  host hq := hq.1

/-- An installation is refused, and nothing is changed, or it stamps the version. -/
theorem installed_cases (hauto : settings.autoMigrate = true)
    (hl : settings.protectionParameters.database.LeadsTo host.disk n) {missing : List Table}
    (hh : host.disk.Has n tables missing) :
    (∃ e host', Daemon.install settings host = (.error e, host') ∧ host'.disk.Has n tables missing ∧
      ((∃ fault, e = .unreachable (.connectionFailed settings.url fault)) ∨ ∃ cause, e = .notInstalled cause)) ∨
    ∃ host', Daemon.install settings host = (.ok (), host') ∧ host.disk.SamePaths host'.disk ∧
      host'.disk.Has n { tables with version := some Database.expectedVersion } [] := by
  unfold Daemon.install
  rw [hauto]
  rcases connect_has hl hh with ⟨fault, hc⟩ | ⟨connection, database, host₁, hc, hn, -, -, hh₁⟩
  · simp only [hc]
    exact .inl ⟨_, host, rfl, hh, .inl ⟨fault, rfl⟩⟩
  · have hsame := (connect_same hl).1
    rw [hc] at hsame
    simp only [hc]
    rcases install_has hn hh₁ with ⟨cause, hi⟩ | ⟨host₂, hi, hs, hh₂⟩
    · simp only [hi]
      exact .inl ⟨_, host₁, rfl, hh₁, .inr ⟨cause, rfl⟩⟩
    · simp only [hi]
      exact .inr ⟨host₂, rfl, hsame.trans hs, hh₂⟩

theorem startWith_of_refused (hp : settings.protectionEnabled = true) {ring : KeyRing} {e : StartError} {host' : Host}
    (hi : Daemon.install settings { host with metrics := { host.metrics with loadedKeys := ring.size } } =
      (.error e, host')) : Daemon.startWith settings ring host = (.error e, host') := by
  simp only [Daemon.startWith, hp, Bool.not_true, Bool.false_eq_true, if_false, hi]

theorem startWith_of_installed (hp : settings.protectionEnabled = true) {ring : KeyRing} {host' : Host}
    (hi : Daemon.install settings { host with metrics := { host.metrics with loadedKeys := ring.size } } =
      (.ok (), host')) :
    Daemon.startWith settings ring host =
      ((Daemon.protect settings ring host').1.map fun context => ⟨ring, some context⟩,
        (Daemon.protect settings ring host').2) := by
  simp only [Daemon.startWith, hp, Bool.not_true, Bool.false_eq_true, if_false, hi]
  cases hc : Daemon.protect settings ring host' with
  | mk outcome host'' =>
    cases outcome with
    | error e => rfl
    | ok context => rfl

/-- A signer that does not install refuses to start over a database of another version, and leaves all rows as
they are. One that installs fails likewise as long as the database cannot be installed; otherwise it stamps its
own version over the other one and adds its keys, and all other rows stay. -/
theorem other_version_refused_or_stamped (settings : Settings) (ring : KeyRing) (host : Host) (n : Nat)
    (tables : Tables) (missing : List Table) (v : Int)
    (hp : settings.protectionEnabled = true)
    (hl : settings.protectionParameters.database.LeadsTo host.disk n)
    (hh : host.disk.Has n tables missing) (hm : .databaseVersion ∉ missing)
    (hv : tables.version = some v) (hne : v ≠ Database.expectedVersion) :
    let started := Daemon.startWith settings ring host
    (settings.autoMigrate = false →
      (∃ e, started.1 = .error (.notOpened (.configuration e)) ∧ settings.protectionParameters.Refuses v e) ∧
        started.2.disk.Has n tables missing) ∧
    (settings.autoMigrate = true →
      (((∃ fault, started.1 = .error (.unreachable (.connectionFailed settings.url fault))) ∨
          ∃ cause, started.1 = .error (.notInstalled cause)) ∧ started.2.disk.Has n tables missing) ∨
      ∃ enrolled, started.2.disk.Has n
        { tables with
          version := some Database.expectedVersion, validators := tables.validators ++ enrolled } []) := by
  intro started
  let counted : Host := { host with metrics := { host.metrics with loadedKeys := ring.size } }
  have hlcounted : settings.protectionParameters.database.LeadsTo counted.disk n := hl
  have hhcounted : counted.disk.Has n tables missing := hh
  constructor
  · intro hauto
    have hinstall : Daemon.install settings counted = (.ok (), counted) := by
      simp only [Daemon.install, hauto, Bool.not_false, if_true]
    obtain ⟨e, host', hcreate, hrefuses, hh'⟩ := create_of_other hlcounted hhcounted hm hv hne
    have hprotect : Daemon.protect settings ring counted = (.error (.notOpened (.configuration e)), host') := by
      simp only [Daemon.protect, hcreate]
    simp only [started, startWith_of_installed hp hinstall, hprotect]
    exact ⟨⟨e, rfl, hrefuses⟩, hh'⟩
  · intro hauto
    rcases installed_cases hauto hlcounted hhcounted with ⟨e, host', hinstall, hh', hwhy⟩ | ⟨host', hinstall, hs, hh'⟩
    · left
      simp only [started, startWith_of_refused hp hinstall, Except.error.injEq]
      exact ⟨hwhy, hh'⟩
    · right
      have inv := @enrols_startInvariant settings host' n
        { tables with version := some Database.expectedVersion } (hlcounted.same hs) rfl
      obtain ⟨⟨-, henrolled⟩, -⟩ := inv.protect ⟨.refl _, [], by simpa only [List.append_nil] using hh'⟩ ring
      simp only [started, startWith_of_installed hp hinstall]
      exact henrolled

end Starts

def laterTables : Tables := { validators := [⟨1, Deployment.sampleKey⟩], version := some 2 }

def laterHost : Host where
  disk := { entries := [(["home", "d"], .database 0)], databases := [{ tables := laterTables }] }

def laterRing : KeyRing where
  signers := [⟨Deployment.sampleKey, fun _ => ⟨List.replicate 96 2, rfl⟩⟩]
  nodup := List.nodup_singleton _

theorem later_leads (settings : Settings) (hu : settings.url = "d") :
    settings.protectionParameters.database.LeadsTo laterHost.disk 0 := by
  intro location address hlocation haddress
  have hlocation' : Location.ofUrl "d" = .ok location := hu ▸ hlocation
  have hleads := Deployment.sample_leads settings.autoMigrate location address hlocation' haddress
  exact hleads.same ⟨rfl, rfl⟩

/-- Over the tables of a later version, a signer that does not install does not start, and they stay. -/
theorem later_version_refused :
    (.databaseVersion ∉ ([] : List Table) ∧ laterTables.version = some 2 ∧ (2 : Int) ≠ Database.expectedVersion) ∧
    (∃ e, (Daemon.startWith { url := "d" } laterRing laterHost).1 = .error (.notOpened (.configuration e))) ∧
      (Daemon.startWith { url := "d" } laterRing laterHost).2.disk.Has 0 laterTables [] := by
  have hh : laterHost.disk.Has 0 laterTables [] := ⟨_, rfl, rfl, rfl⟩
  obtain ⟨hrefused, -⟩ := other_version_refused_or_stamped { url := "d" } laterRing laterHost 0 laterTables [] 2
    rfl (later_leads _ rfl) hh (by decide) rfl (by decide)
  obtain ⟨⟨e, he, -⟩, hh'⟩ := hrefused rfl
  exact ⟨⟨by decide, rfl, by decide⟩, ⟨e, he⟩, hh'⟩

/-- A signer that installs starts over the tables of a later version, and its own version is stamped on them. -/
theorem later_version_overwritten :
    let settings : Settings := { url := "d", autoMigrate := true }
    (settings.protectionEnabled = true ∧ settings.protectionParameters.database.LeadsTo laterHost.disk 0 ∧
      laterHost.disk.databases[0]? = some { tables := laterTables } ∧ laterTables.version = some 2 ∧
      (2 : Int) ≠ Database.expectedVersion) ∧
    (∃ daemon, (Daemon.startWith settings laterRing laterHost).1 = .ok daemon) ∧
    (Daemon.startWith settings laterRing laterHost).2.disk.databases.map (·.tables.version) = [some 1] := by
  intro settings
  have hok : (Daemon.startWith settings laterRing laterHost).1.toBool = true := by cbv
  have hversion : (Daemon.startWith settings laterRing laterHost).2.disk.databases.map (·.tables.version) =
      [some 1] := by cbv
  refine ⟨⟨rfl, later_leads settings rfl, rfl, rfl, by decide⟩, ?_, hversion⟩
  cases hs : (Daemon.startWith settings laterRing laterHost).1 with
  | ok daemon => exact ⟨daemon, rfl⟩
  | error e =>
    rw [hs] at hok
    cases hok

end ValidatorSigner
