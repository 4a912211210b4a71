import ValidatorSigner.Proofs.Signing.Deployment
import ValidatorSigner.Proofs.Store.Paths

/-! # Restarts over the same file

Signers that are always started under protection, with settings that lead to one database file, run over that
database all the time. No call moves a path, so the settings go on leading there.
-/
namespace ValidatorSigner
open Keys Protection Signing Store Telemetry

/-- If the parameters give an address, it is that of the database of a number. -/
def Protection.DatabaseParameters.LeadsTo (p : DatabaseParameters) (disk : Disk) (n : Nat) : Prop :=
  ∀ location address, Location.ofUrl p.url = .ok location →
    Address.ofLocation p.createIfMissing location = .ok address → disk.LeadsTo address n

theorem Protection.DatabaseParameters.LeadsTo.same {p : DatabaseParameters} {disk disk' : Disk} {n : Nat}
    (hl : p.LeadsTo disk n) (hs : disk.SamePaths disk') : p.LeadsTo disk' n :=
  fun location address hlocation haddress => (hl location address hlocation haddress).same hs

section Hosts
variable {α : Type} {host : Host} {n : Nat}

theorem connectTo_same {address : Address} (hl : host.disk.LeadsTo address n) (busyTimeout : Duration) :
    host.disk.SamePaths (host.connectTo busyTimeout address).2.disk ∧
      ∀ connection, (host.connectTo busyTimeout address).1 = .ok connection → connection.number? = some n := by
  obtain ⟨path, hreach, hat⟩ := hl.reach
  unfold Host.connectTo
  simp only [hreach]
  split
  · exact ⟨.refl _, fun _ ho => by cases ho⟩
  · cases hp : host.disk.prepare address (some path) with
    | error fault => exact ⟨.refl _, fun _ ho => by cases ho⟩
    | ok prepared =>
      obtain ⟨hsame, hn⟩ := Disk.prepare_same hat hp
      refine ⟨hsame, fun _ ho => ?_⟩
      cases ho
      exact hn

theorem connect_same {p : DatabaseParameters} (hl : p.LeadsTo host.disk n) :
    host.disk.SamePaths (host.connect p).2.disk ∧
      ∀ opened, (host.connect p).1 = .ok opened → opened.1.number? = some n := by
  unfold Host.connect
  split
  · exact ⟨.refl _, fun _ ho => by cases ho⟩
  · rename_i location hlocation
    split
    · exact ⟨.refl _, fun _ ho => by cases ho⟩
    · split
      · exact ⟨.refl _, fun _ ho => by cases ho⟩
      · rename_i address haddress
        obtain ⟨hsame, hn⟩ := connectTo_same (hl location address hlocation haddress) p.busyTimeout
        split
        · rename_i hc
          rw [hc] at hsame
          exact ⟨hsame, fun _ ho => by cases ho⟩
        · rename_i hc
          rw [hc] at hsame hn
          refine ⟨hsame, fun _ ho => ?_⟩
          cases ho
          exact hn _ rfl

theorem install_same {connection : Connection} (hn : connection.number? = some n) :
    host.disk.SamePaths (host.install connection).2.disk := by
  unfold Host.install
  dsimp only
  split
  · exact .refl _
  · split
    · exact .refl _
    · exact (Disk.write_same hn _).1

theorem act_same {context : Context} (hn : context.connection.number? = some n) (action : StateM Engine α) :
    host.disk.SamePaths (host.act context action).2.2.disk ∧
      (host.act context action).2.1.connection.number? = some n := by
  obtain ⟨hsame, hconnection⟩ := Disk.write_same hn (action (host.engine context)).2.database
  exact ⟨hsame, (congrArg Connection.number? hconnection).trans hn⟩

def Protection.Host.replace (host : Host) (n : Nat) (database : Database) : Host :=
  { host with disk := host.disk.replace n database }

theorem replace_self {database : Database} (hd : host.disk.databases[n]? = some database) :
    host.replace n database = host := by
  simp only [Host.replace, Disk.replace_self hd]

/-- The parameters open a database with this log mode over this connection, and leave it as it is. -/
def Protection.DatabaseParameters.Opens (p : DatabaseParameters) (n : Nat) (connection : Connection)
    (writeAhead : Bool) (host : Host) : Prop :=
  ∀ (later : Host) (database : Database), host.disk.SamePaths later.disk →
    later.disk.databases[n]? = some database → database.writeAhead = writeAhead →
      later.connect p = (.ok (connection, { database with readOnly := connection.readOnly }), later)

theorem connectTo_settles {address : Address} (hl : host.disk.LeadsTo address n) {database : Database}
    (hd : host.disk.databases[n]? = some database) (busyTimeout : Duration) :
    (∃ fault, host.connectTo busyTimeout address = (.error fault, host)) ∨
    ∃ readOnly writeAhead, host.connectTo busyTimeout address =
        (.ok { number? := some n, readOnly }, host.replace n { database with writeAhead }) ∧
      ∀ (later : Host) (database : Database), host.disk.SamePaths later.disk →
        later.disk.databases[n]? = some database → database.writeAhead = writeAhead →
          later.connectTo busyTimeout address = (.ok { number? := some n, readOnly }, later) := by
  obtain ⟨hvolatile, path, hpath, hat⟩ := hl
  have hreach (later : Host) (hs : host.disk.SamePaths later.disk) :
      later.disk.reach address = .ok (some path, later.disk) := by
    have hat' := (hs.at?_eq path).trans hat
    have hpath' := (hs.databasePath_eq _).trans hpath
    simp only [Disk.reach, hvolatile, Bool.false_eq_true, if_false, hpath', hat']
  have hprepare (later : Host) (hs : host.disk.SamePaths later.disk) {database : Database}
      (hd : later.disk.databases[n]? = some database) :
      later.disk.prepare address (some path) = later.disk.resume address n database := by
    have hat' := (hs.at?_eq path).trans hat
    simp only [Disk.prepare, hat', hd]
  have hhere := hreach host (.refl _)
  by_cases hlong : Host.longestBusyTimeout < busyTimeout.milliseconds
  · refine .inl ⟨.workerCrashed, ?_⟩
    simp only [Host.connectTo, hhere, hlong, if_true]
  · cases hr : host.disk.resume address n database with
    | error fault =>
      refine .inl ⟨fault, ?_⟩
      simp only [Host.connectTo, hhere, hlong, if_false, hprepare host (.refl _) hd, hr]
    | ok opened =>
      obtain ⟨connection, disk⟩ := opened
      obtain ⟨readOnly, writeAhead, rfl, rfl, hagain⟩ := Disk.resume_settles hd hr
      refine .inr ⟨readOnly, writeAhead, ?_, fun later database' hs hd' hlater => ?_⟩
      · simp only [Host.connectTo, hhere, hlong, if_false, hprepare host (.refl _) hd, hr, Host.replace]
      · simp only [Host.connectTo, hreach later hs, hlong, if_false, hprepare later hs hd',
          hagain later.disk database' hlater]

/-- Parameters that lead to a database either do not open it, and nothing is changed, or they open it over a
connection of its number, from then on always the same one. -/
theorem connect_settles {p : DatabaseParameters} (hl : p.LeadsTo host.disk n) {database : Database}
    (hd : host.disk.databases[n]? = some database) :
    (∃ fault, host.connect p = (.error (.connectionFailed p.url fault), host)) ∨
    ∃ readOnly writeAhead, host.connect p =
        (.ok ({ number? := some n, readOnly }, { database with writeAhead, readOnly }),
          host.replace n { database with writeAhead }) ∧
      p.Opens n { number? := some n, readOnly } writeAhead host := by
  cases hlocation : Location.ofUrl p.url with
  | error fault =>
    refine .inl ⟨fault, ?_⟩
    simp only [Host.connect, hlocation]
  | ok location =>
    by_cases hzero : p.acquireTimeout = .zero
    · refine .inl ⟨.poolTimedOut, ?_⟩
      simp only [Host.connect, hlocation, hzero, if_true]
    · cases haddress : Address.ofLocation p.createIfMissing location with
      | error fault =>
        refine .inl ⟨fault, ?_⟩
        simp only [Host.connect, hlocation, hzero, if_false, haddress]
      | ok address =>
        rcases connectTo_settles (hl location address hlocation haddress) hd p.busyTimeout with
          ⟨fault, hc⟩ | ⟨readOnly, writeAhead, hc, hagain⟩
        · refine .inl ⟨fault, ?_⟩
          simp only [Host.connect, hlocation, hzero, if_false, haddress, hc]
        · refine .inr ⟨readOnly, writeAhead, ?_, fun later database' hs hd' hlater => ?_⟩
          · have hread : (host.replace n { database with writeAhead }).disk.read { number? := some n, readOnly } =
                { database with writeAhead, readOnly } := Disk.read_of_number rfl (Disk.getElem?_replace hd)
            simp only [Host.connect, hlocation, hzero, if_false, haddress, hc, hread]
          · have hread : later.disk.read { number? := some n, readOnly } = { database' with readOnly } :=
              Disk.read_of_number rfl hd'
            simp only [Host.connect, hlocation, hzero, if_false, haddress, hagain later database' hs hd' hlater,
              hread]

/-- What an action in a context over a database does to it. -/
theorem act_of_number {context : Context} (hn : context.connection.number? = some n) (action : StateM Engine α) :
    host.act context action =
      ((action (host.engine context)).1, ⟨context.connection, (action (host.engine context)).2.service⟩,
        { host.replace n { (action (host.engine context)).2.database with readOnly := false } with
          metrics := (action (host.engine context)).2.metrics }) := by
  simp only [Host.act, Disk.write, hn]
  rfl

end Hosts

section Starts
variable {host : Host} {n : Nat} {settings : Settings}

/-- The steps of a start keep the paths, and open what the settings lead to. -/
theorem same_startInvariant (hl : settings.protectionParameters.database.LeadsTo host.disk n) :
    StartInvariant settings (fun host' => host.disk.SamePaths host'.disk)
      (fun context host' => host.disk.SamePaths host'.disk ∧ context.connection.number? = some n) where
  counted _ hs := hs
  connect hs := hs.trans (connect_same (hl.same hs)).1
  opened hs ho := ⟨hs.trans (connect_same (hl.same hs)).1, (connect_same (hl.same hs)).2 _ ho⟩
  install hq := hq.1.trans (install_same hq.2)
  genesis hq := ⟨hq.1.trans (act_same hq.2 _).1, (act_same hq.2 _).2⟩
  register _ hq := ⟨hq.1.trans (act_same hq.2 _).1, (act_same hq.2 _).2⟩
  host hq := hq.1

theorem startWith_protected (hp : settings.protectionEnabled = true) {ring : KeyRing} {daemon : Daemon}
    (ho : (Daemon.startWith settings ring host).1 = .ok daemon) : ∃ context, daemon.context? = some context := by
  unfold Daemon.startWith at ho
  simp only [hp, Bool.not_true, Bool.false_eq_true, if_false] at ho
  split at ho
  · cases ho
  · split at ho
    · cases ho
    · cases ho
      exact ⟨_, rfl⟩

/-- A signer that is started under protection runs over the database that its settings lead to. -/
theorem startBy_same (hp : settings.protectionEnabled = true)
    (hl : settings.protectionParameters.database.LeadsTo host.disk n) (provider : KeyProvider) :
    host.disk.SamePaths (Daemon.startBy settings provider host).2.disk ∧
      ∀ daemon, (Daemon.startBy settings provider host).1 = .ok daemon → daemon.Over n := by
  unfold Daemon.startBy
  split
  · exact ⟨.refl _, fun _ ho => by cases ho⟩
  · rename_i ring _
    obtain ⟨hsame, hnew⟩ := (same_startInvariant hl).startWith (.refl host.disk) ring
    refine ⟨hsame, fun daemon ho => ?_⟩
    obtain ⟨context, hcontext⟩ := startWith_protected hp ho
    exact ⟨context, hcontext, (hnew daemon ho context hcontext).2⟩

end Starts

def Call.StartsOver (n : Nat) (disk : Disk) : Call → Prop
  | .start settings _ =>
    settings.protectionEnabled = true ∧ settings.protectionParameters.database.LeadsTo disk n
  | _ => True

theorem Call.StartsOver.same {n : Nat} {disk disk' : Disk} {call : Call} (hc : call.StartsOver n disk)
    (hs : disk.SamePaths disk') : call.StartsOver n disk' := by
  cases call with
  | start settings provider =>
    exact ⟨hc.1, hc.2.same hs⟩
  | _ => trivial

namespace Deployment
variable {n : Nat} {host : Host} {site : Deployment}

theorem respond_same {daemon? : Option Daemon} (hd : ∀ daemon ∈ daemon?, daemon.Over n) {call : Call}
    (hc : call.StartsOver n host.disk) :
    host.disk.SamePaths (respond host daemon? call).2.2.disk ∧
      ∀ daemon ∈ (respond host daemon? call).2.1, daemon.Over n := by
  have idle {reply : Reply} : host.disk.SamePaths (reply, (none : Option Daemon), host).2.2.disk ∧
      ∀ daemon ∈ (reply, (none : Option Daemon), host).2.1, daemon.Over n := ⟨.refl _, fun _ hm => by cases hm⟩
  cases call with
  | start settings provider =>
    obtain ⟨hsame, hover⟩ := startBy_same hc.1 hc.2 provider
    simp only [respond]
    split
    · rename_i hb
      rw [hb] at hsame
      exact ⟨hsame, fun _ hm => by cases hm⟩
    · rename_i hb
      rw [hb] at hsame hover
      refine ⟨hsame, fun _ hm => ?_⟩
      cases hm
      exact hover _ rfl
  | shutdown => exact idle
  | lock locked => exact ⟨.refl _, hd⟩
  | sign key genesis duty root =>
    cases daemon? with
    | none => exact idle
    | some daemon =>
      obtain ⟨context, hcontext, hn⟩ := hd daemon rfl
      obtain ⟨hsame, hn'⟩ := @act_same _ host n context hn (signProtected daemon.ring key genesis duty root).run
      simp only [respond, sign_eq hcontext]
      refine ⟨hsame, fun _ hm => ?_⟩
      cases hm
      exact ⟨_, rfl, hn'⟩
  | signMessage key message =>
    cases daemon? with
    | none => exact idle
    | some daemon => exact ⟨.refl _, hd⟩
  | request op rounds =>
    cases daemon? with
    | none => exact idle
    | some daemon =>
      obtain ⟨context, hcontext, hn⟩ := hd daemon rfl
      obtain ⟨hsame, hn'⟩ := @act_same _ host n context hn (op.performWithin rounds).run
      simp only [respond, Daemon.request, hcontext]
      refine ⟨hsame, fun _ hm => ?_⟩
      cases hm
      exact ⟨_, rfl, hn'⟩
  | occupy decisions cleaning =>
    cases daemon? with
    | none => exact idle
    | some daemon =>
      obtain ⟨context, hcontext, hn⟩ := hd daemon rfl
      refine ⟨.refl _, fun _ hm => ?_⟩
      cases hm
      exact ⟨_, congrArg (Option.map _) hcontext, hn⟩

/-- Settings that lead to one database keep every signer over it. -/
theorem stays_of_starts {calls : List Call} (hover : site.Over n)
    (hc : ∀ call ∈ calls, call.StartsOver n site.host.disk) : site.Stays n calls := by
  induction calls generalizing site with
  | nil =>
    intro k
    rw [List.take_nil]
    exact hover
  | cons call rest ih =>
    obtain ⟨hsame, hnext⟩ := respond_same hover (hc call List.mem_cons_self)
    have hstays : (site.next call).Stays n rest :=
      ih hnext fun other hm => (hc other (List.mem_cons_of_mem _ hm)).same hsame
    intro k
    cases k with
    | zero => exact hover
    | succ k => exact hstays k

end Deployment
end ValidatorSigner
