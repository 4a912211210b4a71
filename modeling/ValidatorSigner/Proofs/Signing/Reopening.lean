import ValidatorSigner.Proofs.Protection.AtHand
import ValidatorSigner.Proofs.Signing.VersionGate
import ValidatorSigner.Proofs.Text.Parts

/-! # Contexts that are opened anew

A context may be closed and opened anew over the same file, and the database installed again in between. The
tables never tell, and answers only in one way: a number that was at hand has to be looked up again, which is
not possible while others hold the write lock, and not with registration in a database that is opened for
reading only.
-/
namespace ValidatorSigner.Protection
open Store Telemetry

def Host.reinstall (p : DatabaseParameters) (host : Host) : Host :=
  match host.connect p with
  | (.error _, host) => host
  | (.ok (connection, _), host) => (host.install connection).2

inductive Turn where
  /-- A request, where each prune run of a validator stops after a limited number of batches. -/
  | request (op : Operation) (rounds : ValidatorId → Rounds)
  /-- Others take or release the write lock. -/
  | lock (locked : Bool)
  /-- The context is closed, the installer runs so many times, and a context is opened anew. Others hold the write
  lock from then on, or do not: who held it before may have let go of it with the context. -/
  | reopen (installs : Nat) (locked : Bool)

namespace Turn

/-- A request whose prune runs stop only when nothing is left to delete. -/
def ask (op : Operation) : Turn := .request op fun _ => .all

/-- What others do in a turn, with the context left open. -/
def withoutReopening : Turn → Turn
  | reopen _ locked => .lock locked
  | turn => turn

end Turn

/-- A request and its answer. -/
structure Asked where
  op : Operation
  /-- Others held the write lock at the time. -/
  locked : Bool
  answer : Except ProtectionError Answer

/-- A request beside the same one in a context that was opened anew. -/
def Asked.Again (readOnly : Prop) (a b : Asked) : Prop :=
  a.locked = b.locked ∧ AskedAgain readOnly (a.locked = true) (a.op, a.answer) (b.op, b.answer)

theorem Asked.Again.eq {readOnly : Prop} {a b : Asked} (h : Asked.Again readOnly a b) (hr : ¬ readOnly)
    (hb : b.locked = false) : a = b := by
  obtain ⟨op, locked, answer⟩ := a
  obtain ⟨op', locked', answer'⟩ := b
  obtain ⟨rfl, hagain⟩ := h
  obtain ⟨rfl, rfl⟩ := Prod.mk.inj (hagain.eq hr (Bool.not_eq_true _ ▸ hb))
  rfl

theorem journal_eq {readOnly : Prop} {a b : List Asked} (h : List.Forall₂ (Asked.Again readOnly) a b)
    (hr : ¬ readOnly) (hb : ∀ asked ∈ b, asked.locked = false) : b = a := by
  induction h with
  | nil => rfl
  | cons hagain _ ih =>
    obtain ⟨hhere, hrest⟩ := List.forall_mem_cons.mp hb
    rw [hagain.eq hr hhere, ih hrest]

/-- An open context and what it has answered, together with the contexts before it. -/
structure Session where
  host : Host
  context : Context
  journal : List Asked := []

namespace Session

def begin (p : ProtectionParameters) (host : Host) : Option Session :=
  match Context.create p host with
  | (.ok context, host) => some { host, context }
  | (.error _, _) => none

/-- Lets something happen. It is the end if a context cannot be opened anew. -/
def next (p : ProtectionParameters) (s : Session) : Turn → Option Session
  | .request op rounds =>
    let (answer, context, host) := s.host.run s.context (op.performWithin rounds)
    some { host, context, journal := s.journal ++ [⟨op, s.host.locked, answer⟩] }
  | .lock locked => some { s with host := { s.host with locked } }
  | .reopen installs locked =>
    (begin p ((Host.reinstall p.database)^[installs] { s.host with locked })).map fun opened =>
      { opened with journal := s.journal }

def after (p : ProtectionParameters) (s : Session) (turns : List Turn) : Option Session := turns.foldlM (next p) s

end Session

section Opening
variable {p : ProtectionParameters} {host opened : Host} {context : Context} {n : Nat} {t : Tables}
  {missing : List Table}

theorem version_of_verified {expected found : Int} {database : Database}
    (h : verifyVersion expected database = .ok found) : database.tables.version = some expected := by
  unfold verifyVersion at h
  split at h
  · cases h
  · cases h
  · rename_i version database' hfind
    split at h
    · rename_i he
      obtain ⟨-, hversion, -⟩ := Transaction.findVersion_ok_iff.mp hfind
      rw [hversion, he]
    · cases h

/-- Asking whether the database belongs to a chain leaves it, and the context, as they are. -/
theorem run_genesisExists (hn : context.connection.number? = some n) {writeAhead : Bool}
    (hd : host.disk.databases[n]? = some { tables := t, missing, writeAhead }) :
    ∃ metrics, (host.run context Request.genesisExists).2 = (context, { host with metrics }) := by
  have hread : (host.engine context).database = _ := Disk.read_of_number hn hd
  have hdatabase : Request.Relates (· = ·) Request.genesisExists := Request.relates_genesisExists
  obtain ⟨database, metrics, hsteady⟩ := Request.steady_transact _ _ (host.engine context)
  have hleft : (Request.genesisExists (host.engine context)).2 = { host.engine context with database, metrics } :=
    hsteady
  have hkept := hdatabase (host.engine context)
  rw [hleft] at hkept
  obtain rfl : (host.engine context).database = database := hkept
  refine ⟨metrics, ?_⟩
  rw [Host.run, act_of_number hn, show (Request.genesisExists.run (host.engine context)).2 = _ from hleft, hread]
  simp only [replace_self hd]
  rfl

/-- A context that is opened over a database has nothing at hand, and leaves the rows as they are. -/
theorem of_create_ok {connection : Connection} {host' : Host} {writeAhead : Bool}
    (hn : connection.number? = some n) (hd : host'.disk.databases[n]? = some { tables := t, missing, writeAhead })
    (hc : host.connect p.database =
      (.ok (connection, { tables := t, missing, writeAhead, readOnly := connection.readOnly }), host'))
    (ho : Context.create p host = (.ok context, opened)) :
    context = ⟨connection, .ofParameters p⟩ ∧ t.version = some Database.expectedVersion ∧
      ∃ metrics, opened = { host' with metrics } := by
  unfold Context.create at ho
  split at ho
  · cases ho
  · simp only [hc] at ho
    split at ho
    · cases ho
    · rename_i hverified
      have hversion := version_of_verified hverified
      split at ho
      · cases ho
        exact ⟨rfl, hversion, _, rfl⟩
      · obtain ⟨metrics, hrun⟩ := @run_genesisExists host' ⟨connection, .ofParameters p⟩ n t missing hn writeAhead hd
        split at ho
        · cases ho
        · rename_i hanswer
          rw [hanswer] at hrun
          cases hrun
          cases ho
          exact ⟨rfl, hversion, metrics, rfl⟩
        · cases ho

theorem of_begin {start : Session} (hb : Session.begin p host = some start) :
    ∃ context host', Context.create p host = (.ok context, host') ∧ start = { host := host', context } := by
  unfold Session.begin at hb
  split at hb
  · rename_i context host' ho
    exact ⟨context, host', ho, (Option.some.inj hb).symm⟩
  · cases hb

/-- An installation over an installed database of the expected version changes no row, whatever the parameters of
the installer are. -/
theorem reinstall_has {q : DatabaseParameters} (hl : q.LeadsTo host.disk n) (hh : host.disk.Has n t [])
    (hv : t.version = some Database.expectedVersion) : (host.reinstall q).disk.Has n t [] := by
  have hstamped : { t with version := some Database.expectedVersion } = t := by rw [← hv]
  unfold Host.reinstall
  rcases connect_has hl hh with ⟨fault, hc⟩ | ⟨connection, _, host', hc, hn, -, -, hh'⟩
  · rw [hc]
    exact hh
  · rw [hc]
    rcases install_has hn hh' with ⟨e, hi⟩ | ⟨host'', hi, -, hh''⟩
    · simp only [hi]
      exact hh'
    · simp only [hi]
      rw [hstamped] at hh''
      exact hh''

end Opening

/-- What a session goes on with: the database that the parameters open over one connection, in the version that
is expected, and a service as it is opened but for its numbers at hand, which are on record. -/
structure Session.Settled (p : ProtectionParameters) (n : Nat) (missing : List Table) (connection : Connection)
    (writeAhead : Bool) (s : Session) (t : Tables) : Prop where
  opens : p.database.Opens n connection writeAhead s.host
  number : connection.number? = some n
  stored : s.host.disk.databases[n]? = some { tables := t, missing, writeAhead }
  version : t.version = some Database.expectedVersion
  context : s.context.connection = connection
  service : s.context.service.opened = .ofParameters p
  onRecord : s.context.service.OnRecord { tables := t, missing }

theorem DatabaseParameters.Opens.same {p : DatabaseParameters} {n : Nat} {connection : Connection} {writeAhead : Bool}
    {host host' : Host} (h : p.Opens n connection writeAhead host) (hs : host.disk.SamePaths host'.disk) :
    p.Opens n connection writeAhead host' := fun later _ hs' hd => h later _ (hs.trans hs') hd

namespace Session.Settled
variable {p : ProtectionParameters} {n : Nat} {missing : List Table} {connection : Connection} {writeAhead : Bool}
  {s : Session} {t : Tables}

theorem engine (h : s.Settled p n missing connection writeAhead t) :
    (s.host.engine s.context).database = { tables := t, missing, writeAhead, readOnly := connection.readOnly } := by
  simp only [Host.engine, h.context]
  exact Disk.read_of_number h.number h.stored

/-- An installation over a settled database changes nothing, if no table is missing. -/
theorem reinstall (h : s.Settled p n [] connection writeAhead t) : s.host.reinstall p.database = s.host := by
  have hread := Disk.read_of_number h.number h.stored
  have hconnect := h.opens s.host _ (.refl _) h.stored rfl
  have hinstall : Database.install { tables := t, writeAhead, readOnly := connection.readOnly } =
      { tables := t, writeAhead, readOnly := connection.readOnly } := by
    simp only [Database.install, ← h.version]
  simp only [Host.reinstall, hconnect, Host.install, hread, hinstall, Disk.write, h.number]
  split
  · rfl
  · split
    · rfl
    · have hsame := replace_self h.stored
      exact hsame

theorem reinstalls (h : s.Settled p n missing connection writeAhead t) {installs : Nat}
    (hi : missing = [] ∨ installs = 0) : (Host.reinstall p.database)^[installs] s.host = s.host := by
  rcases hi with rfl | rfl
  · exact Function.iterate_fixed h.reinstall installs
  · rfl

/-- A context that is opened anew differs from the one before it in its numbers at hand only. -/
theorem reopen (h : s.Settled p n missing connection writeAhead t) {opened : Session}
    (hb : Session.begin p s.host = some opened) :
    ∃ metrics, opened = { host := { s.host with metrics }, context := ⟨connection, .ofParameters p⟩ } := by
  have hconnect := h.opens s.host _ (.refl _) h.stored rfl
  obtain ⟨context, host, ho, rfl⟩ := of_begin hb
  obtain ⟨rfl, -, metrics, rfl⟩ := of_create_ok h.number h.stored hconnect ho
  exact ⟨metrics, rfl⟩

end Session.Settled

theorem Session.next_request {p : ProtectionParameters} {n : Nat} {s : Session}
    (hn : s.context.connection.number? = some n) (op : Operation) (rounds : ValidatorId → Rounds) :
    let result := op.performWithin rounds (s.host.engine s.context)
    s.next p (.request op rounds) = some
      { host := { s.host.replace n { result.2.database with readOnly := false } with metrics := result.2.metrics }
        context := ⟨s.context.connection, result.2.service⟩
        journal := s.journal ++ [⟨op, s.host.locked, result.1⟩] } := by
  simp only [Session.next, Host.run, act_of_number hn]
  rfl

/-- A session, and one whose context was opened anew now and then. -/
structure Parallel (p : ProtectionParameters) (n : Nat) (missing : List Table) (connection : Connection)
    (writeAhead : Bool) (plain restarted : Session) (t : Tables) : Prop where
  settled : plain.Settled p n missing connection writeAhead t
  disk : plain.host.disk = restarted.host.disk
  locks : plain.host.locked = restarted.host.locked
  connections : plain.context.connection = restarted.context.connection
  service : plain.context.service.opened = restarted.context.service.opened
  fewer : restarted.context.service.Within plain.context.service
  journal : List.Forall₂ (Asked.Again (connection.readOnly = true)) plain.journal restarted.journal

namespace Parallel
variable {p : ProtectionParameters} {n : Nat} {missing : List Table} {connection : Connection} {writeAhead : Bool}
  {plain restarted restarted' : Session} {t : Tables}

theorem recalls (h : Parallel p n missing connection writeAhead plain restarted t) :
    Recalls (plain.host.engine plain.context) (restarted.host.engine restarted.context) where
  database := by
    simp only [Host.engine, h.disk, h.connections]
  locked := h.locks
  service := h.service
  onRecord := by
    rw [h.settled.engine]
    exact fun key id hk => h.settled.onRecord key id hk
  fewer := h.fewer
  idle := by
    have hdecisions : (plain.host.engine plain.context).service.decisions =
        { size := max 1 p.database.maxConnections } := congrArg Service.decisions h.settled.service
    rw [hdecisions]
    exact ⟨rfl, Nat.lt_of_lt_of_le Nat.zero_lt_one (Nat.le_max_left 1 _)⟩

/-- One request to both sessions. -/
theorem request (h : Parallel p n missing connection writeAhead plain restarted t) (op : Operation)
    (rounds : ValidatorId → Rounds) (hn : restarted.next p (.request op rounds) = some restarted') :
    ∃ plain' t', plain.next p (.request op rounds) = some plain' ∧
      Parallel p n missing connection writeAhead plain' restarted' t' := by
  obtain ⟨hrecalled, hrecalls⟩ := h.recalls.performWithin rounds op
  have hopened := (@performWithin_retains (plain.host.engine plain.context) rounds op).service
  have hcarries := (covers_carries.performWithin rounds op) (plain.host.engine plain.context)
  have hnumber : plain.context.connection.number? = some n := h.settled.context ▸ h.settled.number
  -- Both sides write the same database, in the form in which it was opened.
  let t' := (op.performWithin rounds (plain.host.engine plain.context)).2.tables
  have hwritten : { (op.performWithin rounds (plain.host.engine plain.context)).2.database with readOnly := false } =
      ({ tables := t', missing, writeAhead } : Database) := by
    rw [hcarries.form, h.settled.engine]
  rw [Session.next_request (h.connections ▸ hnumber)] at hn
  cases hn
  refine ⟨_, t', Session.next_request hnumber op rounds, ?_⟩
  exact {
    settled := {
      opens := h.settled.opens.same (Disk.samePaths_replace _ _ _)
      number := h.settled.number
      stored := by
        rw [hwritten]
        exact Disk.getElem?_replace h.settled.stored
      version := by
        have hversion := hcarries.version
        rw [h.settled.engine] at hversion
        exact hversion.trans h.settled.version
      context := h.settled.context
      service := hopened.trans h.settled.service
      onRecord := by
        have hrecord := hrecalls.onRecord
        rw [hcarries.form, h.settled.engine] at hrecord
        exact fun key id hk => hrecord key id hk }
    disk := by
      simp only [Host.replace, h.disk, hrecalled.beside.database]
    locks := h.locks
    connections := h.connections
    service := hrecalled.beside.service
    fewer := hrecalled.fewer
    journal := by
      refine List.rel_append h.journal (.cons ⟨h.locks, hrecalled.answers.mono ?_ id⟩ .nil)
      rw [h.settled.engine]
      exact id }

theorem lock (h : Parallel p n missing connection writeAhead plain restarted t) (held : Bool) :
    Parallel p n missing connection writeAhead { plain with host := { plain.host with locked := held } }
      { restarted with host := { restarted.host with locked := held } } t where
  settled := {
    opens := h.settled.opens.same (.refl _)
    number := h.settled.number
    stored := h.settled.stored
    version := h.settled.version
    context := h.settled.context
    service := h.settled.service
    onRecord := h.settled.onRecord }
  disk := h.disk
  locks := rfl
  connections := h.connections
  service := h.service
  fewer := h.fewer
  journal := h.journal

theorem settled_restarted (h : Parallel p n missing connection writeAhead plain restarted t) :
    restarted.Settled p n missing connection writeAhead t where
  opens := h.settled.opens.same (h.disk ▸ .refl _)
  number := h.settled.number
  stored := h.disk ▸ h.settled.stored
  version := h.settled.version
  context := h.connections ▸ h.settled.context
  service := h.service ▸ h.settled.service
  onRecord key id hk := h.settled.onRecord key id (h.fewer key id hk)

/-- Only one of the contexts is opened anew, while others do the same to both. -/
theorem reopen (h : Parallel p n missing connection writeAhead plain restarted t) {installs : Nat}
    {held : Bool} (hi : missing = [] ∨ installs = 0)
    (hn : restarted.next p (.reopen installs held) = some restarted') :
    Parallel p n missing connection writeAhead { plain with host := { plain.host with locked := held } }
      restarted' t := by
  have hlocked := h.lock held
  have hs := hlocked.settled_restarted
  simp only [Session.next, hs.reinstalls hi, Option.map_eq_some_iff] at hn
  obtain ⟨opened, hb, rfl⟩ := hn
  obtain ⟨metrics, rfl⟩ := hs.reopen hb
  exact {
    settled := hlocked.settled
    disk := hlocked.disk
    locks := rfl
    connections := hlocked.settled.context
    service := hlocked.settled.service
    fewer := fun key id hk => by cases hk
    journal := hlocked.journal }

theorem after (h : Parallel p n missing connection writeAhead plain restarted t) {turns : List Turn}
    (hi : missing = [] ∨ ∀ installs held, .reopen installs held ∈ turns → installs = 0)
    (hs : restarted.after p turns = some restarted') :
    ∃ plain' t', plain.after p (turns.map Turn.withoutReopening) = some plain' ∧
      Parallel p n missing connection writeAhead plain' restarted' t' := by
  -- The plain session keeps step with the other one, and stays open where that one is opened anew.
  induction turns generalizing plain restarted t with
  | nil =>
    cases hs
    exact ⟨plain, t, rfl, h⟩
  | cons turn rest ih =>
    have hinstalls := hi.imp_right fun hi installs held hm => hi installs held (List.mem_cons_of_mem turn hm)
    simp only [Session.after, List.foldlM_cons, Option.bind_eq_bind, Option.bind_eq_some_iff] at hs
    obtain ⟨between, hn, hs⟩ := hs
    suffices hstep : ∃ plain' t', plain.next p turn.withoutReopening = some plain' ∧
        Parallel p n missing connection writeAhead plain' between t' by
      obtain ⟨plain', t', hp, h'⟩ := hstep
      obtain ⟨plain'', t'', hp', h''⟩ := ih h' hinstalls hs
      refine ⟨plain'', t'', ?_, h''⟩
      rw [List.map_cons, Session.after, List.foldlM_cons, hp]
      exact hp'
    cases turn with
    | request op rounds => exact h.request op rounds hn
    | lock held =>
      cases hn
      exact ⟨_, t, rfl, h.lock held⟩
    | reopen installs held =>
      have hhere := hi.imp_right fun hi => hi installs held List.mem_cons_self
      exact ⟨_, t, rfl, h.reopen hhere hn⟩

end Parallel

/-- A session that has just begun, beside itself. -/
theorem parallel_begin {p : ProtectionParameters} {n : Nat} {host : Host} {start : Session} {tables : Tables}
    {missing : List Table} {writeAhead : Bool} (hl : p.database.LeadsTo host.disk n)
    (hd : host.disk.databases[n]? = some { tables, missing, writeAhead }) (hb : Session.begin p host = some start) :
    ∃ writeAhead', Parallel p n missing start.context.connection writeAhead' start start tables := by
  obtain ⟨context, opened, ho, rfl⟩ := of_begin hb
  rcases connect_settles hl hd with ⟨fault, hc⟩ | ⟨readOnly, writeAhead', hc, hopens⟩
  · unfold Context.create at ho
    simp only [hc] at ho
    split at ho
    · cases ho
    · cases ho
  · have hd' : (host.replace n { tables, missing, writeAhead := writeAhead' }).disk.databases[n]? =
        some { tables, missing, writeAhead := writeAhead' } := Disk.getElem?_replace hd
    obtain ⟨rfl, hversion, metrics, rfl⟩ := of_create_ok rfl hd' hc ho
    refine ⟨writeAhead', ?_⟩
    exact {
      settled := {
        opens := hopens.same (Disk.samePaths_replace _ _ _)
        number := rfl
        stored := hd'
        version := hversion
        context := rfl
        service := rfl
        onRecord := fun key id hk => by cases hk }
      disk := rfl
      locks := rfl
      connections := rfl
      service := rfl
      fewer := fun key id hk => hk
      journal := .nil }

/-- Contexts may be opened anew over a database at any time, and the database installed again before if no table is
missing, with the same tables and answers as in one context while others do the same. Only the number of a key that
was at hand before may be missing from an answer: it is not given with registration in a database that is opened for
reading only, nor while others hold the write lock. -/
theorem reopening_hardly_visible (p : ProtectionParameters) (n : Nat) (host : Host) (tables : Tables)
    (missing : List Table) (writeAhead : Bool) (start : Session) (turns : List Turn) (restarted : Session)
    (hl : p.database.LeadsTo host.disk n) (hd : host.disk.databases[n]? = some { tables, missing, writeAhead })
    (hi : missing = [] ∨ ∀ installs locked, .reopen installs locked ∈ turns → installs = 0)
    (hb : Session.begin p host = some start) (hs : start.after p turns = some restarted) :
    ∃ plain t, start.after p (turns.map Turn.withoutReopening) = some plain ∧
      restarted.host.disk = plain.host.disk ∧ restarted.host.disk.Has n t missing ∧
      List.Forall₂ (Asked.Again (start.context.connection.readOnly = true)) plain.journal restarted.journal ∧
      (start.context.connection.readOnly = false → (∀ asked ∈ restarted.journal, asked.locked = false) →
        restarted.journal = plain.journal) ∧
      plain.context.service.Coherent t ∧ restarted.context.service.Coherent t ∧
      (missing = [] → restarted.host.reinstall p.database = restarted.host ∧
        ∀ q : DatabaseParameters, q.LeadsTo restarted.host.disk n →
          (restarted.host.reinstall q).disk.Has n t []) := by
  obtain ⟨writeAhead', hbegin⟩ := parallel_begin hl hd hb
  obtain ⟨plain, t, hplain, h⟩ := hbegin.after hi hs
  have hrestarted := h.settled_restarted
  have hhas : restarted.host.disk.Has n t missing := ⟨_, hrestarted.stored, rfl, rfl⟩
  refine ⟨plain, t, hplain, h.disk.symm, hhas, h.journal, ?_, h.settled.onRecord.coherent,
    hrestarted.onRecord.coherent, ?_⟩
  · intro hreadOnly hfree
    exact journal_eq h.journal (by rw [hreadOnly]; exact Bool.false_ne_true) hfree
  · rintro rfl
    exact ⟨hrestarted.reinstall, fun q hq => reinstall_has hq hhas hrestarted.version⟩

def sampleParameters : ProtectionParameters := { database := { url := "d" } }

def sampleTurns : List Turn :=
  [.ask (.registerValidators [Deployment.sampleKey]), .reopen 2 false,
    .ask (.resolveValidator Deployment.sampleKey),
    .ask (.maySignBlock none ⟨1, 5, Deployment.sampleRoot 1⟩), .reopen 0 false,
    .ask (.maySignBlock none ⟨1, 5, Deployment.sampleRoot 2⟩)]

/-- A key keeps its number and a second proposal is refused, however often contexts are opened anew. -/
theorem reopening_hardly_visible_sample :
    sampleParameters.database.LeadsTo Deployment.sampleHost.disk 0 ∧
    ∃ start restarted plain, Session.begin sampleParameters Deployment.sampleHost = some start ∧
      start.after sampleParameters sampleTurns = some restarted ∧
      start.after sampleParameters (sampleTurns.map Turn.withoutReopening) = some plain ∧
      restarted.journal = plain.journal ∧
      restarted.journal.map (·.answer) = [.ok (.numbers [1]), .ok (.number 1), .ok (.decided .allow),
        .ok (.decided (.deny .doubleBlockProposal))] := by
  have hl : sampleParameters.database.LeadsTo Deployment.sampleHost.disk 0 := Deployment.sample_leads false
  have hrun : ((Session.begin sampleParameters Deployment.sampleHost).bind fun start =>
      (start.after sampleParameters sampleTurns).map fun restarted =>
        (start.context.connection.readOnly, restarted.journal.all (!·.locked),
          restarted.journal.map (·.answer))) =
      some (false, true, [.ok (.numbers [1]), .ok (.number 1), .ok (.decided .allow),
        .ok (.decided (.deny .doubleBlockProposal))]) := by cbv
  obtain ⟨start, hb, hrun⟩ := Option.bind_eq_some_iff.mp hrun
  obtain ⟨restarted, hs, hfacts⟩ := Option.map_eq_some_iff.mp hrun
  obtain ⟨hwritable, hfree, hanswers⟩ : start.context.connection.readOnly = false ∧
      restarted.journal.all (!·.locked) = true ∧ restarted.journal.map (·.answer) = _ := by simpa only [Prod.mk.injEq] using hfacts
  have hd : Deployment.sampleHost.disk.databases[0]? =
      some { tables := Database.fresh.tables, writeAhead := false } := rfl
  obtain ⟨plain, t, hplain, -, -, -, hequal, -⟩ := reopening_hardly_visible sampleParameters 0
    Deployment.sampleHost Database.fresh.tables [] false start sampleTurns restarted hl hd (.inl rfl) hb hs
  have hjournal := hequal hwritable (by simpa using hfree)
  exact ⟨hl, start, restarted, plain, hb, hs, hplain, hjournal, hanswers⟩

def Session.answers (p : ProtectionParameters) (host : Host) (turns : List Turn) :
    Option (List (Except ProtectionError Answer)) :=
  ((Session.begin p host).bind (·.after p turns)).map fun s => s.journal.map (·.answer)

def readingParameters : ProtectionParameters := { database := { url := "d?mode=ro" } }

def readingHost : Host where
  disk := { entries := [(["home", "d"], .database 0)]
            databases := [{ Database.fresh with
              tables := { Database.fresh.tables with validators := [⟨1, Deployment.sampleKey⟩] }
              writeAhead := true }] }

theorem reading_location : Location.ofUrl "d?mode=ro" = .ok { name := "d", readOnly := true } := by
  have hlead : Location.dropLead "sqlite:".toList (Location.dropLead "sqlite://".toList "d?mode=ro".toList) =
      "d?mode=ro".toList := by simp [Location.dropLead]
  have hname : Location.ofName (String.ofList ("d?mode=ro".toList.takeWhile (· ≠ '?'))) = .ok { name := "d" } := by
    have hd : String.ofList ("d?mode=ro".toList.takeWhile (· ≠ '?')) = "d" := by decide
    rw [hd]
    cbv
  have hrest : String.ofList (("d?mode=ro".toList.dropWhile (· ≠ '?')).drop 1) = "mode=ro" := by decide
  have hpairs : "mode=ro".splitOn "&" = ["mode=ro"] := Text.splitOn_char "mode=ro" '&'
  have hpair : "mode=ro".splitOn "=" = ["mode", "ro"] := Text.splitOn_char "mode=ro" '='
  have hmode : Location.settingText "mode" = "mode" := by cbv
  have hvalue : Location.settingText "ro" = "ro" := by cbv
  have hsettings : Location.splitSettings "mode=ro" = [("mode", "ro")] := by
    simp [Location.splitSettings, hpairs, hpair, hmode, hvalue]
  simp only [Location.ofUrl, hlead, hname, hrest, hsettings]
  rfl

theorem reading_address : Address.ofLocation false { name := "d", readOnly := true } =
    .ok { path := [100], access := .readOnly, inMemory := false } := by cbv

theorem reading_leads : readingParameters.database.LeadsTo readingHost.disk 0 := by
  intro location address hlocation haddress
  obtain rfl := Except.ok.inj (reading_location.symm.trans hlocation)
  obtain rfl := Except.ok.inj (reading_address.symm.trans haddress)
  have hwriting : Location.ofUrl "d" = .ok { name := "d" } := by cbv
  have haddress' : Address.ofLocation false { name := "d" } =
      .ok { path := [100], access := .readWrite, inMemory := false } := by cbv
  obtain ⟨-, path, hpath, hat⟩ := Deployment.sample_leads false _ _ hwriting haddress'
  have hsame : Deployment.sampleHost.disk.SamePaths readingHost.disk := ⟨rfl, rfl⟩
  exact ⟨by cbv, path, (hsame.databasePath_eq _).trans hpath, (hsame.at?_eq path).trans hat⟩

def readingStart (known : List (PublicKey × ValidatorId)) (journal : List Asked) : Session where
  host := readingHost
  context := ⟨{ number? := some 0, readOnly := true }, { Service.ofParameters readingParameters with known }⟩
  journal := journal

theorem reading_begin : Session.begin readingParameters readingHost = some (readingStart [] []) := by
  have hconnect : readingHost.connectTo readingParameters.database.busyTimeout
      { path := [100], access := .readOnly, inMemory := false } =
      (.ok { number? := some 0, readOnly := true }, readingHost) := by cbv
  have hzero : ¬ (readingParameters.database.acquireTimeout = .zero) := by decide
  have hopen : readingHost.connect readingParameters.database =
      (.ok ({ number? := some 0, readOnly := true },
        readingHost.disk.read { number? := some 0, readOnly := true }), readingHost) := by
    simp only [Host.connect, readingParameters, reading_location, reading_address] at hconnect hzero ⊢
    simp only [if_neg hzero, hconnect]
  have hvalid : readingParameters.pruning.validate = .ok () := by decide
  simp only [Session.begin, Context.create, hvalid, hopen]
  rfl

theorem reading_answers :
    Session.answers readingParameters readingHost
        [.ask (.validatorId Deployment.sampleKey), .lock false, .ask (.resolveValidator Deployment.sampleKey)] =
      some [.ok (.found (some 1)), .ok (.number 1)] ∧
    Session.answers readingParameters readingHost
        [.ask (.validatorId Deployment.sampleKey), .reopen 0 false,
          .ask (.resolveValidator Deployment.sampleKey)] =
      some [.ok (.found (some 1)),
        .error (.infrastructure "resolve_validator" 1 (.ofDatabase .readOnly))] := by
  let key := Deployment.sampleKey
  let asked : List Asked := [⟨.validatorId key, false, .ok (.found (some 1))⟩]
  have hfind : (readingStart [] []).next readingParameters (.ask (.validatorId key)) =
      some (readingStart [(key, 1)] asked) := rfl
  have hreopen : (readingStart [(key, 1)] asked).next readingParameters (.reopen 0 false) =
      some (readingStart [] asked) := by
    have hfree : { readingHost with locked := false } = readingHost := rfl
    simp only [Session.next, Function.iterate_zero, id_eq, readingStart, hfree]
    rw [reading_begin]
    rfl
  constructor
  · simp only [Session.answers, reading_begin]
    rfl
  · simp only [Session.answers, reading_begin, Option.bind_some, Session.after, List.foldlM_cons]
    rw [show (readingStart [] []).next readingParameters (.ask (.validatorId Deployment.sampleKey)) = _ from hfind,
      Option.bind_eq_bind, Option.bind_some, hreopen]
    rfl

def partialHost : Host where
  disk := { entries := [(["home", "d"], .database 0)]
            databases := [{ missing := [.signedBlocks]
                            tables := { Database.fresh.tables with
                              validators := [⟨1, Deployment.sampleKey⟩] } }] }

/-- A number that was at hand is missing once a context was opened anew, in a database that is opened for reading
only, and as soon as others take the write lock. An installation in between makes up for missing tables. -/
theorem reopening_visible :
    let key := Deployment.sampleKey
    let proposal : Turn := .ask (.maySignBlock none ⟨1, 5, Deployment.sampleRoot 1⟩)
    let reading : List Turn := [.ask (.validatorId key), .reopen 0 false, .ask (.resolveValidator key)]
    let locking : List Turn :=
      [.ask (.resolveValidator key), .reopen 0 false, .lock true, .ask (.resolveValidator key)]
    let installing : List Turn := [.reopen 1 false, proposal]
    (readingParameters.database.LeadsTo readingHost.disk 0 ∧
      sampleParameters.database.LeadsTo Deployment.sampleHost.disk 0 ∧
      sampleParameters.database.LeadsTo partialHost.disk 0) ∧
    (Session.answers readingParameters readingHost (reading.map Turn.withoutReopening) =
        some [.ok (.found (some 1)), .ok (.number 1)] ∧
      Session.answers readingParameters readingHost reading =
        some [.ok (.found (some 1)),
          .error (.infrastructure "resolve_validator" 1 (.ofDatabase .readOnly))]) ∧
    (Session.answers sampleParameters Deployment.sampleHost (locking.map Turn.withoutReopening) =
        some [.ok (.number 1), .ok (.number 1)] ∧
      Session.answers sampleParameters Deployment.sampleHost locking =
        some [.ok (.number 1), .error (.infrastructure "resolve_validator" 2 (.ofDatabase .locked))]) ∧
    Session.answers sampleParameters partialHost (installing.map Turn.withoutReopening) =
        some [.error (.infrastructure "may_sign_block" 1 (.ofDatabase (.missingTable .signedBlocks)))] ∧
      Session.answers sampleParameters partialHost installing = some [.ok (.decided .allow)] := by
  intro key proposal reading locking installing
  have hpartial : sampleParameters.database.LeadsTo partialHost.disk 0 :=
    DatabaseParameters.LeadsTo.same (Deployment.sample_leads false) ⟨rfl, rfl⟩
  refine ⟨⟨reading_leads, Deployment.sample_leads false, hpartial⟩, reading_answers, ?_, ?_⟩
  · cbv
  · cbv

end ValidatorSigner.Protection
