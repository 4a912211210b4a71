import Mathlib
import ValidatorSigner.Proofs.Protection.PruneSteps
import ValidatorSigner.Proofs.Signing.Permission

/-! # Counters of a process

A process signs with and without protection, and requests are made to protection itself. Its counters tell how
many requests came to which end, and how many decisions were made and what they were. The rows that are in the
tables, and those that were counted when they were deleted, are as many as decisions have inserted.

Duties and requests to prune go on one transaction at a time, with anything in between. All other requests are one
transaction each. Others take the write lock and occupy the pools at any time.
-/
namespace ValidatorSigner.Signing
open Keys Protection Store Telemetry

inductive Activity where
  /-- A request to protection. One to prune only begins. -/
  | request (op : Operation)
  /-- The next transaction of a prune request that is under way. -/
  | advance (i : Nat)
  /-- Others take or release the write lock and connections of the pools. -/
  | disturb (locked : Bool) (decisions cleaning : Pool)
  /-- The service is closed, and what is under way is given up. The database is opened anew, maybe for reading
  only. -/
  | reopen (readOnly : Bool) (service : Service)
  /-- A duty begins. It is answered at once if there is no signer or no number for its key. -/
  | sign (ring : KeyRing) (key : PublicKey) (genesis : Root) (duty : Duty) (root : Root)
  /-- A duty that is under way is decided and answered. -/
  | decide (i : Nat)
  | signUnchecked (ring : KeyRing) (artifact : Artifact) (key : PublicKey) (message : List UInt8)

inductive Reply where
  | protection (op : Operation) (answer : Except ProtectionError Answer)
  /-- The answer to a duty under protection, with the decision on it; none if the key is not loaded. -/
  | handled (duty : Duty) (decision? : Option (Except ProtectionError Decision))
      (answer : Except HandlerError Outcome)
  | unchecked (artifact : Artifact) (answer : Except HandlerError Signature)

/-- The decision that an error of the handler tells; none if it made none. -/
def HandlerError.decision? : HandlerError → Option (Except ProtectionError Decision)
  | .unknownKey _ => none
  | .protection cause => some (.error cause)

namespace Reply

def verdict? : Reply → Option (Artifact × Decision)
  | protection op answer => op.verdict? answer
  | handled duty (some decision) _ => Protection.verdict? duty.artifact decision
  | _ => none

def outcome? : Reply → Option (Artifact × RequestOutcome)
  | protection .. => none
  | handled duty _ (.ok (.signed _)) => some (duty.artifact, .signed)
  | handled duty _ (.ok (.refused _)) => some (duty.artifact, .refused)
  | handled duty _ (.error (.protection _)) => some (duty.artifact, .failed)
  | handled duty _ (.error (.unknownKey _)) => some (duty.artifact, .unknownKey)
  | unchecked artifact (.ok _) => some (artifact, .signed)
  | unchecked artifact (.error _) => some (artifact, .unknownKey)

/-- No decision is asked of protection itself, and no duty is signed without one. -/
def throughHandler : Reply → Bool
  | protection (.maySignBlock ..) _ => false
  | protection (.maySignAttestation ..) _ => false
  | protection .. => true
  | handled .. => true
  | unchecked artifact _ => artifact = .unprotected

/-- What is signed was allowed, what is refused was denied, and the other way around. -/
def Agrees (reply : Reply) : Prop := ∀ artifact, artifact ≠ .unprotected →
  (reply.outcome? = some (artifact, .signed) ↔ reply.verdict? = some (artifact, .allow)) ∧
  (reply.outcome? = some (artifact, .refused) ↔ ∃ reason, reply.verdict? = some (artifact, .deny reason))

end Reply

structure Step where
  reply : Reply
  before : Tables
  after : Tables

def Step.inserted (step : Step) (table : Table) : Bool :=
  step.reply.verdict?.isSome && step.before.size table < step.after.size table

structure Process where
  engine : Engine
  log : List Step := []
  /-- The prune requests that are under way. -/
  tasks : List PruneTask := []
  /-- The duties that are under way. -/
  duties : List DutyTask := []
  /-- The rows of a table that were deleted by prune requests which then failed or were given up. -/
  uncounted : Table → Nat := fun _ => 0

namespace Process

/-- The rows of a table that were deleted by prune requests which are still under way. -/
def pending (p : Process) (table : Table) : Nat := (p.tasks.map (·.pending table)).sum

def reply (p : Process) (r : Reply) (e : Engine) : Process :=
  { p with engine := e, log := p.log ++ [⟨r, p.engine.tables, e.tables⟩] }

def perform (p : Process) (op : Operation) : Process :=
  let (answer, e) := op.perform p.engine
  p.reply (.protection op answer) e

def sign (p : Process) (ring : KeyRing) (key : PublicKey) (genesis : Root) (duty : Duty) (root : Root) : Process :=
  match DutyTask.begin ring key genesis duty root p.engine with
  | (.error error, e) => p.reply (.handled duty error.decision? (.error error)) e
  | (.ok task, e) => { p with engine := e, duties := p.duties ++ [task] }

def decide (p : Process) (task : DutyTask) (others : List DutyTask) : Process :=
  let (decision, e) := task.decide p.engine
  { p.reply (.handled task.duty (some decision) (task.answer decision)) e with duties := others }

def resume (p : Process) (others : List PruneTask) (task : PruneTask) (rest : List PruneTask) : Process :=
  let result := task.next p.engine
  { p with
    engine := result.2
    log := p.log ++ (PruneTask.answer? result.1).toList.map fun answer =>
      ⟨.protection task.operation answer, p.engine.tables, result.2.tables⟩
    tasks := others ++ PruneTask.left result.1 ++ rest
    uncounted := fun table => p.uncounted table + task.lost table result.1 }

def next (p : Process) : Activity → Process
  | .request op =>
    match op.task? with
    | some task => { p with tasks := p.tasks ++ [task] }
    | none => p.perform op
  | .advance i =>
    match p.tasks.drop i with
    | task :: rest => p.resume (p.tasks.take i) task rest
    | [] => p
  | .disturb locked decisions cleaning =>
    { p with engine := { p.engine with locked, service := { p.engine.service with decisions, cleaning } } }
  | .reopen readOnly service =>
    { p with
      engine := { p.engine with database := { p.engine.database with readOnly }, service := service.opened }
      tasks := []
      duties := []
      uncounted := fun table => p.uncounted table + p.pending table }
  | .sign ring key genesis duty root => p.sign ring key genesis duty root
  | .decide i =>
    match p.duties.drop i with
    | task :: rest => p.decide task (p.duties.take i ++ rest)
    | [] => p
  | .signUnchecked ring artifact key message =>
    let (answer, metrics) := signUnchecked ring artifact key message p.engine.metrics
    p.reply (.unchecked artifact answer) { p.engine with metrics }

def fresh (writeAhead locked : Bool) (loadedKeys : Nat) (service : Service) : Process :=
  { engine := .fresh writeAhead locked { loadedKeys } service }

def after (p : Process) (activities : List Activity) : Process := activities.foldl next p

end Process

/-- An answer is counted once, as what it is. -/
structure Reply.Counted (reply : Reply) (artifact : Artifact) (e e' : Engine) : Prop where
  decision : e.Counts reply.verdict? e'
  agrees : reply.Agrees
  once : ∃ outcome, reply.outcome? = some (artifact, outcome) ∧ ∀ s : Series, s.family = .requests →
    e'.metrics.count s = e.metrics.count s + if s = .request artifact outcome then 1 else 0

section Requests
variable {e e' : Engine} {h : History}

theorem check_counts (hs : e.Sound h) (duty : Duty) (genesis root : Root) (id : ValidatorId) :
    e.Counts (verdict? duty.artifact (duty.check genesis root id e).1) (duty.check genesis root id e).2 := by
  cases duty with
  | block slot => exact maySignBlock_counts hs _ _
  | attestation source target => exact maySignAttestation_counts hs _ _

theorem spares_check (duty : Duty) (genesis root : Root) (id : ValidatorId) :
    Request.Spares [.retries, .permitted, .prevented, .pruned] (duty.check genesis root id) := by
  cases duty with
  | block slot => exact (Request.tallies_maySignBlock _ _).spares
  | attestation source target => exact (Request.tallies_maySignAttestation _ _).spares

theorem count_countRequest (artifact : Artifact) (outcome : RequestOutcome) (metrics : Metrics) (s : Series) :
    (countRequest artifact outcome metrics).count s =
      metrics.count s + if s = .request artifact outcome then 1 else 0 := Metrics.count_add _ _ _ _

/-- To count the request changes nothing about decisions and rows. -/
theorem counts_request {v : Option (Artifact × Decision)} (hc : e.Counts v e') (artifact : Artifact)
    (outcome : RequestOutcome) :
    e.Counts v { e' with metrics := countRequest artifact outcome e'.metrics } := by
  have hspared {s : Series} (hs : s.family ≠ .requests) :
      (countRequest artifact outcome e'.metrics).count s = e'.metrics.count s := by
    rw [count_countRequest, if_neg fun he : s = .request artifact outcome => hs (he ▸ rfl), Nat.add_zero]
  constructor
  · intro other d
    rw [← hc.decisions other d]
    refine hspared ?_
    rcases d.series_family other with h | h <;> simp [h]
  · intro table ht
    rw [← hc.rows table ht]
    exact congrArg (_ + ·) (hspared (by simp [Series.pruned]))

theorem begin_counted {ring : KeyRing} {key : PublicKey} {genesis root : Root} {duty : Duty} {error : HandlerError}
    (hb : DutyTask.begin ring key genesis duty root e = (.error error, e')) :
    (Reply.handled duty error.decision? (.error error)).Counted duty.artifact e e' := by
  cases hk : ring.get? key with
  | none =>
    rw [DutyTask.begin_of_none hk] at hb
    cases hb
    refine ⟨counts_request (counts_of_balanced (fun _ _ => rfl) fun _ _ => rfl) _ _, fun artifact _ => ?_,
      .unknownKey, rfl, fun s _ => count_countRequest _ _ _ s⟩
    simp [Reply.verdict?, Reply.outcome?, HandlerError.decision?]
  | some signer =>
    have hspares := Request.spares_resolveValidator key
    have hcounts := hspares.counts (e := e) (Request.keeps_resolveValidator (fun _ _ => rfl) key)
    cases hr : Request.resolveValidator key e with
    | mk outcome e₁ =>
      rw [hr] at hcounts
      cases outcome with
      | error cause =>
        rw [DutyTask.begin_of_error hk hr] at hb
        cases hb
        refine ⟨counts_request hcounts _ _, fun artifact _ => ?_, .failed, rfl, fun s hf => ?_⟩
        · simp [Reply.verdict?, Reply.outcome?, HandlerError.decision?, verdict?]
        · have hspared := hspares e s (by simp [hf])
          rw [hr] at hspared
          exact (count_countRequest _ _ _ s).trans (congrArg (· + _) hspared)
      | ok id =>
        rw [DutyTask.begin_of_ok hk hr] at hb
        cases hb

theorem decide_counted (hs : e.Sound h) (task : DutyTask) :
    (Reply.handled task.duty (some (task.decide e).1) (task.answer (task.decide e).1)).Counted task.duty.artifact e
      (task.decide e).2 := by
  have hcounts := check_counts hs task.duty task.genesis task.root task.id
  have hspares := spares_check task.duty task.genesis task.root task.id e
  unfold DutyTask.decide DutyTask.answer
  generalize task.duty.check task.genesis task.root task.id e = result at hcounts hspares ⊢
  obtain ⟨decision, e'⟩ := result
  refine ⟨counts_request hcounts _ _, fun artifact _ => ?_, countedAs decision, ?_, fun s hf => ?_⟩
  · cases decision with
    | error cause => simp [Reply.verdict?, Reply.outcome?, verdict?, Except.map, Except.mapError]
    | ok d => cases d <;> simp [Reply.verdict?, Reply.outcome?, verdict?, Except.map, Except.mapError, answer]
  · cases decision with
    | error cause => rfl
    | ok d => cases d <;> rfl
  · exact (count_countRequest _ _ _ s).trans (congrArg (· + _) (hspares s (by simp [hf])))

end Requests

namespace Process

structure Accounted (p : Process) : Prop where
  engine : ∃ h, p.engine.Sound h
  safe : ∀ task ∈ p.tasks, task.Safe p.engine.tables
  decisions : ∀ artifact d, p.engine.metrics.count (Decision.series artifact d) =
    p.log.countP fun step => step.reply.verdict? = some (artifact, d)
  rows : ∀ table ∈ Table.signed,
    p.engine.balance table + p.pending table + p.uncounted table = p.log.countP (·.inserted table)
  requests : ∀ artifact outcome, p.engine.metrics.count (.request artifact outcome) =
    p.log.countP fun step => step.reply.outcome? = some (artifact, outcome)
  agreed : ∀ step ∈ p.log, step.reply.throughHandler = true → step.reply.Agrees

variable {p : Process}

theorem countP_reply (p : Process) (r : Reply) (e : Engine) (test : Step → Bool) :
    (p.reply r e).log.countP test =
      p.log.countP test + if test ⟨r, p.engine.tables, e.tables⟩ then 1 else 0 := by
  rw [Process.reply, List.countP_append, List.countP_singleton]

/-- One more answer keeps the accounts, if it counts its decision and its request. -/
theorem Accounted.reply (ha : p.Accounted) {e : Engine} {r : Reply} (hs : ∃ h, e.Sound h)
    (hr : Rises p.engine.tables e.tables) (hc : p.engine.Counts r.verdict? e)
    (hrequests : ∀ artifact outcome, e.metrics.count (.request artifact outcome) =
      p.engine.metrics.count (.request artifact outcome) + if r.outcome? = some (artifact, outcome) then 1 else 0)
    (hagreed : r.throughHandler = true → r.Agrees) :
    (p.reply r e).Accounted where
  engine := hs
  safe task hm := (ha.safe task hm).rises hr
  decisions artifact d := by
    refine (hc.decisions artifact d).trans ?_
    rw [countP_reply, ← ha.decisions]
    simp
  rows table ht := by
    rw [countP_reply, ← ha.rows table ht]
    change e.balance table + p.pending table + p.uncounted table = _
    rw [hc.rows table ht]
    simp only [Step.inserted, Bool.and_eq_true, decide_eq_true_eq]
    omega
  requests artifact outcome := by
    refine (hrequests artifact outcome).trans ?_
    rw [countP_reply, ← ha.requests]
    simp
  agreed := by
    intro step hm
    rcases List.mem_append.mp hm with hm | hm
    · exact ha.agreed step hm
    · obtain rfl := List.mem_singleton.mp hm
      exact hagreed

theorem agrees_of_none {reply : Reply} (ho : reply.outcome? = none) (hv : reply.verdict? = none) : reply.Agrees := by
  intro artifact _
  simp [ho, hv]

/-- The accounts go on where nothing is decided and the signer answers nothing, if no row gets lost. -/
theorem Accounted.undecided (ha : p.Accounted) {q : Process} {entries : List Step} (hlog : q.log = p.log ++ entries)
    (hentries : ∀ step ∈ entries, step.reply.outcome? = none ∧ step.reply.verdict? = none)
    (hs : ∃ h, q.engine.Sound h) (hsafe : ∀ task ∈ q.tasks, task.Safe q.engine.tables)
    (hspares : ∀ s : Series, s.family ∉ [Family.retries, .pruned] →
      q.engine.metrics.count s = p.engine.metrics.count s)
    (hrows : ∀ table ∈ Table.signed, q.engine.balance table + q.pending table + q.uncounted table =
      p.engine.balance table + p.pending table + p.uncounted table) : q.Accounted := by
  have hsame (test : Step → Bool) (hnone : ∀ step ∈ entries, test step = false) :
      q.log.countP test = p.log.countP test := by
    have hzero : entries.countP test = 0 := List.countP_eq_zero.mpr (by simpa using hnone)
    rw [hlog, List.countP_append, hzero, Nat.add_zero]
  constructor
  · exact hs
  · exact hsafe
  · intro artifact d
    have hne : (d.series artifact).family ∉ [Family.retries, .pruned] := by
      rcases d.series_family artifact with h | h <;> simp [h]
    rw [hspares _ hne, hsame _ fun step hm => by simp [(hentries step hm).2]]
    exact ha.decisions artifact d
  · intro table ht
    rw [hrows table ht, hsame _ fun step hm => by simp [Step.inserted, (hentries step hm).2]]
    exact ha.rows table ht
  · intro artifact outcome
    rw [hspares _ (by simp [Series.request]), hsame _ fun step hm => by simp [(hentries step hm).1]]
    exact ha.requests artifact outcome
  · intro step hm hhandler
    rw [hlog] at hm
    rcases List.mem_append.mp hm with hm | hm
    · exact ha.agreed step hm hhandler
    · obtain ⟨ho, hv⟩ := hentries step hm
      exact agrees_of_none ho hv

theorem pending_append (tasks tasks' : List PruneTask) (table : Table) :
    ((tasks ++ tasks').map (·.pending table)).sum =
      (tasks.map (·.pending table)).sum + (tasks'.map (·.pending table)).sum := by
  rw [List.map_append, List.sum_append]

theorem Accounted.begin (ha : p.Accounted) {task : PruneTask} (hb : task.Begins) :
    Accounted { p with tasks := p.tasks ++ [task] } := by
  refine ha.undecided (List.append_nil _).symm (fun _ hm => by cases hm) ha.engine (fun other hm => ?_)
    (fun _ _ => rfl) fun table _ => ?_
  · rcases List.mem_append.mp hm with hm | hm
    · exact ha.safe other hm
    · obtain rfl := List.mem_singleton.mp hm
      exact hb.2 _
  · have hsum := pending_append p.tasks [task] table
    simp only [List.map_cons, List.map_nil, List.sum_singleton, hb.1 table, Nat.add_zero] at hsum
    exact congrArg (p.engine.balance table + · + p.uncounted table) hsum

theorem Accounted.perform (ha : p.Accounted) {op : Operation} (ho : op.prunes = false) : (p.perform op).Accounted := by
  obtain ⟨h, hs⟩ := ha.engine
  have hl := performWithin_leads (fun _ => .all) op hs
  rw [← Operation.perform_eq] at hl
  refine ha.reply (r := .protection op (op.perform p.engine).1) ⟨_, hs.leads hl⟩ hl.change.rises
    (perform_counts hs ho) (fun artifact outcome => ?_) fun hhandler => agrees_of_none rfl ?_
  · exact perform_spares ho p.engine _ (by simp [Series.request])
  · cases op with
    | maySignBlock genesis c => cases hhandler
    | maySignAttestation genesis c => cases hhandler
    | _ => rfl

/-- However a transaction of a prune request ends, the rows that it deletes are counted, to be counted, or known not to
be. -/
theorem Accounted.resume (ha : p.Accounted) {others rest : List PruneTask} {task : PruneTask}
    (ht : p.tasks = others ++ task :: rest) : (p.resume others task rest).Accounted := by
  obtain ⟨h, hs⟩ := ha.engine
  have hp := PruneTask.next_proceeds hs (ha.safe task (by rw [ht]; simp))
  have hquiet := quietly_of_trims hp.trims
  have hl : p.engine.Leads (Change p.engine.tables .nothing) (task.next p.engine).2 :=
    leads_of_tables (.quiet hquiet) (idOf_of_quietly hquiet) hp.same
  refine ha.undecided rfl (fun step hm => ?_) ⟨_, hs.leads hl⟩ (fun other hm => ?_) hp.spares fun table hm => ?_
  · obtain ⟨answer, -, rfl⟩ := List.mem_map.mp hm
    refine ⟨rfl, ?_⟩
    cases task <;> rfl
  · have hold (hm : other ∈ p.tasks) : other.Safe (task.next p.engine).2.tables :=
      (ha.safe other hm).rises (rises_of_quietly hquiet)
    rcases List.mem_append.mp hm with hm | hm
    · rcases List.mem_append.mp hm with hm | hm
      · exact hold (by simp [ht, hm])
      · exact hp.safe other hm
    · exact hold (by simp [ht, hm])
  · have hrows := hp.rows table hm
    have hbefore : p.pending table = _ := (congrArg (fun tasks => (tasks.map (·.pending table)).sum) ht).trans
      (pending_append others (task :: rest) table)
    have hafter : (p.resume others task rest).pending table = _ :=
      pending_append (others ++ PruneTask.left (task.next p.engine).1) rest table
    rw [pending_append] at hafter
    rw [List.map_cons, List.sum_cons] at hbefore
    rw [hbefore, hafter]
    dsimp only [Process.resume]
    omega

theorem Accounted.handle (ha : p.Accounted) {e : Engine} {r : Reply} {artifact : Artifact} (hs : ∃ h, e.Sound h)
    (hr : Rises p.engine.tables e.tables) (hcounted : r.Counted artifact p.engine e) : (p.reply r e).Accounted := by
  obtain ⟨hc, hagrees, outcome, ho, hcount⟩ := hcounted
  refine ha.reply hs hr hc (fun other kind => ?_) fun _ => hagrees
  rw [hcount (.request other kind) rfl, ho]
  simp [Series.request_inj, eq_comm]

theorem Accounted.sign (ha : p.Accounted) (ring : KeyRing) (key : PublicKey) (genesis : Root) (duty : Duty)
    (root : Root) : (p.sign ring key genesis duty root).Accounted := by
  obtain ⟨h, hs⟩ := ha.engine
  have hl := DutyTask.begin_leads hs.installed ring key genesis duty root
  unfold Process.sign
  cases hb : DutyTask.begin ring key genesis duty root p.engine with
  | mk outcome e =>
    rw [hb] at hl
    have hsound : ∃ h', e.Sound h' := ⟨_, hs.leads (o := .nothing) (hl.mono .quiet)⟩
    have hrises := rises_of_quietly hl.change
    cases outcome with
    | error error => exact ha.handle hsound hrises (begin_counted hb)
    | ok task =>
      obtain ⟨-, rfl⟩ := DutyTask.of_begin_ok hb
      have hspares := Request.spares_resolveValidator key
      refine ha.undecided (List.append_nil _).symm (fun _ hm => by cases hm) hsound
        (fun task hm => (ha.safe task hm).rises hrises)
        (fun s hf => hspares p.engine s fun h => hf (by simp [List.mem_singleton.mp h])) fun table ht => ?_
      have hbalance := hspares.balance (e := p.engine) (Request.keeps_resolveValidator (fun _ _ => rfl) key) table ht
      exact congrArg (· + p.pending table + p.uncounted table) hbalance

theorem Accounted.decide (ha : p.Accounted) (task : DutyTask) (others : List DutyTask) :
    (p.decide task others).Accounted := by
  obtain ⟨h, hs⟩ := ha.engine
  obtain ⟨hchecked, -⟩ := check_leads hs.installed hs.guards task.duty task.genesis task.root task.id
  have hl : p.engine.Leads _ (task.decide p.engine).2 := hchecked.counted _
  obtain ⟨hengine, hsafe, hdecisions, hrows, hrequests, hagreed⟩ :=
    ha.handle ⟨_, hs.leads hl⟩ hl.change.rises (decide_counted hs task)
  exact ⟨hengine, hsafe, hdecisions, hrows, hrequests, hagreed⟩

theorem Accounted.signUnchecked (ha : p.Accounted) (ring : KeyRing) (artifact : Artifact) (key : PublicKey)
    (message : List UInt8) : (p.next (.signUnchecked ring artifact key message)).Accounted := by
  obtain ⟨h, hs⟩ := ha.engine
  obtain ⟨answer, outcome, hanswer, ho⟩ : ∃ answer outcome,
      Signing.signUnchecked ring artifact key message p.engine.metrics =
        (answer, countRequest artifact outcome p.engine.metrics) ∧
      (Reply.unchecked artifact answer).outcome? = some (artifact, outcome) := by
    unfold Signing.signUnchecked
    cases ring.get? key with
    | none => exact ⟨_, .unknownKey, rfl, rfl⟩
    | some signer => exact ⟨_, .signed, rfl, rfl⟩
  have hnext : p.next (.signUnchecked ring artifact key message) =
      p.reply (.unchecked artifact answer)
        { p.engine with metrics := countRequest artifact outcome p.engine.metrics } := by
    simp only [Process.next, hanswer]
  rw [hnext]
  refine ha.reply ⟨h, hs.installed, hs.guards, hs.coherent⟩ (.refl _)
    (counts_request (counts_of_balanced (fun _ _ => rfl) fun _ _ => rfl) artifact outcome) (fun other kind => ?_)
    fun hhandler other hother => ?_
  · rw [ho, count_countRequest]
    simp [Series.request_inj, eq_comm]
  · obtain rfl : artifact = .unprotected := of_decide_eq_true hhandler
    simp [ho, hother.symm, Reply.verdict?]

theorem Accounted.next (ha : p.Accounted) (activity : Activity) : (p.next activity).Accounted := by
  obtain ⟨h, hs⟩ := ha.engine
  cases activity with
  | request op =>
    unfold Process.next
    dsimp only
    split
    · rename_i task ht
      exact ha.begin (PruneTask.begins_of_task? ht)
    · rename_i ht
      exact ha.perform (PruneTask.prunes_of_task? ht)
  | advance i =>
    unfold Process.next
    dsimp only
    split
    · rename_i task rest hd
      exact ha.resume (by rw [← hd, List.take_append_drop])
    · exact ha
  | disturb locked decisions cleaning =>
    exact ha.undecided (List.append_nil _).symm (fun _ hm => by cases hm)
      ⟨h, hs.installed, hs.guards, hs.coherent⟩ ha.safe (fun _ _ => rfl) fun _ _ => rfl
  | reopen readOnly service =>
    refine ha.undecided (List.append_nil _).symm (fun _ hm => by cases hm)
      ⟨h, hs.installed, hs.guards, fun _ _ hk => by cases hk⟩ (fun _ hm => by cases hm) (fun _ _ => rfl)
      fun table _ => ?_
    change p.engine.balance table + 0 + (p.uncounted table + p.pending table) = _
    omega
  | sign ring key genesis duty root => exact ha.sign ring key genesis duty root
  | decide i =>
    unfold Process.next
    dsimp only
    split
    · rename_i task rest _
      exact ha.decide task _
    · exact ha
  | signUnchecked ring artifact key message => exact ha.signUnchecked ring artifact key message

theorem Accounted.after (ha : p.Accounted) (activities : List Activity) : (p.after activities).Accounted := by
  induction activities generalizing p with
  | nil => exact ha
  | cons activity rest ih => exact ih (ha.next activity)

theorem accounted_fresh (writeAhead locked : Bool) (loadedKeys : Nat) (service : Service) :
    (fresh writeAhead locked loadedKeys service).Accounted where
  engine := ⟨{}, rfl, guards_empty _, fun _ _ hk => by cases hk⟩
  safe _ hm := by cases hm
  decisions _ _ := rfl
  rows := forall_signed.mpr ⟨rfl, rfl⟩
  requests _ _ := rfl
  agreed _ hm := by cases hm

/-- A duty was answered, and the answer is counted once, as what it is. -/
def Answers (p q : Process) (duty : Duty) (answer : Except HandlerError Outcome) : Prop :=
  ∃ decision? before outcome,
    let reply := Reply.handled duty decision? answer
    q.log = p.log ++ [⟨reply, before, q.engine.tables⟩] ∧ reply.outcome? = some (duty.artifact, outcome) ∧
      ∀ s : Series, s.family = .requests → q.engine.metrics.count s =
        p.engine.metrics.count s + if s = .request duty.artifact outcome then 1 else 0

/-- A duty with nothing in between is answered by the handler as a whole. -/
theorem sign_answers {h : History} (hs : p.engine.Sound h) (ring : KeyRing) (key : PublicKey) (genesis : Root)
    (duty : Duty) (root : Root) :
    let q := (p.next (.sign ring key genesis duty root)).next (.decide p.duties.length)
    let result := signProtected ring key genesis duty root p.engine
    q.engine = result.2 ∧ p.Answers q duty result.1 := by
  intro q result
  have hl := DutyTask.begin_leads hs.installed ring key genesis duty root
  cases hb : DutyTask.begin ring key genesis duty root p.engine with
  | mk outcome e =>
    rw [hb] at hl
    cases outcome with
    | error error =>
      have hq : q = p.reply (.handled duty error.decision? (.error error)) e := by
        simp only [q, Process.next, Process.sign, hb, Process.reply, List.drop_length]
      have hresult : result = (.error error, e) := by
        simp only [result, DutyTask.signProtected_eq, hb]
      obtain ⟨-, -, outcome, ho, hcount⟩ := begin_counted hb
      rw [hq, hresult]
      exact ⟨rfl, _, _, outcome, rfl, ho, hcount⟩
    | ok task =>
      have hsound := hs.leads (o := .nothing) (hl.mono .quiet)
      have hq : q = { p with engine := e }.decide task p.duties := by
        simp only [q, Process.next, Process.sign, hb, List.drop_left, List.take_left, List.append_nil]
        rfl
      have hresult : result = (task.answer (task.decide e).1, (task.decide e).2) := by
        simp only [result, DutyTask.signProtected_eq, hb]
      obtain ⟨-, -, outcome, ho, hcount⟩ := decide_counted hsound task
      obtain ⟨rfl, rfl⟩ := DutyTask.of_begin_ok hb
      rw [hq, hresult]
      refine ⟨rfl, _, _, outcome, rfl, ho, fun s hf => ?_⟩
      rw [← Request.spares_resolveValidator key p.engine s (by simp [hf])]
      exact hcount s hf

theorem decide_answers {h : History} (hs : p.engine.Sound h) {i : Nat} {task : DutyTask}
    (hi : p.duties[i]? = some task) :
    p.Answers (p.next (.decide i)) task.duty (task.answer (task.decide p.engine).1) := by
  obtain ⟨-, -, outcome, ho, hcount⟩ := decide_counted hs task
  have hq : p.next (.decide i) = p.decide task (p.duties.take i ++ p.duties.drop (i + 1)) := by
    obtain ⟨hlt, rfl⟩ := List.getElem?_eq_some_iff.mp hi
    simp only [Process.next, List.drop_eq_getElem_cons hlt]
  rw [hq]
  exact ⟨_, _, outcome, rfl, ho, hcount⟩

/-- A refusal has one reason. -/
theorem sum_denials (artifact : Artifact) (reason : Refusal) :
    (Refusal.all.map fun r => if some (artifact, Decision.deny reason) = some (artifact, .deny r) then 1 else 0).sum =
      1 := by
  simp only [Option.some.injEq, Prod.mk.injEq, true_and, Decision.deny.injEq]
  cases reason <;> rfl

theorem countP_refused {log : List Step} (h : ∀ step ∈ log, step.reply.Agrees) {artifact : Artifact}
    (ha : artifact ≠ .unprotected) :
    (log.countP fun step => step.reply.outcome? = some (artifact, .refused)) =
      (Refusal.all.map fun r => log.countP fun step => step.reply.verdict? = some (artifact, .deny r)).sum := by
  induction log with
  | nil => rfl
  | cons step rest ih =>
    obtain ⟨hstep, hrest⟩ := List.forall_mem_cons.mp h
    simp only [List.countP_cons, List.sum_map_add, ih hrest, decide_eq_true_eq]
    congr 1
    by_cases ho : step.reply.outcome? = some (artifact, .refused)
    · obtain ⟨reason, hv⟩ := (hstep artifact ha).2.mp ho
      rw [if_pos ho, hv]
      exact (sum_denials artifact reason).symm
    · have hnone (r : Refusal) : step.reply.verdict? ≠ some (artifact, .deny r) := fun hv =>
        ho ((hstep artifact ha).2.mpr ⟨r, hv⟩)
      simp [if_neg ho, if_neg (hnone _)]

/-- The counters of a process tell what it did. Rows that prune requests delete are accounted for when they come to
their end. -/
theorem counters_tell (writeAhead locked : Bool) (loadedKeys : Nat) (service : Service)
    (activities : List Activity) :
    let p := (fresh writeAhead locked loadedKeys service).after activities
    let m := p.engine.metrics
    (∀ artifact,
      m.count (.permitted artifact) = p.log.countP (fun step => step.reply.verdict? = some (artifact, .allow)) ∧
      ∀ reason : Refusal, m.count (.prevented artifact reason.label) =
        p.log.countP fun step => step.reply.verdict? = some (artifact, .deny reason)) ∧
    (∀ table ∈ Table.signed, p.pending table = 0 → p.uncounted table = 0 →
      p.engine.tables.size table + m.count (.pruned table.name) = p.log.countP (·.inserted table)) ∧
    (∀ artifact outcome, m.count (.request artifact outcome) =
      p.log.countP fun step => step.reply.outcome? = some (artifact, outcome)) ∧
    (∀ ring key genesis duty root,
      let q := (p.next (.sign ring key genesis duty root)).next (.decide p.duties.length)
      let result := signProtected ring key genesis duty root p.engine
      q.engine = result.2 ∧ p.Answers q duty result.1) ∧
    (∀ i task, p.duties[i]? = some task →
      p.Answers (p.next (.decide i)) task.duty (task.answer (task.decide p.engine).1)) ∧
    ((∀ step ∈ p.log, step.reply.throughHandler = true) → ∀ artifact, artifact ≠ .unprotected →
      m.count (.request artifact .signed) = m.count (.permitted artifact) ∧
      m.count (.request artifact .refused) =
        (Refusal.all.map fun reason => m.count (.prevented artifact reason.label)).sum) := by
  intro p m
  have ha : p.Accounted := (accounted_fresh writeAhead locked loadedKeys service).after activities
  have hpermitted (artifact : Artifact) : m.count (.permitted artifact) = _ := ha.decisions artifact .allow
  have hprevented (artifact : Artifact) (reason : Refusal) : m.count (.prevented artifact reason.label) = _ :=
    ha.decisions artifact (.deny reason)
  refine ⟨fun artifact => ⟨hpermitted artifact, hprevented artifact⟩, ?_, ha.requests, ?_, ?_, ?_⟩
  · intro table ht hpending huncounted
    have hrows := ha.rows table ht
    rw [hpending, huncounted] at hrows
    exact hrows
  · intro ring key genesis duty root
    obtain ⟨h, hs⟩ := ha.engine
    exact sign_answers hs ring key genesis duty root
  · intro i task hi
    obtain ⟨h, hs⟩ := ha.engine
    exact decide_answers hs hi
  · intro hhandler artifact hartifact
    have hagrees (step : Step) (hm : step ∈ p.log) : step.reply.Agrees := ha.agreed step hm (hhandler step hm)
    constructor
    · rw [ha.requests, hpermitted]
      refine List.countP_congr fun step hm => ?_
      simpa using (hagrees step hm artifact hartifact).1
    · rw [ha.requests, countP_refused hagrees hartifact]
      simp only [hprevented]

def tellingRing : KeyRing where
  signers := [⟨.replicate .publicKey 1, fun _ => .replicate .signature 0⟩]
  nodup := by decide

def tellingSign (key : UInt8) (slot : Nat) (root : UInt8) : Activity :=
  .sign tellingRing (.replicate .publicKey key) (.replicate .root 9) (.block slot) (.replicate .root root)

/-- Three blocks are signed, the last of them while the first one is pruned. One is refused, since another one for
its slot was decided before it though begun after it. One fails, since others take the write lock before it is decided,
and one is for an unknown key. -/
def tellingActivities : List Activity :=
  [tellingSign 1 4 1, tellingSign 1 4 2, .decide 1, .decide 0, tellingSign 1 9 1, .decide 0,
    .request (.prune 1 ⟨0, 32⟩), .advance 0, tellingSign 1 10 1, .decide 0, .advance 0, .advance 0,
    tellingSign 1 11 1, .disturb true {} {}, .decide 0, tellingSign 2 11 1,
    .signUnchecked tellingRing .unprotected (.replicate .publicKey 1) []]

theorem counters_tell_busy :
    let p := (fresh false false 1 {}).after tellingActivities
    let m := p.engine.metrics
    (∀ step ∈ p.log, step.reply.throughHandler = true) ∧
    m.count (.permitted .block) = 3 ∧ m.count (.request .block .signed) = 3 ∧
    m.count (.request .block .refused) = 1 ∧
    (Refusal.all.map fun reason => m.count (.prevented .block reason.label)).sum = 1 ∧
    m.count (.request .block .failed) = 1 ∧ m.count (.request .block .unknownKey) = 1 ∧
    p.engine.tables.size .signedBlocks = 2 ∧ m.count (.pruned Table.signedBlocks.name) = 1 ∧
    (p.log.countP (·.inserted .signedBlocks)) = 3 := by
  intro p m
  obtain ⟨-, hrows, -, -, -, hends⟩ := counters_tell false false 1 {} tellingActivities
  have hhandler : ∀ step ∈ p.log, step.reply.throughHandler = true := by decide
  obtain ⟨hsigned, hrefused⟩ := hends hhandler .block (by decide)
  have hrows : 2 + 1 = p.log.countP (·.inserted .signedBlocks) := hrows .signedBlocks (by decide) rfl rfl
  have hpermitted : m.count (.permitted .block) = 3 := by decide
  have hcounted : m.count (.request .block .refused) = 1 := by decide
  exact ⟨hhandler, hpermitted, hsigned.trans hpermitted, hcounted, hrefused.symm.trans hcounted,
    by decide, by decide, by decide, by decide, hrows.symm⟩

/-- One of two blocks is deleted, and then others take the write lock. -/
def lockedActivities : List Activity :=
  [tellingSign 1 4 1, .decide 0, tellingSign 1 9 1, .decide 0, .request (.prune 1 ⟨0, 32⟩), .advance 0, .advance 0,
    .disturb true {} {}, .advance 0]

/-- A block that is signed without protection is signed without a decision. A prune request that fails counts nothing
of what it has deleted. -/
theorem counters_miss :
    let unchecked := (fresh false false 1 {}).after [.signUnchecked tellingRing .block (.replicate .publicKey 1) []]
    let locked := (fresh false false 1 {}).after lockedActivities
    ((∀ step ∈ unchecked.log, step.reply.verdict? = none) ∧
      unchecked.engine.metrics.count (.request .block .signed) = 1 ∧
      unchecked.engine.metrics.count (.permitted .block) = 0) ∧
    locked.tasks.isEmpty = true ∧ locked.engine.tables.size .signedBlocks = 1 ∧
      locked.engine.metrics.count (.pruned Table.signedBlocks.name) = 0 ∧
      locked.log.countP (·.inserted .signedBlocks) = 2 := by
  decide

end Process
end ValidatorSigner.Signing
