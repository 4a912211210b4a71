import Mathlib.Data.List.Nodup
import ValidatorSigner.Proofs.Keys.Loading
import ValidatorSigner.Proofs.Protection.KnownKeys
import ValidatorSigner.Proofs.Protection.Rollback
import ValidatorSigner.Proofs.Protection.Untouched
import ValidatorSigner.Proofs.Store.Contents
import ValidatorSigner.Proofs.Signing.Safety

/-! # Answers and decisions

A duty is answered in two transactions. The first one finds the number of the key, and the second one decides for
that number. The answer tells the decision, a permission by a signature of the root, and adds nothing to what the two
transactions do. A signer that has registered its keys has nothing to do in the first one.
-/
namespace ValidatorSigner
open Keys Protection Signing Store Telemetry

namespace Signing

section Check
variable (duty : Duty) (genesis root : Root) (id : ValidatorId)

theorem steady_check : Request.Steady (duty.check genesis root id) := by
  cases duty with
  | block slot => exact Request.steady_maySignBlock _ _
  | attestation source target => exact Request.steady_maySignAttestation _ _

theorem atomic_check : Request.Atomic (duty.check genesis root id) := by
  cases duty with
  | block slot =>
    exact (Request.atomic_transactOn _ _ _).bind fun d e => ⟨d, Request.counted_ok .block d e⟩
  | attestation source target => exact Request.atomic_maySignAttestation _ _

theorem keeps_check : Request.Keeps Tables.validators (duty.check genesis root id) := by
  cases duty with
  | block slot => exact Request.keeps_maySignBlock (fun _ _ _ => rfl) (fun _ _ => rfl) _
  | attestation source target => exact Request.keeps_maySignAttestation (fun _ _ _ => rfl) (fun _ _ => rfl) _

end Check

structure Decided (signer : Signer) (genesis : Root) (duty : Duty) (root : Root) (id : ValidatorId) (e : Engine)
    (result : Except HandlerError Outcome × Engine) : Prop where
  database : result.2.database = (duty.check genesis root id e).2.database
  signed : ∀ signature, result.1 = .ok (.signed signature) ↔
    (duty.check genesis root id e).1 = .ok .allow ∧ signature = signer.sign root.toList
  refused : ∀ reason, result.1 = .ok (.refused reason) ↔ (duty.check genesis root id e).1 = .ok (.deny reason)
  failed : ∀ error, result.1 = .error error ↔
    ∃ cause, error = .protection cause ∧ (duty.check genesis root id e).1 = .error cause
  undecided : ∀ cause, (duty.check genesis root id e).1 = .error cause → result.2.database = e.database

/-- The number of a key is at hand, or it is read back from the table. -/
theorem of_resolveValidator_ok {e : Engine} {key : PublicKey} {id : ValidatorId}
    (h : (Request.resolveValidator key e).1 = .ok id) :
    e.service.known? key = some id ∧ (Request.resolveValidator key e).2 = e ∨
      (Request.resolveValidator key e).2.tables.idOf key = some id := by
  unfold Request.resolveValidator at h ⊢
  rw [Request.get_bind] at h ⊢
  cases hk : e.service.known? key with
  | some known =>
    rw [hk] at h
    cases h
    exact .inl ⟨rfl, rfl⟩
  | none =>
    rw [hk] at h
    dsimp only at h ⊢
    rcases transactOn_cases (·.decisions) "resolve_validator" (Transaction.registerValidator key) e with
      ⟨found, db, hbody, hr⟩ | ⟨cause, metrics, hr⟩
    · rw [Request.bind_of_ok (show transact _ _ e = _ from hr), Request.bind_of_ok (remember_apply _ _ _)] at h ⊢
      cases h
      exact .inr (onRecord_registerValidator hbody).2
    · rw [Request.bind_of_error (show transact _ _ e = _ from hr)] at h
      cases h

section Answers
variable {ring : KeyRing} {signer : Signer} {e : Engine}

theorem signProtected_unresolved (hm : signer ∈ ring.signers) {cause : ProtectionError}
    (hr : (Request.resolveValidator signer.key e).1 = .error cause) (genesis : Root) (duty : Duty) (root : Root) :
    (signProtected ring signer.key genesis duty root e).1 = .error (.protection cause) ∧
      (signProtected ring signer.key genesis duty root e).2.database = e.database := by
  obtain ⟨metrics, he⟩ := Request.atomic_resolveValidator signer.key e cause hr
  have hp : permission signer.key genesis duty root e = (.error cause, { e with metrics }) := by
    rw [permission_eq]
    exact Request.bind_of_error (Prod.ext hr he)
  rw [signProtected_known (KeyRing.get?_eq_some_iff.mpr ⟨hm, rfl⟩), hp]
  exact ⟨rfl, rfl⟩

theorem signProtected_decided (hm : signer ∈ ring.signers) {id : ValidatorId}
    (hr : (Request.resolveValidator signer.key e).1 = .ok id) (genesis : Root) (duty : Duty) (root : Root) :
    Decided signer genesis duty root id (Request.resolveValidator signer.key e).2
      (signProtected ring signer.key genesis duty root e) := by
  have hp : permission signer.key genesis duty root e =
      duty.check genesis root id (Request.resolveValidator signer.key e).2 := by
    rw [permission_eq]
    exact Request.bind_of_ok (Prod.ext hr rfl)
  have hatomic := atomic_check duty genesis root id (Request.resolveValidator signer.key e).2
  rw [signProtected_known (KeyRing.get?_eq_some_iff.mpr ⟨hm, rfl⟩), hp]
  -- Both transactions are over, and what is left is how the answer tells the decision.
  generalize Request.resolveValidator signer.key e = resolved at hatomic ⊢
  cases hd : duty.check genesis root id resolved.2 with
  | mk outcome e' =>
    rw [hd] at hatomic
    refine ⟨by rw [hd], ?_, ?_, ?_, ?_⟩
    · intro signature
      rw [hd]
      rcases outcome with cause | _ | reason <;> simp [Except.map, Except.mapError, answer, eq_comm]
    · intro reason
      rw [hd]
      rcases outcome with cause | _ | other <;> simp [Except.map, Except.mapError, answer]
    · intro error
      rw [hd]
      rcases outcome with cause | _ | other <;> simp [Except.map, Except.mapError, eq_comm]
    · intro cause hc
      rw [hd] at hc
      obtain ⟨metrics, rfl⟩ := hatomic cause hc
      rfl

theorem retentive_permission (key : PublicKey) (genesis : Root) (duty : Duty) (root : Root) :
    Request.Retentive (permission key genesis duty root) := by
  rw [permission_eq]
  exact (Request.retentive_resolveValidator key).bind fun id => (steady_check duty genesis root id).retentive

theorem signProtected_retentive {keys : List PublicKey} (h : e.service.Knows keys) (ring : KeyRing) (key : PublicKey)
    (genesis : Root) (duty : Duty) (root : Root) :
    (signProtected ring key genesis duty root e).2.service.Knows keys := by
  cases hk : ring.get? key with
  | none =>
    rw [signProtected_of_none hk]
    exact h
  | some signer =>
    rw [signProtected_known hk]
    exact retentive_permission key genesis duty root e keys h

/-- Nobody is registered for a duty by a signer that has the numbers of its keys at hand. -/
theorem signProtected_validators (h : e.service.Knows (ring.signers.map (·.key))) (key : PublicKey) (genesis : Root)
    (duty : Duty) (root : Root) :
    (signProtected ring key genesis duty root e).2.tables.validators = e.tables.validators := by
  cases hk : ring.get? key with
  | none =>
    rw [signProtected_of_none hk]
  | some signer =>
    obtain ⟨id, hid⟩ := h key (List.mem_map.mpr ⟨signer, KeyRing.get?_eq_some_iff.mp hk⟩)
    have hresolved : Request.resolveValidator key e = (.ok id, e) := by
      unfold Request.resolveValidator
      rw [Request.get_bind, hid]
      rfl
    rw [signProtected_known hk, permission_eq, Request.bind_of_ok hresolved]
    exact keeps_check duty genesis root id e

end Answers
end Signing

def Store.Disk.validators (disk : Disk) (n : Nat) : List ValidatorRow :=
  (disk.databases[n]?.getD .blank).tables.validators

theorem of_run_ok {α : Type} {host host' : Host} {context context' : Context} {request : Request α} {a : α}
    (h : host.run context request = (.ok a, context', host')) :
    ∃ e', request (host.engine context) = (.ok a, e') ∧ context'.service = e'.service := by
  have hanswer : (request (host.engine context)).1 = .ok a := congrArg Prod.fst h
  have hservice : context'.service = (request (host.engine context)).2.service :=
    congrArg (fun r => r.2.1.service) h.symm
  exact ⟨_, Prod.ext hanswer rfl, hservice⟩

namespace Daemon

def Ready (daemon : Daemon) : Prop :=
  ∀ context, daemon.context? = some context → context.service.Knows (daemon.ring.signers.map (·.key))

theorem knows_of_protect {settings : Settings} {ring : KeyRing} {host host' : Host} {context : Context}
    (h : protect settings ring host = (.ok context, host')) :
    context.service.Knows (ring.signers.map (·.key)) := by
  unfold protect at h
  split at h
  · cases h
  · split at h
    · cases h
    · rename_i hrun
      cases h
      obtain ⟨e', hregistered, hservice⟩ := of_run_ok hrun
      intro key hk
      rw [hservice]
      exact knows_of_registerValidators hregistered key (List.mem_mergeSort.mpr hk)

theorem ready_of_start {settings : Settings} {provider : KeyProvider} {host host' : Host} {daemon : Daemon}
    (h : startBy settings provider host = (.ok daemon, host')) : daemon.Ready := by
  unfold startBy at h
  split at h
  · cases h
  · unfold startWith at h
    dsimp only at h
    split at h
    · cases h
      exact fun _ hc => by cases hc
    · split at h
      · cases h
      · split at h
        · cases h
        · rename_i hprotect
          cases h
          intro context hc
          cases hc
          exact knows_of_protect hprotect

namespace Ready
variable {daemon : Daemon}

theorem sign (h : daemon.Ready) (host : Host) (key : PublicKey) (genesis : Root) (duty : Duty) (root : Root) :
    (daemon.sign key genesis duty root host).2.1.Ready := by
  cases hc : daemon.context? with
  | none =>
    simp only [Daemon.sign, hc]
    exact h
  | some context =>
    rw [Deployment.sign_eq hc]
    intro other ho
    cases ho
    exact signProtected_retentive (h context hc) daemon.ring key genesis duty root

theorem request (h : daemon.Ready) (host : Host) (op : Operation) (rounds : ValidatorId → Rounds) :
    (daemon.request (op.performWithin rounds) host).2.1.Ready := by
  unfold Daemon.request
  cases hc : daemon.context? with
  | none => exact h
  | some context =>
    intro other ho
    cases ho
    exact retentive_performWithin rounds op (host.engine context) _ (h context hc)

theorem occupy (h : daemon.Ready) (decisions cleaning : Pool) : (daemon.occupy decisions cleaning).Ready := by
  intro context hc
  obtain ⟨before, hbefore, rfl⟩ := Option.map_eq_some_iff.mp hc
  exact h before hbefore

theorem sign_validators (h : daemon.Ready) (host : Host) (key : PublicKey) (genesis : Root) (duty : Duty) (root : Root)
    (n : Nat) :
    (daemon.sign key genesis duty root host).2.2.disk.validators n = host.disk.validators n := by
  cases hc : daemon.context? with
  | none =>
    simp only [Daemon.sign, hc]
    rfl
  | some context =>
    rw [Deployment.sign_eq hc]
    exact Disk.view_write Tables.validators host.disk context.connection
      (signProtected_validators (e := host.engine context) (h context hc) key genesis duty root) n

end Ready
end Daemon

def Call.signs : Call → Bool
  | .sign .. => true
  | .signMessage .. => true
  | _ => false

namespace Deployment
variable {host : Host}

/-- Whatever is called, the numbers of the keys stay at hand. -/
theorem respond_ready {daemon? : Option Daemon} (hd : ∀ daemon ∈ daemon?, daemon.Ready) (call : Call) :
    ∀ daemon ∈ (respond host daemon? call).2.1, daemon.Ready := by
  cases call with
  | start settings provider =>
    intro other hm
    simp only [respond] at hm
    split at hm
    · cases hm
    · rename_i hb
      cases hm
      exact Daemon.ready_of_start hb
  | shutdown => exact fun _ hm => by cases hm
  | lock locked => exact hd
  | sign key genesis duty root =>
    cases daemon? with
    | none => exact fun _ hm => by cases hm
    | some daemon =>
      intro other hm
      cases hm
      exact (hd daemon rfl).sign host key genesis duty root
  | signMessage key message =>
    cases daemon? with
    | none => exact fun _ hm => by cases hm
    | some daemon => exact hd
  | request op rounds =>
    cases daemon? with
    | none => exact fun _ hm => by cases hm
    | some daemon =>
      intro other hm
      cases hm
      exact (hd daemon rfl).request host op rounds
  | occupy decisions cleaning =>
    cases daemon? with
    | none => exact fun _ hm => by cases hm
    | some daemon =>
      intro other hm
      cases hm
      exact (hd daemon rfl).occupy decisions cleaning

theorem after_ready {site : Deployment} (hs : ∀ daemon ∈ site.daemon?, daemon.Ready) (calls : List Call) :
    ∀ daemon ∈ (site.after calls).daemon?, daemon.Ready := by
  induction calls generalizing site with
  | nil => exact hs
  | cons call rest ih => exact ih (respond_ready hs call)

theorem respond_validators {daemon? : Option Daemon} (hd : ∀ daemon ∈ daemon?, daemon.Ready) {call : Call}
    (hc : call.signs = true) (n : Nat) :
    (respond host daemon? call).2.2.disk.validators n = host.disk.validators n := by
  cases call with
  | sign key genesis duty root =>
    cases daemon? with
    | none => rfl
    | some daemon => exact (hd daemon rfl).sign_validators host key genesis duty root n
  | signMessage key message =>
    cases daemon? with
    | none => rfl
    | some daemon => rfl
  | _ => cases hc

/-- In every state, a request for a duty under protection does what the two requests do that it is made of. For a key
that is not loaded it does nothing. A signature is the permission for this key and this duty, made by the signer of
the key over the root. Once signers are started, whatever is called, no call for a signature registers anybody. -/
theorem answered_as_decided (e : Engine) (ring : KeyRing) (key : PublicKey) (genesis : Root) (duty : Duty) (root : Root)
    (host : Host) (calls : List Call) :
    let resolved := Request.resolveValidator key e
    let result := signProtected ring key genesis duty root e
    let site := ({ host } : Deployment).after calls
    (key ∉ ring.signers.map (·.key) →
      result.1 = .error (.unknownKey key) ∧ result.2.database = e.database ∧ result.2.service = e.service) ∧
    (∀ signer ∈ ring.signers, signer.key = key →
      (∀ cause, resolved.1 = .error cause →
        result.1 = .error (.protection cause) ∧ result.2.database = e.database) ∧
      ∀ id, resolved.1 = .ok id →
        (e.service.known? key = some id ∧ resolved.2 = e ∨ resolved.2.tables.idOf key = some id) ∧
          Decided signer genesis duty root id resolved.2 result) ∧
    ∀ call : Call, call.signs = true → ∀ n,
      (site.next call).host.disk.validators n = site.host.disk.validators n := by
  intro resolved result site
  refine ⟨fun hk => ?_, ?_, fun call hc n => ?_⟩
  · have hresult : result = _ := signProtected_of_none (KeyRing.get?_eq_none_iff.mpr hk) genesis duty root e
    rw [hresult]
    exact ⟨rfl, rfl, rfl⟩
  · rintro signer hm rfl
    constructor
    · intro cause hr
      exact signProtected_unresolved hm hr genesis duty root
    · intro id hr
      exact ⟨of_resolveValidator_ok hr, signProtected_decided hm hr genesis duty root⟩
  · have hstart : ∀ daemon ∈ ({ host } : Deployment).daemon?, daemon.Ready := fun _ hm => by cases hm
    exact respond_validators (after_ready hstart calls) hc n

def sampleSigner : Signer := ⟨sampleKey, fun _ => .replicate .signature 0⟩

/-- A block whose slot no column can hold is not signed, and its key stays registered. A key that is registered at
the start is not registered for a vote. -/
theorem answered_as_decided_sample :
    let e := Engine.fresh false false {} {}
    let ring : KeyRing := { signers := [sampleSigner], nodup := List.nodup_singleton _ }
    let result := signProtected ring sampleKey (sampleRoot 1) (.block (2 ^ 63)) (sampleRoot 2) e
    let site := ({ host := sampleHost } : Deployment).after (sampleVotes.take 1)
    let voted := site.next (.sign sampleKey (sampleRoot 1) (.attestation 2 3) (sampleRoot 2))
    result.1 = .error (.protection (.infrastructure "may_sign_block" 1 (.outOfRange .slot (2 ^ 63)))) ∧
      result.2.tables.validators = [⟨1, sampleKey⟩] ∧
      site.host.disk.validators 0 = [⟨1, sampleKey⟩] ∧ voted.host.disk.validators 0 = [⟨1, sampleKey⟩] := by
  intro e ring result site voted
  obtain ⟨-, hloaded, hcalls⟩ := answered_as_decided e ring sampleKey (sampleRoot 1) (.block (2 ^ 63)) (sampleRoot 2)
    sampleHost (sampleVotes.take 1)
  obtain ⟨-, hdecided⟩ := hloaded sampleSigner (List.mem_singleton_self _) rfl
  obtain ⟨-, hd⟩ := hdecided 1 rfl
  have hfails : (Duty.check (.block (2 ^ 63)) (sampleRoot 1) (sampleRoot 2) 1
      (Request.resolveValidator sampleKey e).2).1 =
        .error (.infrastructure "may_sign_block" 1 (.outOfRange .slot (2 ^ 63))) := by rfl
  have hregistered : site.host.disk.validators 0 = [⟨1, sampleKey⟩] := by cbv
  refine ⟨(hd.failed _).mpr ⟨_, rfl, hfails⟩, ?_, hregistered, (hcalls _ rfl 0).trans hregistered⟩
  exact congrArg (·.tables.validators) (hd.undecided _ hfails)

end Deployment
end ValidatorSigner
