import ValidatorSigner.Proofs.Protection.Journal
import ValidatorSigner.Signing.Handler

/-! # What a permission leaves behind

Whatever comes of a request for a duty, the tables have changed quietly, and may have recorded the duty under
the number of the key. What is signed is on record.

A duty is answered in two transactions. The first one finds the number of the key, and the second one decides for
that number. Others may do anything in between.
-/
namespace ValidatorSigner.Signing
open Keys Protection Store Telemetry

namespace Duty

def offer (id : ValidatorId) (root : Root) : Duty → Offer
  | block slot => .block ⟨id, slot, root⟩
  | attestation source target => .attestation ⟨id, source, target, root⟩

def check (duty : Duty) (genesis root : Root) (id : ValidatorId) : Request Decision :=
  match duty with
  | block slot => Request.maySignBlock (some genesis) ⟨id, slot, root⟩
  | attestation source target => Request.maySignAttestation (some genesis) ⟨id, source, target, root⟩

def Leaves (duty : Duty) (root : Root) (t t' : Tables) : Prop :=
  ∃ id t₁, Quietly t t₁ ∧ Change t₁ (duty.offer id root) t'

/-- The duty is on record under the number of the key. Of an attestation only the target counts. -/
def Recorded (t : Tables) (h : History) (key : PublicKey) (root : Root) : Duty → Prop
  | block slot => ∃ id, t.idOf key = some id ∧
      ∃ r ∈ h.blocks, r.validator = id ∧ r.slot = (slot : Int) ∧ r.root = root.toList
  | attestation _ target => ∃ id, t.idOf key = some id ∧
      ∃ r ∈ h.attestations, r.validator = id ∧ r.target = (target : Int) ∧ r.root = root.toList

variable {duty : Duty} {key : PublicKey} {root : Root} {t t' : Tables} {h : History}

theorem Leaves.refl (duty : Duty) (root : Root) (t : Tables) : duty.Leaves root t t :=
  ⟨0, t, .refl, .quiet .refl⟩

theorem Leaves.idOf (hl : duty.Leaves root t t') {other : PublicKey} {id : ValidatorId}
    (hk : t.idOf other = some id) : t'.idOf other = some id := by
  obtain ⟨_, t₁, hq, hc⟩ := hl
  exact hc.idOf (idOf_of_quietly hq hk)

/-- The history goes on with a request for a duty. -/
theorem Leaves.guards (hl : duty.Leaves root t t') (g : Guards t h) :
    ∃ h', Guards t' h' ∧ h.blocks ⊆ h'.blocks ∧ h.attestations ⊆ h'.attestations ∧
      ∀ r ∈ h'.attestations, r ∈ h.attestations ∨
        ∃ source target, duty = .attestation source target ∧ r.source = (source : Int) ∧
          r.target = (target : Int) ∧ r.root = root.toList := by
  obtain ⟨id, t₁, hq, hc⟩ := hl
  obtain ⟨g', hb, ha, hnew⟩ := hc.goesOn (g.quietly hq)
  refine ⟨_, g', hb, ha, fun r hr => ?_⟩
  rcases hnew r hr with hold | ⟨c, ho, rfl⟩
  · exact .inl hold
  · cases duty with
    | block slot => cases ho
    | attestation source target =>
      cases ho
      exact .inr ⟨source, target, rfl, rfl, rfl, rfl⟩

theorem Recorded.mono (hr : duty.Recorded t h key root) {h' : History}
    (hk : ∀ {id}, t.idOf key = some id → t'.idOf key = some id) (hb : h.blocks ⊆ h'.blocks)
    (ha : h.attestations ⊆ h'.attestations) : duty.Recorded t' h' key root := by
  cases duty with
  | block slot =>
    obtain ⟨id, hid, r, hr, hrow⟩ := hr
    exact ⟨id, hk hid, r, hb hr, hrow⟩
  | attestation source target =>
    obtain ⟨id, hid, r, hr, hrow⟩ := hr
    exact ⟨id, hk hid, r, ha hr, hrow⟩

end Duty

section Requests
variable {e : Engine} {h : History}

theorem permission_eq (key : PublicKey) (genesis : Root) (duty : Duty) (root : Root) :
    permission key genesis duty root = Request.resolveValidator key >>= duty.check genesis root := by
  cases duty <;> rfl

theorem check_leads (hm : e.database.missing = []) (g : Guards e.tables h) (duty : Duty) (genesis root : Root)
    (id : ValidatorId) :
    e.Leads (Change e.tables (duty.offer id root)) (duty.check genesis root id e).2 ∧
      ((duty.check genesis root id e).1 = .ok .allow → ∀ key h', e.tables.idOf key = some id →
        Guards (duty.check genesis root id e).2.tables h' →
          duty.Recorded (duty.check genesis root id e).2.tables h' key root) := by
  cases duty with
  | block slot =>
    obtain ⟨t', metrics, hchange, he, hback⟩ := maySignBlock_effect hm g (some genesis) ⟨id, slot, root⟩
    refine ⟨leads_of_tables hchange hchange.idOf he, fun ha key h' hk g' => ?_⟩
    obtain ⟨r, hr, hrow⟩ := hback ha
    obtain ⟨hmem, howner⟩ := Tables.mem_blocksOf.mp hr
    dsimp only [Duty.check] at g' ⊢
    rw [he] at g' ⊢
    exact ⟨id, hchange.idOf hk, r, g'.blocks.subset hmem, howner, hrow⟩
  | attestation source target =>
    obtain ⟨t', metrics, hchange, he, hback⟩ :=
      maySignAttestation_effect hm g (some genesis) ⟨id, source, target, root⟩
    refine ⟨leads_of_tables hchange hchange.idOf he, fun ha key h' hk g' => ?_⟩
    obtain ⟨r, hr, hrow⟩ := hback ha
    obtain ⟨hmem, howner⟩ := Tables.mem_attestationsOf.mp hr
    dsimp only [Duty.check] at g' ⊢
    rw [he] at g' ⊢
    exact ⟨id, hchange.idOf hk, r, g'.attestations.subset hmem, howner, hrow⟩

/-- What the check of a duty does. A duty that is permitted is in the tables of every history. -/
theorem permission_leads (hs : e.Sound h) (key : PublicKey) (genesis : Root) (duty : Duty) (root : Root) :
    e.Leads (duty.Leaves root e.tables) (permission key genesis duty root e).2 ∧
      ((permission key genesis duty root e).1 = .ok .allow → ∀ h',
        Guards (permission key genesis duty root e).2.tables h' →
          duty.Recorded (permission key genesis duty root e).2.tables h' key root) := by
  obtain ⟨hm, g, hc⟩ := hs
  obtain ⟨hl, hid⟩ := resolveValidator_leads hm key
  rw [permission_eq]
  cases hr : Request.resolveValidator key e with
  | mk outcome e₁ =>
    rw [hr] at hl hid
    cases outcome with
    | error cause =>
      rw [Request.bind_of_error hr]
      exact ⟨hl.mono fun hq => ⟨0, _, hq, .quiet .refl⟩, fun ha => by cases ha⟩
    | ok id =>
      rw [Request.bind_of_ok hr]
      have hk : e₁.tables.idOf key = some id := hid hc id rfl
      obtain ⟨hnext, hrecorded⟩ := check_leads (hl.installed hm) (g.quietly hl.change) duty genesis root id
      exact ⟨(hl.trans hnext).mono fun hchange => ⟨id, e₁.tables, hl.change, hchange⟩,
        fun ha h' => hrecorded ha key h' hk⟩

/-- A request that is made on the way to an answer. -/
theorem lift_bind {α β : Type} {x : Request α} {outcome : Except ProtectionError α} {e' : Engine}
    (hx : x e = (outcome, e')) (f : Except ProtectionError α → ExceptT HandlerError (StateM Engine) β) :
    ((ExceptT.lift x.run : ExceptT HandlerError (StateM Engine) (Except ProtectionError α)) >>= f) e =
      f outcome e' := by
  have hrun : x.run e = (outcome, e') := hx
  simp only [bind, ExceptT.bind, ExceptT.mk, StateT.bind, ExceptT.lift, Functor.map, StateT.map, hrun,
    ExceptT.bindCont]
  rfl

theorem signProtected_of_none {ring : KeyRing} {key : PublicKey} (hk : ring.get? key = none) (genesis : Root)
    (duty : Duty) (root : Root) (e : Engine) :
    signProtected ring key genesis duty root e =
      (.error (.unknownKey key), { e with metrics := countRequest duty.artifact .unknownKey e.metrics }) := by
  unfold signProtected
  rw [hk]
  rfl

def countedAs : Except ProtectionError Decision → RequestOutcome
  | .ok .allow => .signed
  | .ok (.deny _) => .refused
  | .error _ => .failed

theorem signProtected_known {ring : KeyRing} {key : PublicKey} {signer : Signer} (hk : ring.get? key = some signer)
    (genesis : Root) (duty : Duty) (root : Root) (e : Engine) :
    signProtected ring key genesis duty root e =
      (((permission key genesis duty root e).1.map (answer signer root)).mapError .protection,
        { (permission key genesis duty root e).2 with
          metrics := countRequest duty.artifact (countedAs (permission key genesis duty root e).1)
            (permission key genesis duty root e).2.metrics }) := by
  unfold signProtected
  rw [hk]
  cases hp : permission key genesis duty root e with
  | mk outcome e' =>
    cases outcome with
    | error cause => exact lift_bind hp _
    | ok d =>
      cases d with
      | allow => exact lift_bind hp _
      | deny reason => exact lift_bind hp _

theorem signProtected_of_some {ring : KeyRing} {key : PublicKey} {signer : Signer} (hk : ring.get? key = some signer)
    (genesis : Root) (duty : Duty) (root : Root) (e : Engine) :
    ∃ metrics, signProtected ring key genesis duty root e =
      (((permission key genesis duty root e).1.map (answer signer root)).mapError .protection,
        { (permission key genesis duty root e).2 with metrics }) := ⟨_, signProtected_known hk genesis duty root e⟩

/-- What an answer under protection does. A duty that is signed is on record. -/
theorem signProtected_leads (hs : e.Sound h) (ring : KeyRing) (key : PublicKey) (genesis : Root) (duty : Duty)
    (root : Root) :
    e.Leads (duty.Leaves root e.tables) (signProtected ring key genesis duty root e).2 ∧
      ∀ signature, (signProtected ring key genesis duty root e).1 = .ok (.signed signature) → ∀ h',
        Guards (signProtected ring key genesis duty root e).2.tables h' →
          duty.Recorded (signProtected ring key genesis duty root e).2.tables h' key root := by
  cases hk : ring.get? key with
  | none =>
    rw [signProtected_of_none hk]
    exact ⟨leads_of_tables (.refl duty root e.tables) id rfl, fun _ ho => by cases ho⟩
  | some signer =>
    obtain ⟨metrics, he⟩ := signProtected_of_some hk genesis duty root e
    obtain ⟨hl, hrecorded⟩ := permission_leads hs key genesis duty root
    rw [he]
    refine ⟨hl.counted metrics, fun signature ho => hrecorded ?_⟩
    cases hp : (permission key genesis duty root e).1 with
    | error cause =>
      rw [hp] at ho
      cases ho
    | ok d =>
      rw [hp] at ho
      cases d with
      | allow => rfl
      | deny reason => cases ho

end Requests

/-- A duty under way: the number of its key is found, and the decision is still to be made. -/
structure DutyTask where
  signer : Signer
  genesis : Root
  duty : Duty
  root : Root
  id : ValidatorId

namespace DutyTask

/-- Without a signer for the key, or without a number, there is nothing to decide, and the request is counted. -/
def begin (ring : KeyRing) (key : PublicKey) (genesis : Root) (duty : Duty) (root : Root) (e : Engine) :
    Except HandlerError DutyTask × Engine :=
  match ring.get? key with
  | none => (.error (.unknownKey key), { e with metrics := countRequest duty.artifact .unknownKey e.metrics })
  | some signer =>
    match Request.resolveValidator key e with
    | (.error cause, e) =>
      (.error (.protection cause), { e with metrics := countRequest duty.artifact .failed e.metrics })
    | (.ok id, e) => (.ok ⟨signer, genesis, duty, root, id⟩, e)

def decide (task : DutyTask) (e : Engine) : Except ProtectionError Decision × Engine :=
  let (decision, e) := task.duty.check task.genesis task.root task.id e
  (decision, { e with metrics := countRequest task.duty.artifact (countedAs decision) e.metrics })

def answer (task : DutyTask) (decision : Except ProtectionError Decision) : Except HandlerError Outcome :=
  (decision.map (Signing.answer task.signer task.root)).mapError .protection

variable {ring : KeyRing} {key : PublicKey} {signer : Signer} {genesis root : Root} {duty : Duty} {e e' : Engine}

theorem begin_of_none (hk : ring.get? key = none) : begin ring key genesis duty root e =
    (.error (.unknownKey key), { e with metrics := countRequest duty.artifact .unknownKey e.metrics }) := by
  simp only [begin, hk]

theorem begin_of_error (hk : ring.get? key = some signer) {cause : ProtectionError}
    (hr : Request.resolveValidator key e = (.error cause, e')) : begin ring key genesis duty root e =
      (.error (.protection cause), { e' with metrics := countRequest duty.artifact .failed e'.metrics }) := by
  simp only [begin, hk, hr]

theorem begin_of_ok (hk : ring.get? key = some signer) {id : ValidatorId}
    (hr : Request.resolveValidator key e = (.ok id, e')) : begin ring key genesis duty root e =
      (.ok ⟨signer, genesis, duty, root, id⟩, e') := by
  simp only [begin, hk, hr]

theorem of_begin_ok {task : DutyTask} (hb : begin ring key genesis duty root e = (.ok task, e')) :
    task.duty = duty ∧ e' = (Request.resolveValidator key e).2 := by
  cases hk : ring.get? key with
  | none =>
    rw [begin_of_none hk] at hb
    cases hb
  | some signer =>
    cases hr : Request.resolveValidator key e with
    | mk outcome e₁ =>
      cases outcome with
      | error cause =>
        rw [begin_of_error hk hr] at hb
        cases hb
      | ok id =>
        rw [begin_of_ok hk hr] at hb
        cases hb
        exact ⟨rfl, rfl⟩

theorem begin_leads (hm : e.database.missing = []) (ring : KeyRing) (key : PublicKey) (genesis : Root) (duty : Duty)
    (root : Root) : e.Leads (Quietly e.tables) (begin ring key genesis duty root e).2 := by
  cases hk : ring.get? key with
  | none =>
    rw [begin_of_none hk]
    exact leads_of_tables .refl (fun hk => hk) rfl
  | some signer =>
    obtain ⟨hl, -⟩ := resolveValidator_leads hm key
    cases hr : Request.resolveValidator key e with
    | mk outcome e₁ =>
      rw [hr] at hl
      cases outcome with
      | error cause =>
        rw [begin_of_error hk hr]
        exact hl.counted _
      | ok id =>
        rw [begin_of_ok hk hr]
        exact hl

/-- A duty whose transactions follow one another is answered as the handler answers it. -/
theorem signProtected_eq (ring : KeyRing) (key : PublicKey) (genesis : Root) (duty : Duty) (root : Root)
    (e : Engine) : signProtected ring key genesis duty root e =
      match begin ring key genesis duty root e with
      | (.error error, e') => (.error error, e')
      | (.ok task, e') => (task.answer (task.decide e').1, (task.decide e').2) := by
  cases hk : ring.get? key with
  | none => rw [signProtected_of_none hk, begin_of_none hk]
  | some signer =>
    rw [signProtected_known hk, permission_eq]
    cases hr : Request.resolveValidator key e with
    | mk outcome e₁ =>
      cases outcome with
      | error cause =>
        rw [Request.bind_of_error hr, begin_of_error hk hr]
        rfl
      | ok id =>
        rw [Request.bind_of_ok hr, begin_of_ok hk hr]
        rfl

end DutyTask
end ValidatorSigner.Signing
