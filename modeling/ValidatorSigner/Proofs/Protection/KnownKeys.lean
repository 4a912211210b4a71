import ValidatorSigner.Proofs.Protection.AtHand

/-! # Keys whose numbers are at hand

A number that is at hand stays there as long as the service runs. So keys that were registered once are never
registered again.
-/
namespace ValidatorSigner.Protection
open Store

def Service.Knows (service : Service) (keys : List PublicKey) : Prop :=
  ∀ key ∈ keys, ∃ id, service.known? key = some id

namespace Service.Knows
variable {service : Service} {keys : List PublicKey}

theorem remember (h : service.Knows keys) (key : PublicKey) (id : ValidatorId) :
    (service.remember key id).Knows keys := by
  intro other ho
  rw [known?_remember]
  by_cases he : other = key
  · exact ⟨id, if_pos he⟩
  · rw [if_neg he]
    exact h other ho

theorem rememberAll (h : service.Knows keys) (pairs : List (PublicKey × ValidatorId)) :
    (service.rememberAll pairs).Knows keys := by
  induction pairs generalizing service with
  | nil => exact h
  | cons pair rest ih => exact ih (h.remember pair.1 pair.2)

end Service.Knows

theorem knows_rememberAll_zip (service : Service) {keys : List PublicKey} {ids : List ValidatorId}
    (hl : ids.length = keys.length) : (service.rememberAll (keys.zip ids)).Knows keys := by
  induction keys generalizing service ids with
  | nil => exact nofun
  | cons key rest ih =>
    cases ids with
    | nil => cases hl
    | cons id ids =>
      have hfirst : (service.remember key id).Knows [key] := by
        intro other ho
        obtain rfl := List.mem_singleton.mp ho
        exact ⟨id, by rw [known?_remember, if_pos rfl]⟩
      intro other ho
      rcases List.mem_cons.mp ho with rfl | ho
      · exact hfirst.rememberAll (rest.zip ids) other (List.mem_singleton_self other)
      · exact ih (service.remember key id) (Nat.succ.inj hl) other ho

namespace Request
variable {α β : Type}

/-- However it ends, a request loses no number that is at hand. -/
def Retentive (x : Request α) : Prop := ∀ e keys, e.service.Knows keys → (x e).2.service.Knows keys

theorem Steady.retentive {x : Request α} (hx : Steady x) : Retentive x := by
  intro e keys h
  obtain ⟨_, _, he⟩ := hx e
  rw [he]
  exact h

theorem Retentive.bind {x : Request α} {f : α → Request β} (hx : Retentive x) (hf : ∀ a, Retentive (f a)) :
    Retentive (x >>= f) := by
  intro e keys h
  have hfirst := hx e keys h
  cases hr : x e with
  | mk outcome e' =>
    rw [hr] at hfirst
    cases outcome with
    | error cause =>
      rw [bind_of_error hr]
      exact hfirst
    | ok a =>
      rw [bind_of_ok hr]
      exact hf a e' keys hfirst

theorem retentive_get {f : Engine → Request α} (hf : ∀ e, Retentive (f e)) :
    Retentive ((get : Request Engine) >>= f) := by
  intro e keys h
  rw [get_bind]
  exact hf e e keys h

theorem retentive_remember (key : PublicKey) (id : ValidatorId) : Retentive (remember key id) := fun _ _ h =>
  h.remember key id

theorem retentive_resolveValidator (key : PublicKey) : Retentive (resolveValidator key) := by
  refine retentive_get fun e => ?_
  cases e.service.known? key with
  | some id => exact (steady_pure id).retentive
  | none =>
    exact (steady_transact _ _).retentive.bind fun id =>
      (retentive_remember key id).bind fun _ => (steady_pure id).retentive

theorem retentive_registerValidators (keys : List PublicKey) : Retentive (registerValidators keys) := by
  refine (steady_transact _ _).retentive.bind fun ids => Retentive.bind ?_ fun _ => (steady_pure ids).retentive
  intro e known h
  rw [rememberAll_apply]
  exact h.rememberAll (keys.zip ids)

theorem retentive_validatorId (key : PublicKey) : Retentive (validatorId key) := by
  refine retentive_get fun e => ?_
  cases e.service.known? key with
  | some id => exact (steady_pure (some id)).retentive
  | none =>
    refine (steady_transact _ _).retentive.bind fun found => ?_
    cases found with
    | none => exact (steady_pure none).retentive
    | some id => exact (retentive_remember key id).bind fun _ => (steady_pure (some id)).retentive

end Request

theorem retentive_performWithin (rounds : ValidatorId → Rounds) (op : Operation) :
    Request.Retentive (op.performWithin rounds) := by
  cases ho : op.fetches with
  | false => exact (steady_performWithin rounds ho).retentive
  | true =>
    have hanswer (form : Answer) : Request.Retentive (pure form) := (Request.steady_pure form).retentive
    cases op with
    | resolveValidator key => exact (Request.retentive_resolveValidator key).bind fun _ => hanswer _
    | registerValidators keys => exact (Request.retentive_registerValidators keys).bind fun _ => hanswer _
    | validatorId key => exact (Request.retentive_validatorId key).bind fun _ => hanswer _
    | _ => cases ho

theorem length_of_registerAll {keys : List PublicKey} {ids : List ValidatorId} {db db' : Database}
    (h : keys.mapM Transaction.registerValidator db = .ok (ids, db')) : ids.length = keys.length := by
  induction keys generalizing db ids with
  | nil =>
    cases h
    rfl
  | cons key rest ih =>
    rw [List.mapM_cons] at h
    obtain ⟨id, _, -, hothers⟩ := Transaction.of_bind_ok h
    obtain ⟨others, _, hrest, hanswer⟩ := Transaction.of_bind_ok hothers
    cases hanswer
    exact congrArg Nat.succ (ih hrest)

/-- Who registers keys has their numbers at hand. -/
theorem knows_of_registerValidators {keys : List PublicKey} {ids : List ValidatorId} {e e' : Engine}
    (h : Request.registerValidators keys e = (.ok ids, e')) : e'.service.Knows keys := by
  unfold Request.registerValidators at h
  rcases transactOn_cases (·.decisions) "register_validators" (keys.mapM Transaction.registerValidator) e with
    ⟨found, db, hbody, hr⟩ | ⟨cause, metrics, hr⟩
  · rw [Request.bind_of_ok (show transact _ _ e = _ from hr), Request.bind_of_ok (rememberAll_apply _ _)] at h
    cases h
    exact knows_rememberAll_zip e.service (length_of_registerAll hbody)
  · rw [Request.bind_of_error (show transact _ _ e = _ from hr)] at h
    cases h

end ValidatorSigner.Protection
