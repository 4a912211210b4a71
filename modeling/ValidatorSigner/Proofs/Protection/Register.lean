import Mathlib.Data.List.Nodup
import ValidatorSigner.Proofs.Protection.Completion
import ValidatorSigner.Proofs.Protection.KnownKeys
import ValidatorSigner.Proofs.Protection.Rollback
import ValidatorSigner.Proofs.Protection.Untouched

/-! # The register of validators

Rows are only ever added to the register: each has a key that had none before and a number above all others. So a
number that was once given stays with its key and with no other, and many keys that are registered together get the
numbers that they would get one after the other.
-/
namespace ValidatorSigner.Protection
open Store Telemetry

/-- No key has two rows, and the numbers ascend from row to row. -/
structure Orderly (t : Tables) : Prop where
  keys : (t.validators.map (·.key)).Nodup
  ids : (t.validators.map (·.id)).Pairwise (· < ·)

section Rows
variable {t t' : Tables} {key other : PublicKey} {id : ValidatorId}

theorem idOf_eq_none_iff : t.idOf key = none ↔ key ∉ t.validators.map (·.key) := by
  simp [Tables.idOf]

theorem Orderly.idOf_eq_some_iff (ho : Orderly t) : t.idOf key = some id ↔ ⟨id, key⟩ ∈ t.validators := by
  simp only [Tables.idOf, Option.map_eq_some_iff, find?_key_eq_some_iff ho.keys]
  constructor
  · rintro ⟨row, ⟨hrow, rfl⟩, rfl⟩
    exact hrow
  · intro h
    exact ⟨_, ⟨h, rfl⟩, rfl⟩

/-- A key and its number name each other. -/
theorem Orderly.key_eq_iff (ho : Orderly t) {a b : ValidatorRow} (ha : a ∈ t.validators) (hb : b ∈ t.validators) :
    a.key = b.key ↔ a.id = b.id := by
  have hids : (t.validators.map (·.id)).Nodup := ho.ids.imp fun h => Int.ne_of_lt h
  constructor
  · intro h
    rw [List.inj_on_of_nodup_map ho.keys ha hb h]
  · intro h
    rw [List.inj_on_of_nodup_map hids ha hb h]

theorem orderly_addValidator (ho : Orderly t) (hn : t.idOf key = none) : Orderly (t.addValidator key) := by
  constructor
  · have hnew := idOf_eq_none_iff.mp hn
    simpa [Tables.addValidator, List.nodup_append] using ⟨ho.keys, by simpa using hnew⟩
  · have habove := lt_nextId t
    simpa [Tables.addValidator, List.pairwise_append] using ⟨ho.ids, by simpa using habove⟩

structure Appends (db db' : Database) : Prop where
  older : db.tables.validators <+: db'.tables.validators
  orderly : Orderly db.tables → Orderly db'.tables

instance isPreorder_appends : IsPreorder Database Appends where
  refl _ := ⟨List.prefix_rfl, fun ho => ho⟩
  trans _ _ _ h₁ h₂ := ⟨h₁.older.trans h₂.older, fun ho => h₂.orderly (h₁.orderly ho)⟩

theorem covers_appends : Covers Appends where
  enrol _ _ hn := ⟨List.prefix_append _ _, fun ho => orderly_addValidator ho hn⟩
  bind _ _ _ := ⟨List.prefix_rfl, fun ho => ⟨ho.keys, ho.ids⟩⟩
  addBlock _ _ := ⟨List.prefix_rfl, fun ho => ⟨ho.keys, ho.ids⟩⟩
  addAttestation _ _ := ⟨List.prefix_rfl, fun ho => ⟨ho.keys, ho.ids⟩⟩
  putWatermark _ _ := ⟨List.prefix_rfl, fun ho => ⟨ho.keys, ho.ids⟩⟩
  forgetBlocks _ _ _ _ := ⟨List.prefix_rfl, fun ho => ⟨ho.keys, ho.ids⟩⟩
  forgetAttestations _ _ _ _ := ⟨List.prefix_rfl, fun ho => ⟨ho.keys, ho.ids⟩⟩

/-- Some keys are entered: those that had no row have one now, at the end of the register, and one number is told
for each place in the list. -/
structure Entered (t : Tables) (keys : List PublicKey) (ids : List ValidatorId) (t' : Tables) : Prop where
  rows : ∃ added, t' = { t with validators := t.validators ++ added } ∧ (added.map (·.key)).Nodup ∧
    ∀ key, key ∈ added.map (·.key) ↔ key ∈ keys ∧ key ∉ t.validators.map (·.key)
  ids : List.Forall₂ (fun key id => ⟨id, key⟩ ∈ t'.validators) keys ids
  orderly : Orderly t'

theorem entered_enrolAll (ho : Orderly t) (keys : List PublicKey) :
    Entered t keys (enrolAll t keys).1 (enrolAll t keys).2 := by
  induction keys generalizing t with
  | nil => exact ⟨⟨[], by simp [enrolAll], by simp, by simp⟩, .nil, ho⟩
  | cons key rest ih =>
    cases hk : t.idOf key with
    | some id =>
      have hfirst : enrol t key = (id, t) := by simp only [enrol, hk]
      obtain ⟨⟨added, hrows, hnodup, hadded⟩, hids, hlast⟩ := ih ho
      have hold : ⟨id, key⟩ ∈ t.validators := ho.idOf_eq_some_iff.mp hk
      simp only [enrolAll, hfirst]
      refine ⟨⟨added, hrows, hnodup, fun other => ?_⟩, .cons ?_ hids, hlast⟩
      · rw [hadded, List.mem_cons]
        constructor
        · rintro ⟨hr, hn⟩
          exact ⟨.inr hr, hn⟩
        · rintro ⟨rfl | hr, hn⟩
          · exact absurd (List.mem_map.mpr ⟨_, hold, rfl⟩) hn
          · exact ⟨hr, hn⟩
      · rw [hrows]
        exact List.mem_append_left _ hold
    | none =>
      have hfirst : enrol t key = (t.nextId, t.addValidator key) := by simp only [enrol, hk]
      obtain ⟨⟨added, hrows, hnodup, hadded⟩, hids, hlast⟩ := ih (orderly_addValidator ho hk)
      simp only [enrolAll, hfirst]
      have hkeys (other : PublicKey) : other ∉ (t.addValidator key).validators.map (·.key) ↔
          other ∉ t.validators.map (·.key) ∧ other ≠ key := by
        simp [Tables.addValidator]
      refine ⟨⟨⟨t.nextId, key⟩ :: added, ?_, ?_, fun other => ?_⟩, .cons ?_ hids, hlast⟩
      · rw [hrows]
        simp [Tables.addValidator]
      · have hnew : key ∉ added.map (·.key) := fun hm => ((hkeys key).mp ((hadded key).mp hm).2).2 rfl
        exact List.nodup_cons.mpr ⟨hnew, hnodup⟩
      · have hn := idOf_eq_none_iff.mp hk
        rw [List.map_cons, List.mem_cons, hadded, hkeys, List.mem_cons]
        by_cases he : other = key
        · subst he
          simp [hn]
        · simp [he]
      · rw [hrows]
        simp [Tables.addValidator]

/-- A key that has no number yet gets one above all others, and one row. -/
theorem Orderly.enrol_cases (ho : Orderly t) (h : enrol t key = (id, t')) :
    ⟨id, key⟩ ∈ t.validators ∧ t' = t ∨
      (∀ row ∈ t.validators, row.key ≠ key ∧ row.id < id) ∧
        t' = { t with validators := t.validators ++ [⟨id, key⟩] } := by
  unfold enrol at h
  cases hk : t.idOf key with
  | some found =>
    simp only [hk, Prod.mk.injEq] at h
    obtain ⟨rfl, rfl⟩ := h
    exact .inl ⟨ho.idOf_eq_some_iff.mp hk, rfl⟩
  | none =>
    simp only [hk, Prod.mk.injEq] at h
    obtain ⟨rfl, rfl⟩ := h
    have hnew := idOf_eq_none_iff.mp hk
    refine .inr ⟨fun row hrow => ⟨?_, ?_⟩, rfl⟩
    · rintro rfl
      exact hnew (List.mem_map_of_mem hrow)
    · exact lt_nextId t _ (List.mem_map_of_mem hrow)

end Rows

def Operation.registers : Operation → Bool
  | .resolveValidator _ => true
  | .registerValidators _ => true
  | _ => false

theorem keeps_rows (rounds : ValidatorId → Rounds) {op : Operation} (ho : op.registers = false) :
    Request.Keeps (·.validators) (op.performWithin rounds) := by
  have hbind (root : Root) (t : Tables) : (bound t root).validators = t.validators := rfl
  cases op with
  | resolveValidator key => cases ho
  | registerValidators keys => cases ho
  | validatorId key => exact (Request.keeps_validatorId key).answered _
  | allIds => exact Request.keeps_allIds.answered _
  | checkGenesis root => exact (Request.keeps_checkGenesis (hbind root)).answered _
  | genesisExists => exact Request.keeps_genesisExists.answered _
  | maySignBlock genesis c =>
    exact (Request.keeps_maySignBlock (fun root _ => hbind root) (fun _ _ => rfl) c).answered _
  | maySignAttestation genesis c =>
    exact (Request.keeps_maySignAttestation (fun root _ => hbind root) (fun _ _ => rfl) c).answered _
  | prune id window =>
    have hprune : Request.Relates (Request.SameView (·.validators)) (Request.pruneWithin (rounds id) id window) :=
      Request.relates_pruneWithin (fun _ _ => rfl) (fun _ _ _ _ => rfl) (fun _ _ _ _ => rfl) _ _ _
    exact (Request.keeps_of_relates hprune).answered _
  | pruneAll window =>
    have hprune : Request.Relates (Request.SameView (·.validators)) (Request.pruneAllWithin rounds window) :=
      Request.relates_pruneAllWithin (fun _ _ => rfl) (fun _ _ _ _ => rfl) (fun _ _ _ _ => rfl) _ _
    exact (Request.keeps_of_relates hprune).answered _

def Request.Succeeds {α : Type} (x : Request α) (e : Engine) : Prop := ∃ a e', x e = (.ok a, e')

theorem Request.not_succeeds {α : Type} {x : Request α} {e e' : Engine} {cause : ProtectionError}
    (h : x e = (.error cause, e')) : ¬ x.Succeeds e := by
  rintro ⟨a, e₁, ha⟩
  rw [h] at ha
  cases ha

theorem Request.of_answered_ok {α : Type} {x : Request α} {form : α → Answer} {e e' : Engine} {answer : Answer}
    (h : Request.answered form x e = (.ok answer, e')) : ∃ a, x e = (.ok a, e') ∧ form a = answer := by
  rw [Request.answered_apply] at h
  cases hx : x e with
  | mk outcome e₁ =>
    rw [hx] at h
    cases outcome with
    | error cause => cases h
    | ok a =>
      cases h
      exact ⟨a, rfl, rfl⟩

structure Engine.Rearranged (e e' : Engine) : Prop where
  same : e' = { e with service := { e.service with known := e'.service.known } }
  known : ∀ key, e'.service.known? key = e.service.known? key

theorem Engine.Rearranged.trans {e e' e'' : Engine} (h₁ : e.Rearranged e') (h₂ : e'.Rearranged e'') :
    e.Rearranged e'' := by
  refine ⟨?_, fun key => (h₂.known key).trans (h₁.known key)⟩
  rw [h₂.same, h₁.same]

structure Engine.CanRegister (e : Engine) : Prop where
  installed : e.database.missing = []
  writable : e.database.readOnly = false
  free : e.obstacle? e.service.decisions = none

def Engine.enrolled (e : Engine) (keys : List PublicKey) : Engine :=
  { e.withTables (enrolAll e.tables keys).2 with
    service := e.service.rememberAll (keys.zip (enrolAll e.tables keys).1) }

theorem known?_rememberAll_congr {service service' : Service}
    (h : ∀ key, service'.known? key = service.known? key) (pairs : List (PublicKey × ValidatorId)) (key : PublicKey) :
    (service'.rememberAll pairs).known? key = (service.rememberAll pairs).known? key := by
  induction pairs generalizing service service' with
  | nil => exact h key
  | cons pair rest ih =>
    apply ih
    intro other
    rw [known?_remember, known?_remember, h other]

section Requests
variable {e e' : Engine} {key : PublicKey} {keys : List PublicKey} {id : ValidatorId} {ids : List ValidatorId}

theorem Engine.Rearranged.enrolled (h : e.Rearranged e') (keys : List PublicKey) :
    (e.enrolled keys).Rearranged (e'.enrolled keys) := by
  have htables : e'.tables = e.tables := by rw [h.same]
  refine ⟨?_, fun key => ?_⟩
  · unfold Engine.enrolled
    rw [rememberAll_rest, rememberAll_rest e.service, htables, h.same]
  · unfold Engine.enrolled
    rw [htables]
    exact known?_rememberAll_congr h.known _ key

theorem registerValidators_apply (he : e.CanRegister) (keys : List PublicKey) :
    Request.registerValidators keys e = (.ok (enrolAll e.tables keys).1, e.enrolled keys) := by
  have hbody := registerAll_apply (Transaction.not_mem_missing he.installed .validators) keys
  rw [if_neg (by simp [he.writable])] at hbody
  have hr : transact "register_validators" (keys.mapM Transaction.registerValidator) e =
      (.ok (enrolAll e.tables keys).1, e.withTables (enrolAll e.tables keys).2) := transactOn_of_ok he.free hbody
  unfold Request.registerValidators
  rw [Request.bind_of_ok hr, Request.bind_of_ok (rememberAll_apply _ _)]
  rfl

theorem resolveValidator_of_known (hk : e.service.known? key = some id) :
    Request.resolveValidator key e = (.ok id, e) := by
  unfold Request.resolveValidator
  rw [Request.get_bind, hk]
  rfl

theorem resolveValidator_apply (he : e.CanRegister) (hk : e.service.known? key = none) :
    Request.resolveValidator key e = (.ok (enrol e.tables key).1, e.enrolled [key]) := by
  have hbody := registerValidator_apply (Transaction.not_mem_missing he.installed .validators) key
  rw [if_neg (by simp [he.writable])] at hbody
  have hr : transact "resolve_validator" (Transaction.registerValidator key) e =
      (.ok (enrol e.tables key).1, e.withTables (enrol e.tables key).2) := transactOn_of_ok he.free hbody
  unfold Request.resolveValidator
  rw [Request.get_bind, hk]
  dsimp only
  rw [Request.bind_of_ok hr, Request.bind_of_ok (remember_apply _ _ _)]
  rfl

theorem Engine.CanRegister.enrolled (he : e.CanRegister) (keys : List PublicKey) : (e.enrolled keys).CanRegister := by
  refine ⟨he.installed, he.writable, ?_⟩
  unfold Engine.enrolled
  rw [rememberAll_rest]
  exact he.free

theorem coherent_enrolled (hc : e.service.Coherent e.tables) (keys : List PublicKey) :
    (e.enrolled keys).service.Coherent (e.enrolled keys).tables := by
  have hq := enrolAll_quietly e.tables keys
  have hc' : e.service.Coherent (enrolAll e.tables keys).2 := fun key id hk => idOf_of_quietly hq (hc key id hk)
  exact hc'.rememberAll (idOf_enrolAll e.tables keys)

theorem Engine.Rearranged.canRegister (h : e.Rearranged e') (he : e.CanRegister) : e'.CanRegister := by
  rw [h.same]
  exact ⟨he.installed, he.writable, he.free⟩

theorem Engine.Rearranged.coherent (h : e.Rearranged e') (hc : e.service.Coherent e.tables) :
    e'.service.Coherent e'.tables := by
  have htables : e'.tables = e.tables := by rw [h.same]
  intro key id hk
  rw [h.known] at hk
  rw [htables]
  exact hc key id hk

/-- A key that is looked up and one that is registered alone come to the same. -/
theorem resolveValidator_enrols (he : e.CanRegister) (hc : e.service.Coherent e.tables) (key : PublicKey) :
    ∃ e', Request.resolveValidator key e = (.ok (enrol e.tables key).1, e') ∧ (e.enrolled [key]).Rearranged e' := by
  cases hk : e.service.known? key with
  | none => exact ⟨_, resolveValidator_apply he hk, rfl, fun _ => rfl⟩
  | some id =>
    have hid : enrol e.tables key = (id, e.tables) := by simp only [enrol, hc key id hk]
    have hone : e.enrolled [key] = { e with service := e.service.remember key id } := by
      simp only [Engine.enrolled, enrolAll, hid]
      rfl
    refine ⟨e, ?_, ?_, fun other => ?_⟩
    · rw [hid, resolveValidator_of_known hk]
    · rw [hone]
      rfl
    · rw [hone, known?_remember]
      split
      · rename_i hother
        rw [hother, hk]
      · rfl

/-- Keys that are looked up one after the other, and keys that are registered together, come to the same. -/
theorem resolveEach_enrols (he : e.CanRegister) (hc : e.service.Coherent e.tables) (keys : List PublicKey) :
    ∃ e', keys.mapM Request.resolveValidator e = (.ok (enrolAll e.tables keys).1, e') ∧
      (e.enrolled keys).Rearranged e' := by
  induction keys generalizing e with
  | nil => exact ⟨e, rfl, rfl, fun _ => rfl⟩
  | cons key rest ih =>
    obtain ⟨e₁, hfirst, hone⟩ := resolveValidator_enrols he hc key
    obtain ⟨e₂, hothers, hmore⟩ := ih (hone.canRegister (he.enrolled [key])) (hone.coherent (coherent_enrolled hc [key]))
    have htables : e₁.tables = (enrol e.tables key).2 := by
      rw [hone.same]
      rfl
    refine ⟨e₂, ?_, (hone.enrolled rest).trans hmore⟩
    rw [List.mapM_cons, Request.bind_of_ok hfirst, Request.bind_of_ok hothers, htables]
    rfl

theorem resolveValidator_succeeds_iff (hm : e.database.missing = []) (hr : e.database.readOnly = false)
    (key : PublicKey) :
    (Request.resolveValidator key).Succeeds e ↔
      (e.service.known? key).isSome ∨ e.obstacle? e.service.decisions = none := by
  cases hk : e.service.known? key with
  | some id => exact iff_of_true ⟨_, _, resolveValidator_of_known hk⟩ (.inl rfl)
  | none =>
    cases hf : e.obstacle? e.service.decisions with
    | none => exact iff_of_true ⟨_, _, resolveValidator_apply ⟨hm, hr, hf⟩ hk⟩ (.inr rfl)
    | some fault =>
      have hstop : Request.resolveValidator key e = e.failed "resolve_validator" (.access fault) := by
        unfold Request.resolveValidator
        rw [Request.get_bind, hk]
        exact Request.bind_of_error (transactOn_of_obstacle hf)
      exact iff_of_false (Request.not_succeeds hstop) (by simp)

theorem of_resolveValidator_ok (hm : e.database.missing = []) (hr : e.database.readOnly = false)
    (hc : e.service.Coherent e.tables) (h : Request.resolveValidator key e = (.ok id, e')) :
    enrol e.tables key = (id, e'.tables) := by
  rcases (resolveValidator_succeeds_iff hm hr key).mp ⟨id, e', h⟩ with hk | hf
  · obtain ⟨known, hk⟩ := Option.isSome_iff_exists.mp hk
    rw [resolveValidator_of_known hk] at h
    cases h
    simp only [enrol, hc key id hk]
  · obtain ⟨e₁, henrol, hone⟩ := resolveValidator_enrols ⟨hm, hr, hf⟩ hc key
    rw [henrol] at h
    cases h
    rw [hone.same]
    rfl

theorem registerValidators_succeeds_iff (hm : e.database.missing = []) (hr : e.database.readOnly = false)
    (keys : List PublicKey) :
    (Request.registerValidators keys).Succeeds e ↔ e.obstacle? e.service.decisions = none := by
  cases hf : e.obstacle? e.service.decisions with
  | none => exact iff_of_true ⟨_, _, registerValidators_apply ⟨hm, hr, hf⟩ keys⟩ rfl
  | some fault =>
    have hstop : Request.registerValidators keys e = e.failed "register_validators" (.access fault) :=
      Request.bind_of_error (transactOn_of_obstacle hf)
    exact iff_of_false (Request.not_succeeds hstop) (by simp)

theorem of_registerValidators_ok (hm : e.database.missing = []) (hr : e.database.readOnly = false)
    (h : Request.registerValidators keys e = (.ok ids, e')) :
    e.CanRegister ∧ ids = (enrolAll e.tables keys).1 ∧ e' = e.enrolled keys := by
  have he : e.CanRegister := ⟨hm, hr, (registerValidators_succeeds_iff hm hr keys).mp ⟨ids, e', h⟩⟩
  rw [registerValidators_apply he] at h
  cases h
  exact ⟨he, rfl, rfl⟩

theorem validatorId_of_known (hk : e.service.known? key = some id) :
    Request.validatorId key e = (.ok (some id), e) := by
  unfold Request.validatorId
  rw [Request.get_bind, hk]
  rfl

theorem validatorId_apply (hm : e.database.missing = []) (hf : e.obstacle? e.service.decisions = none)
    (hk : e.service.known? key = none) :
    ∃ known, Request.validatorId key e =
      (.ok (e.tables.idOf key), { e with service := { e.service with known } }) := by
  have hbody := findValidator_apply (Transaction.not_mem_missing hm .validators) key
  have hr : transact "find_validator" (Transaction.findValidator key) e = (.ok (e.tables.idOf key), e) :=
    transactOn_of_ok hf hbody
  unfold Request.validatorId
  rw [Request.get_bind, hk]
  dsimp only
  rw [Request.bind_of_ok hr]
  cases e.tables.idOf key with
  | none => exact ⟨e.service.known, rfl⟩
  | some id => exact ⟨(e.service.remember key id).known, rfl⟩

theorem validatorId_succeeds_iff (hm : e.database.missing = []) (key : PublicKey) :
    (Request.validatorId key).Succeeds e ↔
      (e.service.known? key).isSome ∨ e.obstacle? e.service.decisions = none := by
  cases hk : e.service.known? key with
  | some id => exact iff_of_true ⟨_, _, validatorId_of_known hk⟩ (.inl rfl)
  | none =>
    cases hf : e.obstacle? e.service.decisions with
    | none =>
      obtain ⟨known, hfound⟩ := validatorId_apply hm hf hk
      exact iff_of_true ⟨_, _, hfound⟩ (.inr rfl)
    | some fault =>
      have hstop : Request.validatorId key e = e.failed "find_validator" (.access fault) := by
        unfold Request.validatorId
        rw [Request.get_bind, hk]
        exact Request.bind_of_error (transactOn_of_obstacle hf)
      exact iff_of_false (Request.not_succeeds hstop) (by simp)

theorem of_validatorId_ok (hm : e.database.missing = []) (hc : e.service.Coherent e.tables)
    {found : Option ValidatorId} (h : Request.validatorId key e = (.ok found, e')) : e.tables.idOf key = found := by
  cases hk : e.service.known? key with
  | some id =>
    rw [validatorId_of_known hk] at h
    cases h
    exact hc key id hk
  | none =>
    have hf := ((validatorId_succeeds_iff hm key).mp ⟨found, e', h⟩).resolve_left (by simp [hk])
    obtain ⟨known, hfound⟩ := validatorId_apply hm hf hk
    rw [hfound] at h
    cases h
    rfl

theorem allIds_succeeds_iff (hm : e.database.missing = []) :
    Request.allIds.Succeeds e ↔ e.obstacle? e.service.decisions = none := by
  cases hf : e.obstacle? e.service.decisions with
  | none => exact iff_of_true ⟨_, _, transactOn_of_ok hf (allValidators_apply hm)⟩ rfl
  | some fault => exact iff_of_false (Request.not_succeeds (transactOn_of_obstacle hf)) (by simp)

theorem of_allIds_ok (hm : e.database.missing = []) (ho : Orderly e.tables) (h : Request.allIds e = (.ok ids, e')) :
    ids = e.tables.validators.map (·.id) := by
  have hf := (allIds_succeeds_iff hm).mp ⟨ids, e', h⟩
  have hall : Request.allIds e = (.ok _, _) := transactOn_of_ok hf (allValidators_apply hm)
  rw [hall] at h
  cases h
  exact List.mergeSort_of_pairwise (ho.ids.imp fun hlt => decide_eq_true (Int.le_of_lt hlt))

end Requests

structure Engine.KeepsRegister (e : Engine) : Prop where
  /-- A key has one number, and a number one key. -/
  injective : ∀ a ∈ e.tables.validators, ∀ b ∈ e.tables.validators, a.key = b.key ↔ a.id = b.id
  /-- No request takes a row away or changes one. -/
  older : ∀ rounds (op : Operation), e.tables.validators <+: (op.performWithin rounds e).2.tables.validators
  others : ∀ rounds (op : Operation), op.registers = false →
    (op.performWithin rounds e).2.tables.validators = e.tables.validators
  failed : ∀ (op : Operation) cause, op.registers = true → (op.perform e).1 = .error cause →
    (op.perform e).2.tables = e.tables
  resolves : ∀ key, (Request.resolveValidator key).Succeeds e ↔
    (e.service.known? key).isSome ∨ e.obstacle? e.service.decisions = none
  /-- A key that has no number yet gets one above all others, and one row. -/
  resolved : ∀ key id e', Request.resolveValidator key e = (.ok id, e') →
    ⟨id, key⟩ ∈ e.tables.validators ∧ e'.tables = e.tables ∨
      (∀ row ∈ e.tables.validators, row.key ≠ key ∧ row.id < id) ∧
        e'.tables = { e.tables with validators := e.tables.validators ++ [⟨id, key⟩] }
  registers : ∀ keys, (Request.registerValidators keys).Succeeds e ↔ e.obstacle? e.service.decisions = none
  /-- Registering keys together is resolving them one after the other. -/
  registered : ∀ keys ids e', Request.registerValidators keys e = (.ok ids, e') →
    Entered e.tables keys ids e'.tables ∧
      ∃ e₁, keys.mapM Request.resolveValidator e = (.ok ids, e₁) ∧ e'.Rearranged e₁
  finds : ∀ key, (Request.validatorId key).Succeeds e ↔
    (e.service.known? key).isSome ∨ e.obstacle? e.service.decisions = none
  found : ∀ key found e', Request.validatorId key e = (.ok found, e') →
    ∀ id, found = some id ↔ ⟨id, key⟩ ∈ e.tables.validators
  lists : Request.allIds.Succeeds e ↔ e.obstacle? e.service.decisions = none
  listed : ∀ ids e', Request.allIds e = (.ok ids, e') →
    ids = e.tables.validators.map (·.id) ∧ ids.Pairwise (· < ·)

theorem Engine.Sound.keepsRegister {e : Engine} {h : History} (hs : e.Sound h)
    (hr : e.database.readOnly = false) (ho : Orderly e.tables) : e.KeepsRegister where
  injective _ ha _ hb := ho.key_eq_iff ha hb
  older rounds op := (covers_appends.performWithin rounds op e).older
  others rounds _ hop := keeps_rows rounds hop e
  failed op cause hop herror := by
    have hprunes : op.prunes = false := by
      cases op with
      | prune id window => cases hop
      | pruneAll window => cases hop
      | _ => rfl
    obtain ⟨metrics, he⟩ := Operation.atomic hprunes e cause herror
    rw [he]
  resolves := resolveValidator_succeeds_iff hs.installed hr
  resolved _ _ _ h := ho.enrol_cases (of_resolveValidator_ok hs.installed hr hs.coherent h)
  registers := registerValidators_succeeds_iff hs.installed hr
  registered keys _ _ h := by
    obtain ⟨he, rfl, rfl⟩ := of_registerValidators_ok hs.installed hr h
    exact ⟨entered_enrolAll ho keys, resolveEach_enrols he hs.coherent keys⟩
  finds := validatorId_succeeds_iff hs.installed
  found _ _ _ h id := by
    rw [← of_validatorId_ok hs.installed hs.coherent h, ho.idOf_eq_some_iff]
  lists := allIds_succeeds_iff hs.installed
  listed _ _ h := by
    obtain rfl := of_allIds_ok hs.installed ho h
    exact ⟨rfl, List.pairwise_map.mpr (List.pairwise_map.mp ho.ids)⟩

inductive Tells : Operation → Answer → PublicKey → ValidatorId → Prop
  | resolved (key : PublicKey) (id : ValidatorId) : Tells (.resolveValidator key) (.number id) key id
  | registered {keys : List PublicKey} {ids : List ValidatorId} {key : PublicKey} {id : ValidatorId}
      (h : (key, id) ∈ keys.zip ids) : Tells (.registerValidators keys) (.numbers ids) key id
  | found (key : PublicKey) (id : ValidatorId) : Tells (.validatorId key) (.found (some id)) key id

def Run.Told (run : Run) (key : PublicKey) (id : ValidatorId) : Prop :=
  ∃ op answer, (op, .ok answer) ∈ run.journal ∧ Tells op answer key id

/-- A number that is told is on record once it is told. -/
theorem Tells.idOf {e e' : Engine} {h : History} (hs : e.Sound h) (hr : e.database.readOnly = false)
    {rounds : ValidatorId → Rounds} {op : Operation} {answer : Answer} {key : PublicKey} {id : ValidatorId}
    (ht : Tells op answer key id) (ha : op.performWithin rounds e = (.ok answer, e')) :
    e'.tables.idOf key = some id := by
  cases ht with
  | resolved =>
    obtain ⟨id', hid, hanswer⟩ := Request.of_answered_ok ha
    cases hanswer
    have hown := idOf_enrol e.tables key
    rwa [of_resolveValidator_ok hs.installed hr hs.coherent hid] at hown
  | @registered keys ids _ _ hmem =>
    obtain ⟨ids', hids, hanswer⟩ := Request.of_answered_ok ha
    cases hanswer
    obtain ⟨-, rfl, rfl⟩ := of_registerValidators_ok hs.installed hr hids
    exact idOf_enrolAll e.tables keys (key, id) hmem
  | found =>
    obtain ⟨found, hfound, hanswer⟩ := Request.of_answered_ok ha
    cases hanswer
    have hkept : (Request.validatorId key e).2.tables.idOf key = e.tables.idOf key :=
      @Request.keeps_validatorId _ (·.idOf key) key e
    rw [hfound] at hkept
    exact hkept.trans (of_validatorId_ok hs.installed hs.coherent hfound)

namespace Run

theorem told_next {run : Run} (hs : run.Sound) (hr : run.engine.database.readOnly = false)
    (ht : ∀ key id, run.Told key id → run.engine.tables.idOf key = some id) (rounds : ValidatorId → Rounds)
    (event : Event) {key : PublicKey} {id : ValidatorId} (h : (run.next (·.performWithin rounds) event).Told key id) :
    (run.next (·.performWithin rounds) event).engine.tables.idOf key = some id := by
  cases event with
  | restart service => exact ht key id h
  | disturb locked decisions cleaning => exact ht key id h
  | request op =>
    obtain ⟨op', answer, hentry, htells⟩ := h
    rcases List.mem_append.mp hentry with hold | hnew
    · have hbefore := ht key id ⟨op', answer, hold, htells⟩
      exact (performWithin_leads rounds op hs.engine).change.idOf hbefore
    · have hsame := List.mem_singleton.mp hnew
      simp only [Prod.mk.injEq] at hsame
      obtain ⟨rfl, hanswer⟩ := hsame
      exact htells.idOf hs.engine hr (Prod.ext hanswer.symm rfl)

theorem told_afterWithin {run : Run} (hs : run.Sound) (hr : run.engine.database.readOnly = false)
    (ht : ∀ key id, run.Told key id → run.engine.tables.idOf key = some id)
    (script : List (Event × (ValidatorId → Rounds))) {key : PublicKey} {id : ValidatorId}
    (h : (run.afterWithin script).Told key id) : (run.afterWithin script).engine.tables.idOf key = some id := by
  induction script generalizing run with
  | nil => exact ht key id h
  | cons step rest ih =>
    have hwritable : (run.next (·.performWithin step.2) step.1).engine.database.readOnly = false := by
      have hdb : (run.next (·.performWithin step.2) step.1).engine.database = _ := hs.database_afterWithin [step]
      rw [hdb]
      exact hr
    refine ih (hs.next step.2 step.1) hwritable ?_ h
    intro key id htold
    exact told_next hs hr ht step.2 step.1 htold

/-- Numbers are given for good: in every run, and through everything that is done later on, no two keys share a
number, and all that is answered about numbers agrees with one register that only grows. -/
theorem numbers_stable (writeAhead locked : Bool) (metrics : Metrics) (service : Service)
    (script later : List (Event × (ValidatorId → Rounds))) :
    let run := ({ engine := .fresh writeAhead locked metrics service } : Run).afterWithin script
    let next := run.afterWithin later
    run.engine.KeepsRegister ∧
    run.engine.tables.validators <+: next.engine.tables.validators ∧
    (∀ key id, run.Told key id → ⟨id, key⟩ ∈ next.engine.tables.validators) ∧
    ∀ key id key' id', run.Told key id → next.Told key' id' → (key = key' ↔ id = id') := by
  intro run next
  have hstart := sound_fresh writeAhead locked metrics service
  obtain ⟨hs, hr⟩ := reached writeAhead locked metrics service script
  have hempty : Orderly (Engine.fresh writeAhead locked metrics service).tables := ⟨List.nodup_nil, List.Pairwise.nil⟩
  have ho : Orderly run.engine.tables := (covers_appends.afterWithin _ script).orderly hempty
  have hgrown := covers_appends.afterWithin run later
  have ho' : Orderly next.engine.tables := hgrown.orderly ho
  have htold (key : PublicKey) (id : ValidatorId) (h : run.Told key id) : run.engine.tables.idOf key = some id :=
    told_afterWithin hstart rfl (fun _ _ h => by obtain ⟨_, _, hm, -⟩ := h; cases hm) script h
  have hkept (key : PublicKey) (id : ValidatorId) (h : run.Told key id) : ⟨id, key⟩ ∈ next.engine.tables.validators :=
    hgrown.older.subset (ho.idOf_eq_some_iff.mp (htold key id h))
  refine ⟨hs.engine.keepsRegister hr ho, hgrown.older, hkept, ?_⟩
  intro key id key' id' h h'
  have hlater := ho'.idOf_eq_some_iff.mp (told_afterWithin hs hr htold later h')
  exact ho'.key_eq_iff (hkept key id h) hlater

def registerScript : List (Event × (ValidatorId → Rounds)) :=
  [.request (.resolveValidator (.replicate .publicKey 7)),
    .request (.registerValidators [.replicate .publicKey 9, .replicate .publicKey 7, .replicate .publicKey 9]),
    .restart {}].map fun event => (event, fun _ => .all)

def askAgain : List (Event × (ValidatorId → Rounds)) :=
  [(.request (.validatorId (.replicate .publicKey 9)), fun _ => .all)]

theorem numbers_stable_registered_twice :
    let run := ({ engine := .fresh false false {} {} } : Run).afterWithin registerScript
    let next := run.afterWithin askAgain
    run.engine.tables.validators = [⟨1, .replicate .publicKey 7⟩, ⟨2, .replicate .publicKey 9⟩] ∧
    run.Told (.replicate .publicKey 9) 2 ∧ next.Told (.replicate .publicKey 9) 2 ∧
    ⟨2, .replicate .publicKey 9⟩ ∈ next.engine.tables.validators := by
  intro run next
  have hregistered : run.journal[1]? = some (.registerValidators
      [.replicate .publicKey 9, .replicate .publicKey 7, .replicate .publicKey 9], .ok (.numbers [2, 1, 2])) := by rfl
  have hfound : next.journal[2]? = some (.validatorId (.replicate .publicKey 9), .ok (.found (some 2))) := by rfl
  have htold : run.Told (.replicate .publicKey 9) 2 :=
    ⟨_, _, List.mem_of_getElem? hregistered, .registered (by simp)⟩
  obtain ⟨-, -, hkept, -⟩ := numbers_stable false false {} {} registerScript askAgain
  exact ⟨by rfl, htold, ⟨_, _, List.mem_of_getElem? hfound, .found _ _⟩, hkept _ _ htold⟩

end Run
end ValidatorSigner.Protection
