import ValidatorSigner.Proofs.Protection.Change
import ValidatorSigner.Proofs.Store.Paths
import ValidatorSigner.Protection.Registry

/-! # Registration

A key that is registered keeps its number through everything that is done to the tables, so a number
that was looked up once need not be looked up again.
-/
namespace ValidatorSigner.Protection
open Store

def enrol (t : Tables) (key : PublicKey) : ValidatorId × Tables :=
  match t.idOf key with
  | some id => (id, t)
  | none => (t.nextId, t.addValidator key)

def enrolAll (t : Tables) : List PublicKey → List ValidatorId × Tables
  | [] => ([], t)
  | key :: rest =>
    let first := enrol t key
    let others := enrolAll first.2 rest
    (first.1 :: others.1, others.2)

section Tables
variable {t t' : Tables} {key other : PublicKey} {id : ValidatorId}

theorem Quiet.idOf (hq : Quiet t t') (h : t.idOf key = some id) : t'.idOf key = some id := by
  cases hq with
  | enrol added hn =>
    rw [idOf_addValidator hn]
    have hne : key ≠ added := by
      rintro rfl
      rw [h] at hn
      cases hn
    rwa [if_neg hne]
  | bind => exact h
  | stamp => exact h
  | trim ht =>
    cases ht with
    | raise validator window =>
      obtain ⟨hv, -⟩ := raised_rest t validator window
      simpa only [Tables.idOf, hv] using h
    | forget hf =>
      rw [hf.rest]
      exact h

theorem idOf_of_quietly (hq : Quietly t t') (h : t.idOf key = some id) : t'.idOf key = some id := by
  induction hq with
  | refl => exact h
  | tail _ hq ih => exact hq.idOf ih

theorem enrol_quietly (t : Tables) (key : PublicKey) : Quietly t (enrol t key).2 := by
  unfold enrol
  cases h : t.idOf key with
  | some id => exact .refl
  | none => exact .single (.enrol key h)

theorem idOf_enrol (t : Tables) (key : PublicKey) : (enrol t key).2.idOf key = some (enrol t key).1 := by
  unfold enrol
  cases h : t.idOf key with
  | some id => exact h
  | none =>
    dsimp only
    rw [idOf_addValidator h, if_pos rfl]

theorem enrolAll_quietly (t : Tables) (keys : List PublicKey) : Quietly t (enrolAll t keys).2 := by
  induction keys generalizing t with
  | nil => exact .refl
  | cons key rest ih => exact (enrol_quietly t key).trans (ih _)

theorem idOf_enrolAll (t : Tables) (keys : List PublicKey) :
    ∀ pair ∈ keys.zip (enrolAll t keys).1, (enrolAll t keys).2.idOf pair.1 = some pair.2 := by
  induction keys generalizing t with
  | nil =>
    intro pair hp
    cases hp
  | cons key rest ih =>
    intro pair hp
    simp only [enrolAll, List.zip_cons_cons, List.mem_cons] at hp ⊢
    rcases hp with rfl | hp
    · exact idOf_of_quietly (enrolAll_quietly _ rest) (idOf_enrol t key)
    · exact ih _ pair hp

end Tables

section Transactions
variable {db : Database}

theorem findValidator_ok_iff {key : PublicKey} {found : Option ValidatorId} {db' : Database} :
    Transaction.findValidator key db = .ok (found, db') ↔
      .validators ∉ db.missing ∧ db.tables.idOf key = found ∧ db = db' := by
  simp only [Transaction.findValidator, Transaction.reading_ok_iff, Except.ok.injEq]

theorem findValidator_apply (hm : .validators ∉ db.missing) (key : PublicKey) :
    Transaction.findValidator key db = .ok (db.tables.idOf key, db) :=
  findValidator_ok_iff.mpr ⟨hm, rfl, rfl⟩

theorem insertValidator_apply (hm : .validators ∉ db.missing) (key : PublicKey) :
    Transaction.insertValidator key db =
      if db.readOnly then .error (.ofDatabase .readOnly)
      else .ok (if (db.tables.idOf key).isSome then .conflict else .inserted,
        { db with tables := (enrol db.tables key).2 }) := by
  unfold Transaction.insertValidator Transaction.insertUnless enrol
  rw [Transaction.writing_apply hm]
  congr 1
  cases h : db.tables.idOf key with
  | some id => simp [h, Insertion.ofFault, Except.map]
  | none => simp [h, Except.map]

theorem registerValidator_apply (hm : .validators ∉ db.missing) (key : PublicKey) :
    Transaction.registerValidator key db =
      if db.readOnly then .error (.ofDatabase .readOnly)
      else .ok ((enrol db.tables key).1, { db with tables := (enrol db.tables key).2 }) := by
  have hi := insertValidator_apply hm key
  have hf : Transaction.findValidator key { db with tables := (enrol db.tables key).2 } =
      .ok (some (enrol db.tables key).1, { db with tables := (enrol db.tables key).2 }) := by
    rw [← idOf_enrol]
    exact @findValidator_apply { db with tables := (enrol db.tables key).2 } hm key
  unfold Transaction.registerValidator
  by_cases hr : db.readOnly = true
  · rw [if_pos hr] at hi ⊢
    exact Transaction.bind_of_error hi
  · rw [if_neg hr] at hi ⊢
    rw [Transaction.bind_of_ok hi, Transaction.bind_of_ok hf]
    rfl

theorem registerAll_apply (hm : .validators ∉ db.missing) (keys : List PublicKey) :
    keys.mapM Transaction.registerValidator db =
      if db.readOnly ∧ keys ≠ [] then .error (.ofDatabase .readOnly)
      else .ok ((enrolAll db.tables keys).1, { db with tables := (enrolAll db.tables keys).2 }) := by
  induction keys generalizing db with
  | nil =>
    rw [if_neg (by simp)]
    rfl
  | cons key rest ih =>
    have hk := registerValidator_apply hm key
    rw [List.mapM_cons]
    by_cases hr : db.readOnly = true
    · rw [if_pos hr] at hk
      rw [Transaction.bind_of_error hk, if_pos ⟨hr, List.cons_ne_nil _ _⟩]
    · have ih := @ih { db with tables := (enrol db.tables key).2 } hm
      rw [if_neg fun h => hr h.1] at ih
      rw [if_neg hr] at hk
      rw [Transaction.bind_of_ok hk, Transaction.bind_of_ok ih, if_neg fun h => hr h.1]
      rfl

theorem allValidators_apply (hm : db.missing = []) :
    Transaction.allValidators db = .ok ((db.tables.validators.map (·.id)).mergeSort (· ≤ ·), db) :=
  Transaction.reading_ok hm rfl

end Transactions

def Service.Coherent (service : Service) (t : Tables) : Prop :=
  ∀ key id, service.known? key = some id → t.idOf key = some id

theorem known?_remember (service : Service) (key other : PublicKey) (id : ValidatorId) :
    (service.remember key id).known? other = if other = key then some id else service.known? other := by
  unfold Service.remember Service.known?
  by_cases h : other = key
  · subst h
    simp
  · rw [if_neg h, List.lookup_cons, beq_eq_false_iff_ne.mpr h, lookup_filter_ne h]

theorem Service.Coherent.remember {service : Service} {t : Tables} {key : PublicKey} {id : ValidatorId}
    (hc : service.Coherent t) (h : t.idOf key = some id) : (service.remember key id).Coherent t := by
  intro other other_id hk
  rw [known?_remember] at hk
  by_cases he : other = key
  · rw [if_pos he] at hk
    obtain rfl := Option.some.inj hk
    rw [he, h]
  · rw [if_neg he] at hk
    exact hc other other_id hk

def Service.rememberAll (service : Service) (pairs : List (PublicKey × ValidatorId)) : Service :=
  pairs.foldl (fun service pair => service.remember pair.1 pair.2) service

theorem rememberAll_rest (service : Service) (pairs : List (PublicKey × ValidatorId)) :
    service.rememberAll pairs = { service with known := (service.rememberAll pairs).known } := by
  induction pairs generalizing service with
  | nil => rfl
  | cons pair rest ih => exact ih (service.remember pair.1 pair.2)

theorem Service.Coherent.rememberAll {service : Service} {t : Tables} {pairs : List (PublicKey × ValidatorId)}
    (hc : service.Coherent t) (hp : ∀ pair ∈ pairs, t.idOf pair.1 = some pair.2) :
    (service.rememberAll pairs).Coherent t := by
  induction pairs generalizing service with
  | nil => exact hc
  | cons pair rest ih =>
    exact ih (hc.remember (hp pair List.mem_cons_self)) fun pair hm => hp pair (List.mem_cons_of_mem _ hm)

end ValidatorSigner.Protection
