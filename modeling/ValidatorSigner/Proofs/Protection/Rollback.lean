import ValidatorSigner.Proofs.Protection.Standing

/-! # What a failed request leaves behind

A request that does not prune is one transaction, and all that it does before it fails is undone with it. A
prune run is many transactions: where it fails it has raised the watermark of its validator, or removed rows
below it. None of this depends on what the tables hold.
-/
namespace ValidatorSigner.Protection
open Store Telemetry

namespace Request
variable {α β : Type}

/-- A request that fails changes nothing but counters. -/
def Atomic (x : Request α) : Prop := ∀ e cause, (x e).1 = .error cause → ∃ metrics, (x e).2 = { e with metrics }

theorem atomic_transactOn (pool : Service → Pool) (operation : String) (body : Transaction α) :
    Atomic (transactOn pool operation fun _ => body) := by
  intro e cause h
  rcases transactOn_cases pool operation body e with ⟨a, db, -, hr⟩ | ⟨_, metrics, hr⟩
  · rw [hr] at h
    cases h
  · exact ⟨metrics, by rw [hr]⟩

theorem atomic_of_ok {x : Request α} (h : ∀ e, ∃ a, (x e).1 = .ok a) : Atomic x := by
  intro e cause he
  obtain ⟨a, ha⟩ := h e
  rw [ha] at he
  cases he

/-- What follows the transaction cannot fail. -/
theorem Atomic.bind {x : Request α} {f : α → Request β} (hx : Atomic x) (hf : ∀ a e, ∃ b, (f a e).1 = .ok b) :
    Atomic (x >>= f) := by
  intro e cause h
  cases hr : x e with
  | mk outcome e' =>
    cases outcome with
    | error cause' =>
      have he := hx e cause' (by rw [hr])
      rw [bind_of_error hr]
      rwa [hr] at he
    | ok a =>
      obtain ⟨b, hb⟩ := hf a e'
      rw [bind_of_ok hr, hb] at h
      cases h

theorem Atomic.answered {x : Request α} (hx : Atomic x) (form : α → Answer) : Atomic (Request.answered form x) :=
  hx.bind fun a _ => ⟨form a, rfl⟩

theorem counted_ok (artifact : Artifact) (d : Decision) (e : Engine) : (counted artifact d e).1 = .ok d := by
  obtain ⟨metrics, hd⟩ := counted_apply artifact d e
  rw [hd]

theorem atomic_resolveValidator (key : PublicKey) : Atomic (resolveValidator key) := by
  intro e cause h
  unfold resolveValidator at h ⊢
  rw [get_bind] at h ⊢
  cases hk : e.service.known? key with
  | some id =>
    simp only [hk] at h
    cases h
  | none =>
    simp only [hk] at h
    exact (atomic_transactOn _ _ _).bind (fun id _ => ⟨id, rfl⟩) e cause h

theorem atomic_registerValidators (keys : List PublicKey) : Atomic (registerValidators keys) := by
  refine (atomic_transactOn _ _ _).bind fun ids e => ⟨ids, ?_⟩
  rw [bind_of_ok (rememberAll_apply _ _)]
  rfl

theorem atomic_validatorId (key : PublicKey) : Atomic (validatorId key) := by
  intro e cause h
  unfold validatorId at h ⊢
  rw [get_bind] at h ⊢
  cases hk : e.service.known? key with
  | some id =>
    simp only [hk] at h
    cases h
  | none =>
    simp only [hk] at h
    refine (atomic_transactOn _ _ _).bind (fun found _ => ⟨found, ?_⟩) e cause h
    cases found with
    | none => rfl
    | some id => rfl

theorem atomic_maySignAttestation (genesis : Option Root) (c : Attestation) :
    Atomic (maySignAttestation genesis c) := by
  unfold maySignAttestation
  split
  · exact atomic_of_ok fun e => ⟨_, counted_ok _ _ e⟩
  · exact (atomic_transactOn _ _ _).bind fun d e => ⟨d, counted_ok _ _ e⟩

end Request

theorem Operation.atomic {op : Operation} (ho : op.prunes = false) : Request.Atomic op.perform := by
  cases op with
  | resolveValidator key => exact (Request.atomic_resolveValidator key).answered _
  | registerValidators keys => exact (Request.atomic_registerValidators keys).answered _
  | validatorId key => exact (Request.atomic_validatorId key).answered _
  | allIds => exact (Request.atomic_transactOn _ _ _).answered _
  | checkGenesis root => exact (Request.atomic_transactOn _ _ _).answered _
  | genesisExists => exact (Request.atomic_transactOn _ _ _).answered _
  | maySignBlock genesis c =>
    exact ((Request.atomic_transactOn _ _ _).bind fun d e => ⟨d, Request.counted_ok _ _ e⟩).answered _
  | maySignAttestation genesis c => exact (Request.atomic_maySignAttestation genesis c).answered _
  | prune id window => cases ho
  | pruneAll window => cases ho

/-- What pruning may do to the tables, for some validators and for nobody else: their watermarks rise, and what
goes lies below the watermark at the end. -/
structure Trimmed (who : ValidatorId → Prop) (t t' : Tables) : Prop where
  validators : t'.validators = t.validators
  genesis : t'.genesis = t.genesis
  version : t'.version = t.version
  others : ∀ id, ¬ who id → t'.blocksOf id = t.blocksOf id ∧ t'.attestationsOf id = t.attestationsOf id ∧
    t'.watermarkOf id = t.watermarkOf id
  rises : Rises t t'
  stored : ∀ id, (t.watermarkOf id).isSome → (t'.watermarkOf id).isSome
  blocks : t'.blocks.Sublist t.blocks
  attestations : t'.attestations.Sublist t.attestations
  blocksGone : ∀ r ∈ t.blocks, r ∉ t'.blocks → r.slot < (t'.floorOf r.validator).slot
  attestationsGone : ∀ r ∈ t.attestations, r ∉ t'.attestations → r.target < (t'.floorOf r.validator).target

namespace Trimmed
variable {who other : ValidatorId → Prop} {t t' t'' : Tables} {id : ValidatorId}

theorem refl (who : ValidatorId → Prop) (t : Tables) : Trimmed who t t where
  validators := rfl
  genesis := rfl
  version := rfl
  others _ _ := ⟨rfl, rfl, rfl⟩
  rises := .refl t
  stored _ h := h
  blocks := .refl _
  attestations := .refl _
  blocksGone _ hr hn := absurd hr hn
  attestationsGone _ hr hn := absurd hr hn

theorem trans (h₁ : Trimmed who t t') (h₂ : Trimmed who t' t'') : Trimmed who t t'' where
  validators := h₂.validators.trans h₁.validators
  genesis := h₂.genesis.trans h₁.genesis
  version := h₂.version.trans h₁.version
  others id hn := by
    obtain ⟨hb₁, ha₁, hw₁⟩ := h₁.others id hn
    obtain ⟨hb₂, ha₂, hw₂⟩ := h₂.others id hn
    exact ⟨hb₂.trans hb₁, ha₂.trans ha₁, hw₂.trans hw₁⟩
  rises := h₁.rises.trans h₂.rises
  stored id h := h₂.stored id (h₁.stored id h)
  blocks := h₂.blocks.trans h₁.blocks
  attestations := h₂.attestations.trans h₁.attestations
  blocksGone r hr hn := by
    by_cases hm : r ∈ t'.blocks
    · exact h₂.blocksGone r hm hn
    · have hlow := h₁.blocksGone r hr hm
      have hrise := (h₂.rises r.validator).1
      omega
  attestationsGone r hr hn := by
    by_cases hm : r ∈ t'.attestations
    · exact h₂.attestationsGone r hm hn
    · have hlow := h₁.attestationsGone r hr hm
      have hrise := (h₂.rises r.validator).2.2
      omega

theorem mono (h : Trimmed who t t') (hw : ∀ id, who id → other id) : Trimmed other t t' :=
  { h with others := fun id hn => h.others id fun hid => hn (hw id hid) }

theorem of_forgets (hf : Forgets t t')
    (ho : ∀ id, ¬ who id → t'.blocksOf id = t.blocksOf id ∧ t'.attestationsOf id = t.attestationsOf id) :
    Trimmed who t t' where
  validators := by rw [hf.rest]
  genesis := by rw [hf.rest]
  version := by rw [hf.rest]
  others id hn := by
    obtain ⟨hb, ha⟩ := ho id hn
    refine ⟨hb, ha, ?_⟩
    rw [hf.rest]
    rfl
  rises id := by
    rw [hf.floorOf]
    exact Rises.refl t id
  stored id h := by
    rw [hf.rest]
    exact h
  blocks := hf.blocks
  attestations := hf.attestations
  blocksGone r hr hn := by
    rw [hf.floorOf]
    exact hf.blocksGone r hr hn
  attestationsGone r hr hn := by
    rw [hf.floorOf]
    exact hf.attestationsGone r hr hn

theorem putWatermark {w : WatermarkRow} (hslot : (t.floorOf w.validator).slot ≤ w.slot)
    (hsource : (t.floorOf w.validator).source ≤ w.source) (htarget : (t.floorOf w.validator).target ≤ w.target) :
    Trimmed (· = w.validator) t (t.putWatermark w) where
  validators := rfl
  genesis := rfl
  version := rfl
  others id hn := by
    refine ⟨rfl, rfl, ?_⟩
    rw [Tables.watermarkOf_putWatermark, if_neg hn]
  rises id := by
    rw [Tables.floorOf_putWatermark]
    split
    · rename_i hid
      rw [hid]
      exact ⟨hslot, hsource, htarget⟩
    · exact Rises.refl t id
  stored id h := by
    rw [Tables.watermarkOf_putWatermark]
    split
    · rfl
    · exact h
  blocks := .refl _
  attestations := .refl _
  blocksGone _ hr hn := absurd hr hn
  attestationsGone _ hr hn := absurd hr hn

theorem withoutBlocks {below : Nat} (limit : Nat) (hb : (below : Int) ≤ (t.floorOf id).slot) :
    Trimmed (· = id) t (withoutBlocks t id below limit) := by
  refine of_forgets (forgets_withoutBlocks limit hb) fun other hn => ⟨filter_removeLowest fun r hr => ?_, rfl⟩
  have hv : r.validator = other := of_decide_eq_true hr
  exact decide_eq_false fun hr => hn (hv.symm.trans hr.1)

theorem withoutAttestations {below : Nat} (limit : Nat) (hb : (below : Int) ≤ (t.floorOf id).target) :
    Trimmed (· = id) t (withoutAttestations t id below limit) := by
  refine of_forgets (forgets_withoutAttestations limit hb) fun other hn => ⟨rfl, filter_removeLowest fun r hr => ?_⟩
  have hv : r.validator = other := of_decide_eq_true hr
  exact decide_eq_false fun hr => hn (hv.symm.trans hr.1)

end Trimmed

section Prune
variable {db db' : Database} {id : ValidatorId} {window : Retention}

theorem of_raiseWatermark_ok {w : Watermark} {u : Unit} (h : Transaction.raiseWatermark w db = .ok (u, db'))
    (hslot : (db.tables.floorOf w.validator).slot ≤ w.slot)
    (hsource : (db.tables.floorOf w.validator).source ≤ w.source)
    (htarget : (db.tables.floorOf w.validator).target ≤ w.target) :
    db' = { db with tables := db.tables.putWatermark w.row } := by
  obtain ⟨-, hsecond⟩ := Transaction.column_ok_iff.mp h
  obtain ⟨-, hthird⟩ := Transaction.column_ok_iff.mp hsecond
  obtain ⟨-, hwrite⟩ := Transaction.column_ok_iff.mp hthird
  obtain ⟨-, -, t, hw, rfl⟩ := Transaction.of_writing_ok hwrite
  congr 1
  cases hrow : db.tables.watermarkOf w.validator with
  | none =>
    simp only [hrow] at hw
    split at hw
    · cases hw
      rfl
    · cases hw
  | some row =>
    simp only [Tables.floorOf, hrow, Option.getD_some] at hslot hsource htarget
    simp only [hrow, Int.max_eq_right hslot, Int.max_eq_right hsource, Int.max_eq_right htarget] at hw
    cases hw
    rfl

/-- The first transaction of a prune run raises the watermark, if it does anything. -/
theorem of_advanceWatermark_ok {w : Watermark} (h : Prune.advanceWatermark id window db = .ok (w, db')) :
    ∃ t', db' = { db with tables := t' } ∧ t'.floorOf id = w.row ∧ Trimmed (· = id) db.tables t' := by
  obtain ⟨found, _, hfind, hslots⟩ := Transaction.of_bind_ok h
  obtain ⟨-, hrow, rfl⟩ := Transaction.findWatermark_ok_iff.mp hfind
  have hfloor := Tables.floorOf_of_found hrow
  obtain ⟨slot, _, hslot, hpairs⟩ := Transaction.of_bind_ok hslots
  obtain rfl := @Transaction.relates_slotToKeep Eq _ id window _ _ _ hslot
  obtain ⟨pair, _, hpair, hraise⟩ := Transaction.of_bind_ok hpairs
  obtain rfl := @Transaction.relates_attestationToKeep Eq _ id window _ _ _ hpair
  have hid : (found.getD (.floor id)).validator = id :=
    (congrArg WatermarkRow.validator hfloor).symm.trans Tables.floorOf_validator
  dsimp only at hraise
  generalize hnext : (found.getD (.floor id)).raise ⟨id, slot.getD 0, (pair.getD (0, 0)).1, (pair.getD (0, 0)).2⟩ =
    next at hraise
  split at hraise
  · obtain ⟨u, _, hraised, hpure⟩ := Transaction.of_bind_ok hraise
    cases hpure
    have hge : (db.tables.floorOf id).slot ≤ w.slot ∧ (db.tables.floorOf id).source ≤ w.source ∧
        (db.tables.floorOf id).target ≤ w.target := by
      rw [hfloor, ← hnext]
      simp only [Watermark.row, Watermark.raise]
      omega
    obtain rfl : w.validator = id := by
      rw [← hnext]
      exact hid
    refine ⟨_, of_raiseWatermark_ok hraised hge.1 hge.2.1 hge.2.2, ?_,
      .putWatermark (w := w.row) hge.1 hge.2.1 hge.2.2⟩
    rw [Tables.floorOf_putWatermark]
    exact if_pos rfl
  · rename_i hsame
    cases hraise
    exact ⟨db.tables, rfl, by rw [hfloor, Decidable.not_not.mp hsame], .refl _ _⟩

def Sweeping (id : ValidatorId) (w : Watermark) (db db' : Database) : Prop :=
  ∃ t', db' = { db with tables := t' } ∧
    (db.tables.floorOf id = w.row → t'.floorOf id = w.row ∧ Trimmed (· = id) db.tables t')

instance isPreorder_sweeping (id : ValidatorId) (w : Watermark) : IsPreorder Database (Sweeping id w) where
  refl db := ⟨db.tables, rfl, fun hf => ⟨hf, .refl _ _⟩⟩
  trans := by
    rintro db _ _ ⟨t₁, rfl, h₁⟩ ⟨t₂, rfl, h₂⟩
    refine ⟨t₂, rfl, fun hf => ?_⟩
    obtain ⟨hf₁, ht₁⟩ := h₁ hf
    obtain ⟨hf₂, ht₂⟩ := h₂ hf₁
    exact ⟨hf₂, ht₁.trans ht₂⟩

theorem sweep_trimmed (rounds : Rounds) (batch : Nat) {w : Watermark} {e : Engine}
    (hf : e.tables.floorOf id = w.row) :
    ∃ t' metrics, (Request.sweep rounds id batch w e).2 = { e.withTables t' with metrics } ∧
      Trimmed (· = id) e.tables t' := by
  have hblocks (db : Database) :
      Sweeping id w db { db with tables := withoutBlocks db.tables id w.slot batch } := by
    refine ⟨_, rfl, fun hf => ⟨hf, .withoutBlocks batch ?_⟩⟩
    rw [hf]
    exact Int.le_refl _
  have hattestations (db : Database) :
      Sweeping id w db { db with tables := withoutAttestations db.tables id w.target batch } := by
    refine ⟨_, rfl, fun hf => ⟨hf, .withoutAttestations batch ?_⟩⟩
    rw [hf]
    exact Int.le_refl _
  obtain ⟨t', hdb, ht⟩ := Request.relates_sweep rounds hblocks hattestations e
  obtain ⟨db, metrics, he⟩ := Request.steady_sweep rounds id batch w e
  rw [he] at hdb
  obtain rfl : db = { e.database with tables := t' } := hdb
  exact ⟨t', metrics, he, (ht hf).2⟩

theorem pruneWithin_trimmed (rounds : Rounds) (id : ValidatorId) (window : Retention) (e : Engine) :
    ∃ t' metrics, (Request.pruneWithin rounds id window e).2 = { e.withTables t' with metrics } ∧
      Trimmed (· = id) e.tables t' := by
  unfold Request.pruneWithin
  rw [Request.get_bind]
  dsimp only
  rcases transactOn_cases (·.cleaning) "prune_watermark" (Prune.advanceWatermark id window) e with
    ⟨w, db, ho, hr⟩ | ⟨cause, metrics, hr⟩
  · obtain ⟨t₁, rfl, hfloor, h₁⟩ := of_advanceWatermark_ok ho
    have hr : transactCleaning "prune_watermark" (Prune.advanceWatermark id window) e =
        (.ok w, e.withTables t₁) := hr
    rw [Request.bind_of_ok hr]
    obtain ⟨t₂, metrics, he, h₂⟩ := sweep_trimmed rounds (max 1 e.service.pruning.batchSize)
      (e := e.withTables t₁) hfloor
    exact ⟨t₂, metrics, he, h₁.trans h₂⟩
  · have hr : transactCleaning "prune_watermark" (Prune.advanceWatermark id window) e =
        (.error cause, { e with metrics }) := hr
    rw [Request.bind_of_error hr]
    exact ⟨e.tables, metrics, rfl, .refl _ _⟩

theorem pairwise_ids (ids : List ValidatorId) : (ids.mergeSort (· ≤ ·)).Pairwise (· ≤ ·) := by
  have htrans (a b c : ValidatorId) (hab : decide (a ≤ b) = true) (hbc : decide (b ≤ c) = true) :
      decide (a ≤ c) = true :=
    decide_eq_true (Int.le_trans (of_decide_eq_true hab) (of_decide_eq_true hbc))
  have htotal (a b : ValidatorId) : (decide (a ≤ b) || decide (b ≤ a)) = true := by
    simpa using Int.le_total a b
  exact (List.pairwise_mergeSort htrans htotal ids).imp of_decide_eq_true

/-- Validators are pruned one after the other, and the first that fails is the last that is touched. -/
theorem pruneEachWithin_stuck (rounds : ValidatorId → Rounds) {total : PruneReport} {ids : List ValidatorId}
    (hids : ids.Pairwise (· ≤ ·)) {e e' : Engine} {cause : ProtectionError}
    (h : Request.pruneEachWithin rounds window total ids e = (.error cause, e')) :
    ∃ done stuck rest report before t' metrics, ids = done ++ stuck :: rest ∧
      Request.pruneEachWithin rounds window total done e = (.ok report, before) ∧
      Request.pruneWithin (rounds stuck) stuck window before = (.error cause, e') ∧
      e' = { e.withTables t' with metrics } ∧ Trimmed (· ≤ stuck) e.tables t' := by
  -- The numbers ascend, so that the validators before the one that fails are not above it.
  induction ids generalizing total e with
  | nil => cases h
  | cons id rest ih =>
    obtain ⟨hle, hrest⟩ := List.pairwise_cons.mp hids
    unfold Request.pruneEachWithin at h
    obtain ⟨t₁, metrics, he, h₁⟩ := pruneWithin_trimmed (rounds id) id window e
    cases hp : Request.pruneWithin (rounds id) id window e with
    | mk outcome e₁ =>
      rw [hp] at he
      obtain rfl : e₁ = { e.withTables t₁ with metrics } := he
      cases outcome with
      | error cause' =>
        rw [Request.bind_of_error hp] at h
        cases h
        exact ⟨[], id, rest, total, e, t₁, metrics, rfl, rfl, hp, rfl, h₁.mono fun _ hid => hid ▸ Int.le_refl id⟩
      | ok report =>
        rw [Request.bind_of_ok hp] at h
        obtain ⟨done, stuck, others, last, before, t₂, metrics', rfl, hdone, hb, rfl, h₂⟩ := ih hrest h
        have h₁ := h₁.mono fun _ hid => hid ▸ hle stuck (by simp)
        exact ⟨id :: done, stuck, others, last, before, t₂, metrics', rfl, (Request.bind_of_ok hp).trans hdone, hb,
          rfl, h₁.trans h₂⟩

end Prune

/-- Whatever the tables hold, a request that fails leaves no trace but in the counters if it does not prune. A
prune run, cut short after any number of batches or not, only trims the tables of its validator. Where all are
pruned in turn and one fails, those after it are left alone. -/
theorem failure_is_contained (e : Engine) :
    (∀ (op : Operation) (cause : ProtectionError), op.prunes = false → (op.perform e).1 = .error cause →
      ∃ metrics, (op.perform e).2 = { e with metrics }) ∧
    (∀ rounds id window, ∃ t' metrics,
      (Request.pruneWithin rounds id window e).2 = { e.withTables t' with metrics } ∧
        Trimmed (· = id) e.tables t') ∧
    ∀ rounds window cause e', Request.pruneAllWithin rounds window e = (.error cause, e') →
      (∃ metrics, e' = { e with metrics }) ∨
      ∃ done stuck rest report before t' metrics,
        (e.tables.validators.map (·.id)).mergeSort (· ≤ ·) = done ++ stuck :: rest ∧
        Request.pruneEachWithin rounds window {} done e = (.ok report, before) ∧
        Request.pruneWithin (rounds stuck) stuck window before = (.error cause, e') ∧
        e' = { e.withTables t' with metrics } ∧ Trimmed (· ≤ stuck) e.tables t' := by
  refine ⟨fun op cause ho => Operation.atomic ho e cause, fun rounds id window => pruneWithin_trimmed rounds id window e,
    fun rounds window cause e' h => ?_⟩
  unfold Request.pruneAllWithin at h
  rcases transactOn_cases (·.decisions) "list_validators" Transaction.allValidators e with
    ⟨ids, db, ho, hr⟩ | ⟨cause', metrics, hr⟩
  · obtain ⟨-, hids, rfl⟩ := Transaction.of_reading_ok ho
    cases hids
    have hr : Request.allIds e = (.ok ((e.tables.validators.map (·.id)).mergeSort (· ≤ ·)), e) := hr
    rw [Request.bind_of_ok hr] at h
    exact .inr (pruneEachWithin_stuck rounds (pairwise_ids _) h)
  · have hr : Request.allIds e = (.error cause', { e with metrics }) := hr
    rw [Request.bind_of_error hr] at h
    cases h
    exact .inl ⟨metrics, rfl⟩

def brokenTables : Tables where
  validators := [⟨1, .replicate .publicKey 1⟩, ⟨2, .replicate .publicKey 2⟩, ⟨3, .replicate .publicKey 3⟩]
  blocks := [⟨1, 1, []⟩, ⟨1, 9, []⟩, ⟨3, 1, []⟩, ⟨3, 9, []⟩]
  watermarks := [⟨2, -1, 0, 0⟩]

def brokenEngine : Engine := { database := { tables := brokenTables } }

/-- A block that is out of range binds the tables to no chain. Pruning everybody comes as far as the second. -/
theorem failure_is_contained_broken :
    let root : Root := .replicate .root 1
    let result := Request.pruneAllWithin (fun _ => .all) ⟨0, 32⟩ brokenEngine
    (Request.maySignBlock (some root) ⟨1, storeBound, root⟩ brokenEngine).2.tables = brokenTables ∧
      result.1 = .error (.infrastructure "prune_watermark" 1 (.corrupt .lowWatermarks "negative value -1")) ∧
      result.2.tables.blocksOf 1 = [⟨1, 9, []⟩] ∧
      ∃ stuck, ∀ id, stuck < id → result.2.tables.blocksOf id = brokenTables.blocksOf id := by
  intro root result
  obtain ⟨hatomic, -, hall⟩ := failure_is_contained brokenEngine
  have hids : Request.allIds brokenEngine = (.ok [1, 2, 3], brokenEngine) := by
    have hs : ([1, 2, 3] : List ValidatorId).mergeSort (· ≤ ·) = [1, 2, 3] := by simp [List.mergeSort]
    have hread : Transaction.allValidators brokenEngine.database = .ok ([1, 2, 3], brokenEngine.database) :=
      Transaction.reading_ok rfl (congrArg Except.ok hs)
    unfold Request.allIds transact
    exact transactOn_of_ok rfl hread
  have hrun : result = Request.pruneEachWithin (fun _ => .all) ⟨0, 32⟩ {} [1, 2, 3] brokenEngine :=
    Request.bind_of_ok hids
  have hfails : result.1 =
      .error (.infrastructure "prune_watermark" 1 (.corrupt .lowWatermarks "negative value -1")) := by
    rw [hrun]
    rfl
  have hfirst : result.2.tables.blocksOf 1 = [⟨1, 9, []⟩] := by
    rw [hrun]
    rfl
  refine ⟨?_, hfails, hfirst, ?_⟩
  · obtain ⟨metrics, he⟩ := hatomic (.maySignBlock (some root) ⟨1, storeBound, root⟩) _ rfl rfl
    exact congrArg Engine.tables he
  · rcases hall (fun _ => .all) ⟨0, 32⟩ _ _ (Prod.ext hfails rfl) with
      ⟨metrics, he⟩ | ⟨-, stuck, -, -, -, t', metrics, -, -, -, he, ht⟩
    · have he : result.2.tables = brokenTables := congrArg Engine.tables he
      rw [he] at hfirst
      exact absurd hfirst (by decide)
    · have he : result.2.tables = t' := congrArg Engine.tables he
      rw [he]
      exact ⟨stuck, fun id hid => (ht.others id (Int.not_le.mpr hid)).1⟩

end ValidatorSigner.Protection
