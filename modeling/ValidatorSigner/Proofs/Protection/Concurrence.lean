import ValidatorSigner.Proofs.Protection.Ahead

/-! # Transactions on two sides

The same transaction runs over two databases of which one is ahead in pruning. Either it fails alike on
both, or it succeeds on both, with decisions of which the one that is ahead may be a refusal below its
watermark. With the same watermarks on both sides there is no difference at all.
-/
namespace ValidatorSigner.Protection
open Store Telemetry

/-- Guarded tables of which the first are ahead of the second, and level with them if that is asked for. -/
structure Paired (level : Prop) (p u : Tables) : Prop where
  left : ∃ h, Guards p h
  right : ∃ h, Guards u h
  ahead : Ahead p u
  floors : level → p.watermarks = u.watermarks

/-- The decision of the side that is ahead. -/
def Narrows (level : Prop) (d d' : Decision) : Prop := d = d' ∨ ¬ level ∧ d = .deny .belowWatermark

def Concur {α β : Type} (level : Prop) (R : α → β → Prop) (p u : Database)
    (a : Except StorageError (α × Database)) (b : Except StorageError (β × Database)) : Prop :=
  (∃ cause, a = .error cause ∧ b = .error cause) ∨
  ∃ v w t t', a = .ok (v, { p with tables := t }) ∧ b = .ok (w, { u with tables := t' }) ∧ R v w ∧ Paired level t t'

variable {level : Prop}

section Tables
variable {p u p' u' : Tables}

theorem Paired.floorOf (h : Paired level p u) (hl : level) (id : ValidatorId) : p.floorOf id = u.floorOf id := by
  simp only [Tables.floorOf, Tables.watermarkOf, h.floors hl]

theorem Guards.registered_of_slot {t : Tables} {h : History} (g : Guards t h) {id : ValidatorId}
    (hpos : 0 < (t.floorOf id).slot) : t.isRegistered id = true := by
  rcases g.slotRecorded id with h0 | ⟨r, hr, rfl, -⟩
  · omega
  · exact g.blockOwners r hr

theorem Guards.registered_of_pair {t : Tables} {h : History} (g : Guards t h) {id : ValidatorId}
    (hpos : 0 < (t.floorOf id).source ∨ 0 < (t.floorOf id).target) : t.isRegistered id = true := by
  rcases g.pairRecorded id with ⟨h1, h2⟩ | ⟨r, hr, rfl, -⟩
  · omega
  · exact g.attestationOwners r hr

theorem Paired.addBlock (h : Paired level p u) {c : BlockProposal} (hv : Scan.block p c = .record)
    (hv' : Scan.block u c = .record) (hs : c.slot < storeBound) (hr : p.isRegistered c.validator = true) :
    Paired level (p.addBlock c.row) (u.addBlock c.row) := by
  obtain ⟨⟨hp, g⟩, ⟨hu, gu⟩, ha, hf⟩ := h
  exact ⟨⟨_, g.addBlock hv hs hr⟩, ⟨_, gu.addBlock hv' hs (ha.isRegistered _ ▸ hr)⟩, ha.addBlock _, hf⟩

theorem Paired.addBlock_below (h : Paired level p u) {c : BlockProposal}
    (hlt : (c.slot : Int) < (p.floorOf c.validator).slot) (hv : Scan.block u c = .record)
    (hs : c.slot < storeBound) (hr : u.isRegistered c.validator = true) : Paired level p (u.addBlock c.row) := by
  obtain ⟨hp, ⟨hu, gu⟩, ha, hf⟩ := h
  exact ⟨hp, ⟨_, gu.addBlock hv hs hr⟩, ha.addBlock_below hlt, hf⟩

theorem Paired.addAttestation (h : Paired level p u) {c : Attestation} (hv : Scan.attestation p c = .record)
    (hv' : Scan.attestation u c = .record) (ht : c.target < storeBound)
    (hr : p.isRegistered c.validator = true) :
    Paired level (p.addAttestation c.row) (u.addAttestation c.row) := by
  obtain ⟨⟨hp, g⟩, ⟨hu, gu⟩, ha, hf⟩ := h
  obtain ⟨-, hge, -⟩ := Scan.attestation_record hv
  exact ⟨⟨_, g.addAttestation hv ht hr⟩, ⟨_, gu.addAttestation hv' ht (ha.isRegistered _ ▸ hr)⟩,
    ha.addAttestation hge, hf⟩

theorem Paired.addAttestation_below (h : Paired level p u) {c : Attestation}
    (hb : (c.target : Int) < (p.floorOf c.validator).target ∨ (c.source : Int) < (p.floorOf c.validator).source)
    (hv : Scan.attestation u c = .record) (ht : c.target < storeBound)
    (hr : u.isRegistered c.validator = true) : Paired level p (u.addAttestation c.row) := by
  obtain ⟨⟨hp, g⟩, ⟨hu, gu⟩, ha, hf⟩ := h
  exact ⟨⟨hp, g⟩, ⟨_, gu.addAttestation hv ht hr⟩, ha.addAttestation_below g hv hb, hf⟩

theorem Paired.enrol (h : Paired level p u) (key : PublicKey) :
    (enrol p key).1 = (enrol u key).1 ∧ Paired level (enrol p key).2 (enrol u key).2 := by
  obtain ⟨⟨hp, g⟩, ⟨hu, gu⟩, ha, hf⟩ := h
  have hid : p.idOf key = u.idOf key := by simp only [Tables.idOf, ha.validators]
  have hnext : p.nextId = u.nextId := by simp only [Tables.nextId, ha.validators]
  have gp' := g.quietly (enrol_quietly p key)
  have gu' := gu.quietly (enrol_quietly u key)
  unfold Protection.enrol at gp' gu' ⊢
  rw [← hid] at gu' ⊢
  cases hk : p.idOf key with
  | some id => exact ⟨rfl, ⟨⟨hp, g⟩, ⟨hu, gu⟩, ha, hf⟩⟩
  | none =>
    rw [hk] at gp' gu'
    refine ⟨hnext, ⟨⟨hp, gp'⟩, ⟨hu, gu'⟩, ?_, hf⟩⟩
    have hv : (p.addValidator key).validators = (u.addValidator key).validators := by
      simp only [Tables.addValidator, ha.validators, hnext]
    exact ha.frame hv ha.genesis ⟨rfl, rfl, rfl⟩ ⟨rfl, rfl, rfl⟩

theorem Paired.enrolAll (h : Paired level p u) (keys : List PublicKey) :
    (enrolAll p keys).1 = (enrolAll u keys).1 ∧ Paired level (enrolAll p keys).2 (enrolAll u keys).2 := by
  induction keys generalizing p u with
  | nil => exact ⟨rfl, h⟩
  | cons key rest ih =>
    obtain ⟨hfirst, h'⟩ := h.enrol key
    obtain ⟨hrest, h''⟩ := ih h'
    exact ⟨by simp only [Protection.enrolAll, hfirst, hrest], h''⟩

theorem Paired.bind (h : Paired level p u) (hg : p.genesis = none) (root : Root) :
    Paired level (bound p root) (bound u root) := by
  obtain ⟨⟨hp, g⟩, ⟨hu, gu⟩, ha, hf⟩ := h
  exact ⟨⟨hp, g.quiet (.bind root hg)⟩, ⟨hu, gu.quiet (.bind root (ha.genesis ▸ hg))⟩,
    ha.frame ha.validators rfl ⟨rfl, rfl, rfl⟩ ⟨rfl, rfl, rfl⟩, hf⟩

theorem Paired.forget_left (h : Paired level p u) (hf : Forgets p p') : Paired level p' u := by
  obtain ⟨⟨hp, g⟩, hu, ha, hfl⟩ := h
  refine ⟨⟨hp, g.forget hf⟩, hu, ha.forget_left hf, ?_⟩
  rw [hf.rest]
  exact hfl

theorem Paired.forget_right (h : Paired level p u) (hf : Forgets u u') : Paired level p u' := by
  obtain ⟨hp, ⟨hu, gu⟩, ha, hfl⟩ := h
  refine ⟨hp, ⟨hu, gu.forget hf⟩, ha.forget_right hf, ?_⟩
  rw [hf.rest]
  exact hfl

/-- Level sides raise a watermark to the same height: each is ahead of the other. -/
theorem Paired.nextFloor_eq (h : Paired level p u) (hl : level) (id : ValidatorId) (window : Retention) :
    nextFloor p id window = nextFloor u id window := by
  obtain ⟨⟨hp, g⟩, ⟨hu, gu⟩, ha, hf⟩ := h
  obtain ⟨h1, h2, h3⟩ := ha.nextFloor_le g gu id window
  obtain ⟨h4, h5, h6⟩ := (ha.symm g (hf hl)).nextFloor_le gu g id window
  have hslot := Int.le_antisymm h4 h1
  have hsource := Int.le_antisymm h5 h2
  have htarget := Int.le_antisymm h6 h3
  unfold nextFloor at hslot hsource htarget ⊢
  dsimp only at hslot hsource htarget
  rw [hslot, hsource, htarget]

theorem Paired.raise (h : Paired level p u) (id : ValidatorId) (window : Retention) :
    Paired level (raised p id window) (raised u id window) := by
  have hn := fun hl => h.nextFloor_eq hl id window
  have hfloor := fun hl => h.floorOf hl id
  obtain ⟨⟨hp, g⟩, ⟨hu, gu⟩, ha, hf⟩ := h
  refine ⟨⟨hp, g.raise id window⟩, ⟨hu, gu.raise id window⟩,
    ha.raise_both g gu id window, fun hl => ?_⟩
  unfold raised
  rw [hn hl, hfloor hl]
  split
  · exact hf hl
  · simp only [Tables.putWatermark, hf hl]

theorem Paired.raise_left (h : Paired False p u) (id : ValidatorId) (window : Retention) :
    Paired False (raised p id window) u := by
  obtain ⟨⟨hp, g⟩, ⟨hu, gu⟩, ha, -⟩ := h
  exact ⟨⟨hp, g.raise id window⟩, ⟨hu, gu⟩, ha.raise_left g gu id window, fun hl => hl.elim⟩

theorem Paired.trims_left (h : Paired False p u) (ht : Relation.ReflTransGen Trim p p') : Paired False p' u := by
  induction ht with
  | refl => exact h
  | tail _ ht ih =>
    cases ht with
    | raise id window => exact ih.raise_left id window
    | forget hf => exact ih.forget_left hf

end Tables

namespace Concur
variable {α β : Type} {R R' : α → α → Prop} {p u : Database}

theorem ok {v w : α} (hr : R v w) (h : Paired level p.tables u.tables) :
    Concur level R p u (.ok (v, p)) (.ok (w, u)) :=
  .inr ⟨v, w, p.tables, u.tables, rfl, rfl, hr, h⟩

theorem error (cause : StorageError) : Concur level R p u (.error cause) (.error cause) := .inl ⟨cause, rfl, rfl⟩

theorem bind {S : β → β → Prop} {x y : Transaction α} {f g : α → Transaction β}
    (h : Concur level R p u (x p) (y u))
    (hk : ∀ v w t t', R v w → Paired level t t' →
      Concur level S { p with tables := t } { u with tables := t' } (f v { p with tables := t })
        (g w { u with tables := t' })) : Concur level S p u ((x >>= f) p) ((y >>= g) u) := by
  rcases h with ⟨cause, hx, hy⟩ | ⟨v, w, t, t', hx, hy, hr, ht⟩
  · rw [Transaction.bind_of_error hx, Transaction.bind_of_error hy]
    exact .error cause
  · rw [Transaction.bind_of_ok hx, Transaction.bind_of_ok hy]
    exact hk v w t t' hr ht

end Concur

structure Ready (db : Database) : Prop where
  installed : db.missing = []
  writable : db.readOnly = false

section Decisions
variable {p u : Database}

theorem conclude_concurs (hp : Ready p) (hu : Ready u) (h : Paired level p.tables u.tables)
    (verdict : Verdict) {registered : Bool} {t t' : Tables}
    (hrecord : verdict = .record → registered = true → Paired level t t') :
    Concur level (Narrows level) p u (conclude p verdict registered t) (conclude u verdict registered t') := by
  cases verdict with
  | refuse reason => exact .ok (.inl rfl) h
  | alreadySigned => exact .ok (.inl rfl) h
  | record =>
    have hpn : ¬ p.readOnly = true := by simp [hp.writable]
    have hun : ¬ u.readOnly = true := by simp [hu.writable]
    simp only [conclude, if_neg hpn, if_neg hun]
    cases registered with
    | true => exact .inr ⟨.allow, .allow, t, t', rfl, rfl, .inl rfl, hrecord rfl rfl⟩
    | false => exact .error _

/-- What the other side makes of a candidate that lies below the watermark of the side that is ahead. -/
theorem conclude_concurs_below (hu : Ready u) (h : Paired level p.tables u.tables) {verdict : Verdict}
    (hlevel : level → verdict = .refuse .belowWatermark) {registered : Bool} (t : Tables) {t' : Tables}
    (hregistered : registered = true) (hrecord : verdict = .record → Paired level p.tables t') :
    Concur level (Narrows level) p u (conclude p (.refuse .belowWatermark) registered t)
      (conclude u verdict registered t') := by
  by_cases hv : verdict = .refuse .belowWatermark
  · rw [hv]
    exact .ok (.inl rfl) h
  have hn : ¬ level := fun hl => hv (hlevel hl)
  cases verdict with
  | refuse reason => exact .ok (.inr ⟨hn, rfl⟩) h
  | alreadySigned => exact .ok (.inr ⟨hn, rfl⟩) h
  | record =>
    have hun : ¬ u.readOnly = true := by simp [hu.writable]
    refine .inr ⟨.deny .belowWatermark, .allow, p.tables, t', rfl, ?_, .inr ⟨hn, rfl⟩, hrecord rfl⟩
    simp only [conclude, if_neg hun, if_pos hregistered]

theorem checkGenesis_concurs (hp : Ready p) (hu : Ready u) (h : Paired level p.tables u.tables) (root : Root) :
    Concur level Eq p u (Decide.checkGenesis root p) (Decide.checkGenesis root u) := by
  have hg := h.ahead.genesis
  obtain ⟨_, g⟩ := h.left
  obtain ⟨_, gu⟩ := h.right
  rw [checkGenesis_apply hp.installed g.wellFormed, checkGenesis_apply hu.installed gu.wellFormed, ← hg]
  cases hgenesis : p.tables.genesis with
  | some bytes => exact .ok rfl h
  | none =>
    have hpn : ¬ p.readOnly = true := by simp [hp.writable]
    have hun : ¬ u.readOnly = true := by simp [hu.writable]
    exact .inr ⟨true, true, bound p.tables root, bound u.tables root, if_neg hpn, if_neg hun, rfl,
      h.bind hgenesis root⟩

theorem block_concurs_offChain (hp : Ready p) (hu : Ready u) (h : Paired level p.tables u.tables)
    (c : BlockProposal) : Concur level (Narrows level) p u (Decide.block none c p) (Decide.block none c u) := by
  obtain ⟨_, g⟩ := h.left
  obtain ⟨_, gu⟩ := h.right
  have hreg := h.ahead.isRegistered c.validator
  rw [block_apply hp.installed g.wellFormed, block_apply hu.installed gu.wellFormed, ← hreg]
  by_cases hs : storeBound ≤ c.slot
  · rw [if_pos hs, if_pos hs]
    exact .error _
  rw [if_neg hs, if_neg hs]
  by_cases hlt : (c.slot : Int) < (p.tables.floorOf c.validator).slot
  · have hb : Scan.block p.tables c = .refuse .belowWatermark := if_pos hlt
    have hr : p.tables.isRegistered c.validator = true := g.registered_of_slot (by omega)
    rw [hb]
    refine conclude_concurs_below hu h (fun hl => ?_) _ hr fun hv => ?_
    · exact if_pos (by rwa [← h.floorOf hl])
    · exact h.addBlock_below hlt hv (Nat.not_le.mp hs) (hreg ▸ hr)
  · have hv := h.ahead.scan_block (Int.not_lt.mp hlt)
    rw [← hv]
    refine conclude_concurs hp hu h _ fun hrec hr => ?_
    exact h.addBlock hrec (hv ▸ hrec) (Nat.not_le.mp hs) hr

theorem block_concurs (hp : Ready p) (hu : Ready u) (h : Paired level p.tables u.tables) (genesis : Option Root)
    (c : BlockProposal) :
    Concur level (Narrows level) p u (Decide.block genesis c p) (Decide.block genesis c u) := by
  cases genesis with
  | none => exact block_concurs_offChain hp hu h c
  | some root =>
    rw [block_onChain]
    refine (checkGenesis_concurs hp hu h root).bind fun v w t t' hvw ht => ?_
    subst hvw
    cases v with
    | true =>
      exact @block_concurs_offChain level { p with tables := t } { u with tables := t' } ⟨hp.1, hp.2⟩ ⟨hu.1, hu.2⟩
        ht c
    | false => exact .inr ⟨_, _, t, t', rfl, rfl, .inl rfl, ht⟩

theorem attestation_concurs_offChain (hp : Ready p) (hu : Ready u) (h : Paired level p.tables u.tables)
    {c : Attestation} (hle : c.source ≤ c.target) :
    Concur level (Narrows level) p u (Decide.attestation none c p) (Decide.attestation none c u) := by
  obtain ⟨_, g⟩ := h.left
  obtain ⟨_, gu⟩ := h.right
  have hreg := h.ahead.isRegistered c.validator
  rw [attestation_apply hp.installed g.wellFormed hle, attestation_apply hu.installed gu.wellFormed hle, ← hreg]
  by_cases ht : storeBound ≤ c.target
  · rw [if_pos ht, if_pos ht]
    exact .error _
  rw [if_neg ht, if_neg ht]
  have ho : ¬ c.target < c.source := Nat.not_lt.mpr hle
  by_cases hb : (c.target : Int) < (p.tables.floorOf c.validator).target ∨
      (c.source : Int) < (p.tables.floorOf c.validator).source
  · have hv : Scan.attestation p.tables c = .refuse .belowWatermark := by
      rw [Scan.attestation, if_neg ho, if_pos hb]
    have hr : p.tables.isRegistered c.validator = true := g.registered_of_pair (by omega)
    rw [hv]
    refine conclude_concurs_below hu h (fun hl => ?_) _ hr fun hv => ?_
    · rw [Scan.attestation, if_neg ho, if_pos (by rwa [← h.floorOf hl])]
    · exact h.addAttestation_below hb hv (Nat.not_le.mp ht) (hreg ▸ hr)
  · have hv : Scan.attestation p.tables c = Scan.attestation u.tables c :=
      h.ahead.scan_attestation g (by omega) (by omega)
    rw [← hv]
    refine conclude_concurs hp hu h _ fun hrec hr => ?_
    exact h.addAttestation hrec (hv ▸ hrec) (Nat.not_le.mp ht) hr

theorem attestation_concurs (hp : Ready p) (hu : Ready u) (h : Paired level p.tables u.tables)
    (genesis : Option Root) {c : Attestation} (hle : c.source ≤ c.target) :
    Concur level (Narrows level) p u (Decide.attestation genesis c p) (Decide.attestation genesis c u) := by
  cases genesis with
  | none => exact attestation_concurs_offChain hp hu h hle
  | some root =>
    rw [attestation_onChain]
    refine (checkGenesis_concurs hp hu h root).bind fun v w t t' hvw ht => ?_
    subst hvw
    cases v with
    | true =>
      exact @attestation_concurs_offChain level { p with tables := t } { u with tables := t' } ⟨hp.1, hp.2⟩
        ⟨hu.1, hu.2⟩ ht c hle
    | false => exact .inr ⟨_, _, t, t', rfl, rfl, .inl rfl, ht⟩

end Decisions

section Registration
variable {p u : Database}

theorem registerValidator_concurs (hp : Ready p) (hu : Ready u) (h : Paired level p.tables u.tables)
    (key : PublicKey) :
    Concur level Eq p u (Transaction.registerValidator key p) (Transaction.registerValidator key u) := by
  obtain ⟨hid, ht⟩ := h.enrol key
  have hpn : ¬ p.readOnly = true := by simp [hp.writable]
  have hun : ¬ u.readOnly = true := by simp [hu.writable]
  rw [registerValidator_apply (Transaction.not_mem_missing hp.installed _),
    registerValidator_apply (Transaction.not_mem_missing hu.installed _), if_neg hpn, if_neg hun]
  exact .inr ⟨_, _, _, _, rfl, rfl, hid, ht⟩

theorem registerAll_concurs (hp : Ready p) (hu : Ready u) (h : Paired level p.tables u.tables)
    (keys : List PublicKey) :
    Concur level Eq p u (keys.mapM Transaction.registerValidator p) (keys.mapM Transaction.registerValidator u) := by
  obtain ⟨hids, ht⟩ := h.enrolAll keys
  have hpn : ¬ (p.readOnly = true ∧ keys ≠ []) := by simp [hp.writable]
  have hun : ¬ (u.readOnly = true ∧ keys ≠ []) := by simp [hu.writable]
  rw [registerAll_apply (Transaction.not_mem_missing hp.installed _),
    registerAll_apply (Transaction.not_mem_missing hu.installed _), if_neg hpn, if_neg hun]
  exact .inr ⟨_, _, _, _, rfl, rfl, hids, ht⟩

theorem findValidator_concurs (hp : Ready p) (hu : Ready u) (h : Paired level p.tables u.tables)
    (key : PublicKey) :
    Concur level Eq p u (Transaction.findValidator key p) (Transaction.findValidator key u) := by
  have hid : p.tables.idOf key = u.tables.idOf key := by simp only [Tables.idOf, h.ahead.validators]
  rw [findValidator_apply (Transaction.not_mem_missing hp.installed _),
    findValidator_apply (Transaction.not_mem_missing hu.installed _)]
  exact .ok hid h

theorem allValidators_concurs (hp : Ready p) (hu : Ready u) (h : Paired level p.tables u.tables) :
    Concur level Eq p u (Transaction.allValidators p) (Transaction.allValidators u) := by
  rw [allValidators_apply hp.installed, allValidators_apply hu.installed]
  exact .ok (by rw [h.ahead.validators]) h

theorem genesisExists_concurs (hp : Ready p) (hu : Ready u) (h : Paired level p.tables u.tables) :
    Concur level Eq p u ((do return (← Transaction.findGenesis).isSome : Transaction Bool) p)
      ((do return (← Transaction.findGenesis).isSome : Transaction Bool) u) := by
  have hg := h.ahead.genesis
  obtain ⟨_, g⟩ := h.left
  obtain ⟨_, gu⟩ := h.right
  rw [genesisExists_apply hp.installed g.wellFormed, genesisExists_apply hu.installed gu.wellFormed]
  exact .ok (by rw [hg]) h

end Registration
end ValidatorSigner.Protection
