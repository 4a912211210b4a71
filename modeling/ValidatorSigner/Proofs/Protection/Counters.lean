import ValidatorSigner.Proofs.Protection.Exactness
import ValidatorSigner.Proofs.Protection.Rollback
import ValidatorSigner.Proofs.Protection.Untouched

/-! # What requests count

A request adds to the counters that are meant for it, and to no others. A decision that is made is counted once
under its answer, and one that fails is not. Nothing but pruning takes rows away from what was signed.
-/
namespace ValidatorSigner.Telemetry

theorem Artifact.label_injective {a b : Artifact} (h : a.label = b.label) : a = b := by
  cases a <;> cases b <;> first | rfl | exact absurd h (by decide)

theorem RequestOutcome.label_injective {a b : RequestOutcome} (h : a.label = b.label) : a = b := by
  cases a <;> cases b <;> first | rfl | exact absurd h (by decide)

theorem Series.request_inj {a b : Artifact} {o o' : RequestOutcome} :
    Series.request a o = Series.request b o' ↔ a = b ∧ o = o' := by
  constructor
  · intro h
    simp only [request, Series.mk.injEq, List.cons.injEq, true_and, and_true] at h
    exact ⟨Artifact.label_injective h.1, RequestOutcome.label_injective h.2⟩
  · rintro ⟨rfl, rfl⟩
    rfl

namespace Metrics

theorem lookup_addTo (series other : Series) (n : Nat) (counts : List (Series × Nat)) :
    ((addTo series n counts).lookup other).getD 0 =
      (counts.lookup other).getD 0 + if other = series then n else 0 := by
  induction counts with
  | nil =>
    by_cases h : other = series
    · simp [addTo, h]
    · simp [addTo, List.lookup_cons, beq_eq_false_iff_ne.mpr h, h]
  | cons pair rest ih =>
    obtain ⟨s, count⟩ := pair
    unfold addTo
    by_cases hs : s = series
    · subst hs
      by_cases h : other = s
      · simp [h]
      · simp [List.lookup_cons, beq_eq_false_iff_ne.mpr h, h]
    · rw [if_neg hs]
      by_cases h : other = s
      · subst h
        simp [hs]
      · simpa [List.lookup_cons, beq_eq_false_iff_ne.mpr h] using ih

theorem count_add (m : Metrics) (series other : Series) (n : Nat) :
    (m.add series n).count other = m.count other + if other = series then n else 0 :=
  lookup_addTo series other n m.counts

end Metrics
end ValidatorSigner.Telemetry

namespace ValidatorSigner.Protection
open Store Telemetry

theorem Refusal.label_injective {a b : Refusal} (h : a.label = b.label) : a = b := by
  cases a <;> cases b <;> first | rfl | exact absurd h (by decide)

def Decision.series (artifact : Artifact) : Decision → Series
  | .allow => .permitted artifact
  | .deny reason => .prevented artifact reason.label

theorem Decision.series_inj {a b : Artifact} {d d' : Decision} :
    Decision.series a d = Decision.series b d' ↔ a = b ∧ d = d' := by
  constructor
  · intro h
    cases d with
    | allow =>
      cases d' with
      | allow =>
        simp only [series, Series.permitted, Series.mk.injEq, List.cons.injEq, true_and, and_true] at h
        exact ⟨Artifact.label_injective h, rfl⟩
      | deny reason => cases congrArg Series.family h
    | deny reason =>
      cases d' with
      | allow => cases congrArg Series.family h
      | deny reason' =>
        simp only [series, Series.prevented, Series.mk.injEq, List.cons.injEq, true_and, and_true] at h
        exact ⟨Artifact.label_injective h.1, congrArg _ (Refusal.label_injective h.2)⟩
  · rintro ⟨rfl, rfl⟩
    rfl

theorem Decision.series_family (artifact : Artifact) (d : Decision) :
    (d.series artifact).family = .permitted ∨ (d.series artifact).family = .prevented := by
  cases d with
  | allow => exact .inl rfl
  | deny reason => exact .inr rfl

theorem Decision.series_ne {artifact : Artifact} {d : Decision} {s : Series} (hp : s.family ≠ .permitted)
    (hv : s.family ≠ .prevented) : s ≠ d.series artifact := by
  rintro rfl
  rcases d.series_family artifact with h | h
  · exact hp h
  · exact hv h

theorem count_countRetries (metrics : Metrics) (operation : String) (runs : Nat) {s : Series}
    (hs : s.family ≠ .retries) : (Engine.countRetries metrics operation runs).count s = metrics.count s := by
  unfold Engine.countRetries
  split
  · rfl
  · rw [Metrics.count_add, if_neg fun he => hs (congrArg Series.family he), Nat.add_zero]

namespace Request
variable {α β : Type} {families : List Family}

/-- However it ends, a request adds at most to counters of these families. -/
def Spares (families : List Family) (x : Request α) : Prop :=
  ∀ e s, s.family ∉ families → (x e).2.metrics.count s = e.metrics.count s

theorem spares_pure (a : α) : Spares families (pure a : Request α) := fun _ _ _ => rfl

theorem Spares.bind {x : Request α} {f : α → Request β} (hx : Spares families x) (hf : ∀ a, Spares families (f a)) :
    Spares families (x >>= f) := by
  intro e s hs
  have hfirst := hx e s hs
  cases hr : x e with
  | mk outcome e' =>
    rw [hr] at hfirst
    cases outcome with
    | error cause =>
      rw [bind_of_error hr]
      exact hfirst
    | ok a =>
      rw [bind_of_ok hr]
      exact (hf a e' s hs).trans hfirst

theorem Spares.mono {families' : List Family} {x : Request α} (hx : Spares families x) (h : families ⊆ families') :
    Spares families' x := fun e s hs => hx e s fun hm => hs (h hm)

theorem Spares.answered {x : Request α} (hx : Spares families x) (form : α → Answer) :
    Spares families (Request.answered form x) := hx.bind fun a => spares_pure (form a)

theorem spares_transactOn (h : .retries ∈ families) (pool : Service → Pool) (operation : String)
    (body : Transaction α) : Spares families (transactOn pool operation fun _ => body) := by
  intro e s hs
  have hne : s.family ≠ .retries := fun he => hs (he ▸ h)
  have hfailed (cause : StorageError) :
      ((e.failed operation cause : Except ProtectionError α × Engine).2).metrics.count s = e.metrics.count s :=
    count_countRetries _ _ _ hne
  rw [transactOn_apply]
  cases e.obstacle? (pool e.service) with
  | some fault => exact hfailed _
  | none =>
    cases body e.database with
    | error cause => exact hfailed cause
    | ok result => rfl

theorem spares_resolveValidator (key : PublicKey) : Spares [.retries] (resolveValidator key) := by
  intro e
  unfold resolveValidator
  rw [get_bind]
  cases e.service.known? key with
  | some id => exact fun _ _ => rfl
  | none => exact ((spares_transactOn (List.mem_singleton_self _) _ _ _).bind fun _ _ _ _ => rfl) e

theorem spares_registerValidators (keys : List PublicKey) : Spares [.retries] (registerValidators keys) := by
  refine (spares_transactOn (List.mem_singleton_self _) _ _ _).bind fun ids e s _ => ?_
  rw [bind_of_ok (rememberAll_apply _ _)]
  rfl

theorem spares_validatorId (key : PublicKey) : Spares [.retries] (validatorId key) := by
  intro e
  unfold validatorId
  rw [get_bind]
  cases e.service.known? key with
  | some id => exact fun _ _ => rfl
  | none =>
    refine ((spares_transactOn (List.mem_singleton_self _) _ _ _).bind fun found => ?_) e
    cases found with
    | some id => exact fun _ _ _ => rfl
    | none => exact spares_pure none

/-- A decision that is made is counted once under its answer, and one that fails is not counted. -/
def Tallies (artifact : Artifact) (x : Request Decision) : Prop :=
  ∀ e s, s.family ≠ .retries → (x e).2.metrics.count s =
    e.metrics.count s + match (x e).1 with
      | .ok d => if s = d.series artifact then 1 else 0
      | .error _ => 0

theorem counted_eq (artifact : Artifact) (d : Decision) (e : Engine) :
    counted artifact d e = (.ok d, { e with metrics := e.metrics.add (d.series artifact) 1 }) := by
  cases d with
  | allow => rfl
  | deny reason => rfl

theorem tallies_counted (artifact : Artifact) (d : Decision) : Tallies artifact (counted artifact d) := by
  intro e s _
  rw [counted_eq]
  exact Metrics.count_add _ _ _ _

theorem Spares.tallies {artifact : Artifact} {x : Request α} {f : α → Request Decision} (hx : Spares [.retries] x)
    (hf : ∀ a, Tallies artifact (f a)) : Tallies artifact (x >>= f) := by
  intro e s hs
  have hfirst := hx e s (by simpa using hs)
  cases hr : x e with
  | mk outcome e' =>
    rw [hr] at hfirst
    cases outcome with
    | error cause =>
      rw [bind_of_error hr]
      exact hfirst
    | ok a =>
      rw [bind_of_ok hr]
      rw [hf a e' s hs, hfirst]

theorem tallies_maySignBlock (genesis : Option Root) (c : BlockProposal) :
    Tallies .block (maySignBlock genesis c) :=
  (spares_transactOn (List.mem_singleton_self _) _ _ _).tallies (tallies_counted .block)

theorem tallies_maySignAttestation (genesis : Option Root) (c : Attestation) :
    Tallies .attestation (maySignAttestation genesis c) := by
  unfold maySignAttestation
  split
  · exact tallies_counted _ _
  · exact (spares_transactOn (List.mem_singleton_self _) _ _ _).tallies (tallies_counted .attestation)

theorem Tallies.spares {artifact : Artifact} {x : Request Decision} (hx : Tallies artifact x) :
    Spares [.retries, .permitted, .prevented, .pruned] x := by
  intro e s hs
  simp only [List.mem_cons, List.not_mem_nil, or_false, not_or] at hs
  rw [hx e s hs.1]
  cases (x e).1 with
  | error cause => rfl
  | ok d =>
    dsimp only
    rw [if_neg (Decision.series_ne hs.2.1 hs.2.2.1), Nat.add_zero]

end Request
end ValidatorSigner.Protection

namespace ValidatorSigner.Store

def Table.signed : List Table := [signedBlocks, signedAttestations]

def Tables.size (t : Tables) : Table → Nat
  | .validators => t.validators.length
  | .signedBlocks => t.blocks.length
  | .signedAttestations => t.attestations.length
  | .lowWatermarks => t.watermarks.length
  | .metadata => t.genesis.toList.length
  | .databaseVersion => t.version.toList.length

end ValidatorSigner.Store

namespace ValidatorSigner.Protection
open Store Telemetry

def Engine.balance (e : Engine) (table : Table) : Nat := e.tables.size table + e.metrics.count (.pruned table.name)

def verdict? (artifact : Artifact) : Except ProtectionError Decision → Option (Artifact × Decision)
  | .ok d => some (artifact, d)
  | .error _ => none

/-- A step counts the decision that it made, and adds the row that it inserted to those that are or were there. -/
structure Engine.Counts (e : Engine) (verdict? : Option (Artifact × Decision)) (e' : Engine) : Prop where
  decisions : ∀ artifact d, e'.metrics.count (d.series artifact) =
    e.metrics.count (d.series artifact) + if verdict? = some (artifact, d) then 1 else 0
  rows : ∀ table ∈ Table.signed, e'.balance table =
    e.balance table + if verdict?.isSome = true ∧ e.tables.size table < e'.tables.size table then 1 else 0

section Rows
variable {e e' : Engine} {h : History} {t t' : Tables} {o : Offer} {table : Table}

theorem forall_signed {p : Table → Prop} :
    (∀ table ∈ Table.signed, p table) ↔ p .signedBlocks ∧ p .signedAttestations := by
  simp [Table.signed]

theorem size_congr (hb : t'.blocks = t.blocks) (ha : t'.attestations = t.attestations) :
    ∀ table ∈ Table.signed, t'.size table = t.size table :=
  forall_signed.mpr ⟨congrArg List.length hb, congrArg List.length ha⟩

theorem size_le_of_quietly (hq : Quietly t t') : ∀ table ∈ Table.signed, t'.size table ≤ t.size table := by
  obtain ⟨hb, ha⟩ := sublist_of_quietly hq
  exact forall_signed.mpr ⟨hb.length_le, ha.length_le⟩

theorem size_le_of_change (hc : Change t o t') : ∀ table ∈ Table.signed, t'.size table ≤ t.size table + 1 := by
  cases hc with
  | quiet hq => exact fun table ht => Nat.le_succ_of_le (size_le_of_quietly hq table ht)
  | block hq =>
    obtain ⟨hb, ha⟩ := forall_signed.mp (size_le_of_quietly hq)
    refine forall_signed.mpr ⟨?_, Nat.le_succ_of_le ha⟩
    simpa [Tables.size, Tables.addBlock] using hb
  | attestation hq =>
    obtain ⟨hb, ha⟩ := forall_signed.mp (size_le_of_quietly hq)
    refine forall_signed.mpr ⟨Nat.le_succ_of_le hb, ?_⟩
    simpa [Tables.size, Tables.addAttestation] using ha

def Grows (db db' : Database) : Prop := ∀ table ∈ Table.signed, db.tables.size table ≤ db'.tables.size table

instance isPreorder_grows : IsPreorder Database Grows where
  refl _ _ _ := Nat.le_refl _
  trans _ _ _ h₁ h₂ table ht := Nat.le_trans (h₁ table ht) (h₂ table ht)

theorem grows_maySignBlock (genesis : Option Root) (c : BlockProposal) :
    Request.Relates Grows (Request.maySignBlock genesis c) := by
  refine Request.relates_maySignBlock (fun _ _ db _ => forall_signed.mpr ⟨Nat.le_refl _, Nat.le_refl _⟩)
    (fun db row => forall_signed.mpr ⟨?_, Nat.le_refl _⟩) c
  simp [Tables.size, Tables.addBlock]

theorem grows_maySignAttestation (genesis : Option Root) (c : Attestation) :
    Request.Relates Grows (Request.maySignAttestation genesis c) := by
  refine Request.relates_maySignAttestation (fun _ _ db _ => forall_signed.mpr ⟨Nat.le_refl _, Nat.le_refl _⟩)
    (fun db row => forall_signed.mpr ⟨Nat.le_refl _, ?_⟩) c
  simp [Tables.size, Tables.addAttestation]

/-- A step without a decision, which keeps rows and counted rows together. -/
theorem counts_of_balanced
    (hd : ∀ artifact d, e'.metrics.count (Decision.series artifact d) = e.metrics.count (d.series artifact))
    (hb : ∀ table ∈ Table.signed, e'.balance table = e.balance table) : e.Counts none e' where
  decisions artifact d := by simpa using hd artifact d
  rows table ht := by simpa using hb table ht

theorem Request.Spares.balance {α : Type} {x : Request α} (hx : Spares [.retries] x)
    (hk : Keeps (fun t => (t.blocks, t.attestations)) x) :
    ∀ table ∈ Table.signed, (x e).2.balance table = e.balance table := by
  intro table ht
  obtain ⟨hb, ha⟩ := Prod.mk.inj (hk e)
  have hcount : (x e).2.metrics.count (.pruned table.name) = e.metrics.count (.pruned table.name) :=
    hx e _ (by simp [Series.pruned])
  simp only [Engine.balance, size_congr hb ha table ht, hcount]

/-- A request that is no decision, and leaves what was signed as it is. -/
theorem Request.Spares.counts {α : Type} {x : Request α} (hx : Spares [.retries] x)
    (hk : Keeps (fun t => (t.blocks, t.attestations)) x) : e.Counts none (x e).2 := by
  refine counts_of_balanced (fun artifact d => hx e _ ?_) (hx.balance hk)
  rw [List.mem_singleton]
  rcases d.series_family artifact with h | h <;> simp [h]

/-- A decision inserts one row at most, and none if it fails. -/
theorem Request.Tallies.counts {artifact : Artifact} {x : Request Decision} (hx : Tallies artifact x)
    (hatomic : Atomic x) (hgrows : Relates Grows x)
    (hle : ∀ table ∈ Table.signed, (x e).2.tables.size table ≤ e.tables.size table + 1) :
    e.Counts (verdict? artifact (x e).1) (x e).2 := by
  constructor
  · intro other d
    have hne : (d.series other).family ≠ .retries := by
      rcases d.series_family other with h | h <;> simp [h]
    rw [hx e _ hne]
    cases (x e).1 with
    | error cause => simp [verdict?]
    | ok d' => simp [verdict?, Decision.series_inj, eq_comm]
  · intro table ht
    have hcount : (x e).2.metrics.count (.pruned table.name) = e.metrics.count (.pruned table.name) := by
      rw [hx e _ (by simp [Series.pruned])]
      cases (x e).1 with
      | error cause => rfl
      | ok d =>
        dsimp only
        rw [if_neg (Decision.series_ne (by simp [Series.pruned]) (by simp [Series.pruned])), Nat.add_zero]
    have hge : e.tables.size table ≤ (x e).2.tables.size table := hgrows e table ht
    have hle := hle table ht
    simp only [Engine.balance, hcount]
    cases ho : (x e).1 with
    | error cause =>
      obtain ⟨metrics, he⟩ := hatomic e cause ho
      simp [verdict?, he, Engine.tables]
    | ok d =>
      simp only [verdict?, Option.isSome_some, true_and]
      split
      · omega
      · omega

end Rows

section Operations
variable {e e' e'' : Engine} {h : History}

/-- A step that counts comes after one that counts nothing and leaves what was signed as it is. -/
theorem Engine.Counts.after {v : Option (Artifact × Decision)} (h₁ : e.Counts none e')
    (hsize : ∀ table ∈ Table.signed, e'.tables.size table = e.tables.size table) (h₂ : e'.Counts v e'') :
    e.Counts v e'' where
  decisions artifact d := by simpa [h₁.decisions artifact d] using h₂.decisions artifact d
  rows table ht := by simpa [h₁.rows table ht, hsize table ht] using h₂.rows table ht

theorem maySignBlock_counts (hs : e.Sound h) (genesis : Option Root) (c : BlockProposal) :
    e.Counts (verdict? .block (Request.maySignBlock genesis c e).1) (Request.maySignBlock genesis c e).2 := by
  have hatomic : Request.Atomic (Request.maySignBlock genesis c) :=
    (Request.atomic_transactOn _ _ _).bind fun d e => ⟨d, Request.counted_ok _ _ e⟩
  refine (Request.tallies_maySignBlock genesis c).counts hatomic (grows_maySignBlock genesis c) ?_
  obtain ⟨t', metrics, hchange, he, -⟩ := maySignBlock_effect hs.installed hs.guards genesis c
  rw [he]
  exact size_le_of_change hchange

theorem maySignAttestation_counts (hs : e.Sound h) (genesis : Option Root) (c : Attestation) :
    e.Counts (verdict? .attestation (Request.maySignAttestation genesis c e).1)
      (Request.maySignAttestation genesis c e).2 := by
  refine (Request.tallies_maySignAttestation genesis c).counts (Request.atomic_maySignAttestation genesis c)
    (grows_maySignAttestation genesis c) ?_
  obtain ⟨t', metrics, hchange, he, -⟩ := maySignAttestation_effect hs.installed hs.guards genesis c
  rw [he]
  exact size_le_of_change hchange

def Operation.verdict? : Operation → Except ProtectionError Answer → Option (Artifact × Decision)
  | .maySignBlock .., .ok (.decided d) => some (.block, d)
  | .maySignAttestation .., .ok (.decided d) => some (.attestation, d)
  | _, _ => none

/-- What one request counts that is no prune request, whatever comes of it. -/
theorem perform_counts (hs : e.Sound h) {op : Operation} (ho : op.prunes = false) :
    e.Counts (op.verdict? (op.perform e).1) (op.perform e).2 := by
  have hretries : Family.retries ∈ [Family.retries] := List.mem_singleton_self _
  cases op with
  | resolveValidator key =>
    simp only [Operation.perform, Request.answered_apply]
    exact (Request.spares_resolveValidator key).counts (Request.keeps_resolveValidator (fun _ _ => rfl) key)
  | registerValidators keys =>
    simp only [Operation.perform, Request.answered_apply]
    exact (Request.spares_registerValidators keys).counts (Request.keeps_registerValidators (fun _ _ => rfl) keys)
  | validatorId key =>
    simp only [Operation.perform, Request.answered_apply]
    exact (Request.spares_validatorId key).counts (Request.keeps_validatorId key)
  | allIds =>
    simp only [Operation.perform, Request.answered_apply]
    exact (Request.spares_transactOn hretries _ _ _).counts Request.keeps_allIds
  | checkGenesis root =>
    simp only [Operation.perform, Request.answered_apply]
    exact (Request.spares_transactOn hretries _ _ _).counts (Request.keeps_checkGenesis fun _ => rfl)
  | genesisExists =>
    simp only [Operation.perform, Request.answered_apply]
    exact (Request.spares_transactOn hretries _ _ _).counts Request.keeps_genesisExists
  | maySignBlock genesis c =>
    simp only [Operation.perform, Request.answered_apply]
    have hcounts := maySignBlock_counts hs genesis c
    cases ho : (Request.maySignBlock genesis c e).1 with
    | error cause => rwa [ho] at hcounts
    | ok d => rwa [ho] at hcounts
  | maySignAttestation genesis c =>
    simp only [Operation.perform, Request.answered_apply]
    have hcounts := maySignAttestation_counts hs genesis c
    cases ho : (Request.maySignAttestation genesis c e).1 with
    | error cause => rwa [ho] at hcounts
    | ok d => rwa [ho] at hcounts
  | prune id window => cases ho
  | pruneAll window => cases ho

/-- No request to protection is counted as one to the signer. -/
theorem perform_spares {op : Operation} (ho : op.prunes = false) :
    Request.Spares [.retries, .permitted, .prevented, .pruned] op.perform := by
  have hmore : [Family.retries] ⊆ [Family.retries, .permitted, .prevented, .pruned] := by simp
  cases op with
  | resolveValidator key => exact ((Request.spares_resolveValidator key).mono hmore).answered _
  | registerValidators keys => exact ((Request.spares_registerValidators keys).mono hmore).answered _
  | validatorId key => exact ((Request.spares_validatorId key).mono hmore).answered _
  | allIds => exact (Request.spares_transactOn (by simp) _ _ _).answered _
  | checkGenesis root => exact (Request.spares_transactOn (by simp) _ _ _).answered _
  | genesisExists => exact (Request.spares_transactOn (by simp) _ _ _).answered _
  | maySignBlock genesis c => exact (Request.tallies_maySignBlock genesis c).spares.answered _
  | maySignAttestation genesis c => exact (Request.tallies_maySignAttestation genesis c).spares.answered _
  | prune id window => cases ho
  | pruneAll window => cases ho

end Operations
end ValidatorSigner.Protection
