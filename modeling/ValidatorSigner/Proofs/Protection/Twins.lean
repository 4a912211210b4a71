import ValidatorSigner.Proofs.Protection.Concurrence
import ValidatorSigner.Proofs.Protection.Journal

/-! # Two engines side by side

Two engines that differ only in how far their stores are pruned are asked the same. They answer alike,
except where the one that is ahead refuses below its watermark, and they go on differing only in that.
-/
namespace ValidatorSigner.Protection
open Store Telemetry

/-- Engines that differ only in counters and in how far they have pruned. -/
structure Twins (level : Prop) (p u : Engine) : Prop where
  locked : p.locked = u.locked
  service : p.service = u.service
  left : Ready p.database
  right : Ready u.database
  storable : p.service.pruning.batchSize < storeBound
  tables : Paired level p.tables u.tables

structure Agree {α β : Type} (level : Prop) (R : α → β → Prop) (a : Except ProtectionError α × Engine)
    (b : Except ProtectionError β × Engine) : Prop where
  engines : Twins level a.2 b.2
  values : (∃ cause, a.1 = .error cause ∧ b.1 = .error cause) ∨ ∃ v w, a.1 = .ok v ∧ b.1 = .ok w ∧ R v w

def SameFloor (level : Prop) (r r' : PruneReport) : Prop := level → r.watermark = r'.watermark

variable {level : Prop} {p u : Engine}

namespace Agree
variable {α β γ δ : Type} {R : α → β → Prop} {S : γ → δ → Prop}

theorem ok {v : α} {w : β} (tw : Twins level p u) (hr : R v w) : Agree level R (.ok v, p) (.ok w, u) :=
  ⟨tw, .inr ⟨v, w, rfl, rfl, hr⟩⟩

theorem error (tw : Twins level p u) (cause : ProtectionError) : Agree level R (.error cause, p) (.error cause, u) :=
  ⟨tw, .inl ⟨cause, rfl, rfl⟩⟩

theorem bind {x : Request α} {y : Request β} {f : α → Request γ} {g : β → Request δ}
    (h : Agree level R (x p) (y u))
    (hk : ∀ v w p' u', R v w → Twins level p' u' → Agree level S (f v p') (g w u')) :
    Agree level S ((x >>= f) p) ((y >>= g) u) := by
  obtain ⟨tw, hv⟩ := h
  cases hx : x p with
  | mk a p' =>
    cases hy : y u with
    | mk b u' =>
      rw [hx, hy] at tw hv
      rcases hv with ⟨cause, rfl, rfl⟩ | ⟨v, w, rfl, rfl, hr⟩
      · rw [Request.bind_of_error hx, Request.bind_of_error hy]
        exact .error tw cause
      · rw [Request.bind_of_ok hx, Request.bind_of_ok hy]
        exact hk v w p' u' hr tw

theorem answered {x : Request α} {y : Request β} {S : Answer → Answer → Prop} {form : α → Answer} {form' : β → Answer}
    (h : Agree level R (x p) (y u)) (hs : ∀ v w, R v w → S (form v) (form' w)) :
    Agree level S (Request.answered form x p) (Request.answered form' y u) :=
  h.bind fun v w _ _ hr tw => .ok tw (hs v w hr)

end Agree

namespace Twins
variable {α : Type} {R : α → α → Prop}

theorem metrics (tw : Twins level p u) (m m' : Metrics) :
    Twins level { p with metrics := m } { u with metrics := m' } :=
  ⟨tw.locked, tw.service, tw.left, tw.right, tw.storable, tw.tables⟩

theorem withTables (tw : Twins level p u) {t t' : Tables} (h : Paired level t t') :
    Twins level (p.withTables t) (u.withTables t') :=
  ⟨tw.locked, tw.service, ⟨tw.left.1, tw.left.2⟩, ⟨tw.right.1, tw.right.2⟩, tw.storable, h⟩

theorem obstacle (tw : Twins level p u) (pool : Pool) : p.obstacle? pool = u.obstacle? pool := by
  simp only [Engine.obstacle?, tw.locked, tw.left.writable, tw.right.writable]

theorem failed (tw : Twins level p u) (operation : String) (cause : StorageError) :
    Agree level R (p.failed operation cause) (u.failed operation cause) := by
  have hruns : (@Engine.failed α u operation cause).1 = (@Engine.failed α p operation cause).1 := by
    simp only [Engine.failed, tw.service]
  exact ⟨tw.metrics _ _, .inl ⟨_, rfl, hruns⟩⟩

theorem transactOn (tw : Twins level p u) (pool : Service → Pool) (operation : String) {x y : Transaction α}
    (h : Concur level R p.database u.database (x p.database) (y u.database)) :
    Agree level R (Protection.transactOn pool operation (fun _ => x) p)
      (Protection.transactOn pool operation (fun _ => y) u) := by
  have ho : u.obstacle? (pool u.service) = p.obstacle? (pool p.service) := by rw [← tw.service, tw.obstacle]
  cases hf : p.obstacle? (pool p.service) with
  | some fault =>
    rw [transactOn_of_obstacle hf, transactOn_of_obstacle (ho.trans hf)]
    exact tw.failed _ _
  | none =>
    rcases h with ⟨cause, hx, hy⟩ | ⟨v, w, t, t', hx, hy, hr, ht⟩
    · rw [transactOn_of_error hf hx, transactOn_of_error (ho.trans hf) hy]
      exact tw.failed _ _
    · rw [transactOn_of_ok hf hx, transactOn_of_ok (ho.trans hf) hy]
      exact .ok (tw.withTables ht) hr

theorem counted (tw : Twins level p u) (artifact : Artifact) {d d' : Decision} (h : Narrows level d d') :
    Agree level (Narrows level) (Request.counted artifact d p) (Request.counted artifact d' u) := by
  obtain ⟨m, hp⟩ := counted_apply artifact d p
  obtain ⟨m', hu⟩ := counted_apply artifact d' u
  rw [hp, hu]
  exact .ok (tw.metrics m m') h

theorem maySignBlock (tw : Twins level p u) (genesis : Option Root) (c : BlockProposal) :
    Agree level (Narrows level) (Request.maySignBlock genesis c p) (Request.maySignBlock genesis c u) :=
  (tw.transactOn _ _ (block_concurs tw.left tw.right tw.tables genesis c)).bind
    fun _ _ _ _ hd tw => tw.counted .block hd

theorem maySignAttestation (tw : Twins level p u) (genesis : Option Root) (c : Attestation) :
    Agree level (Narrows level) (Request.maySignAttestation genesis c p)
      (Request.maySignAttestation genesis c u) := by
  unfold Request.maySignAttestation
  by_cases hlt : c.target < c.source
  · rw [if_pos hlt]
    exact tw.counted .attestation (.inl rfl)
  · rw [if_neg hlt]
    exact (tw.transactOn _ _ (attestation_concurs tw.left tw.right tw.tables genesis (Nat.not_lt.mp hlt))).bind
      fun _ _ _ _ hd tw => tw.counted .attestation hd

theorem remember (tw : Twins level p u) (key : PublicKey) (id : ValidatorId) :
    Twins level { p with service := p.service.remember key id } { u with service := u.service.remember key id } :=
  ⟨tw.locked, by simp only [tw.service], tw.left, tw.right, tw.storable, tw.tables⟩

theorem rememberAll (tw : Twins level p u) (pairs : List (PublicKey × ValidatorId)) :
    Twins level { p with service := p.service.rememberAll pairs }
      { u with service := u.service.rememberAll pairs } := by
  refine ⟨tw.locked, by simp only [tw.service], tw.left, tw.right, ?_, tw.tables⟩
  dsimp only
  rw [rememberAll_rest]
  exact tw.storable

theorem resolveValidator (tw : Twins level p u) (key : PublicKey) :
    Agree level Eq (Request.resolveValidator key p) (Request.resolveValidator key u) := by
  unfold Request.resolveValidator
  rw [Request.get_bind, Request.get_bind, ← tw.service]
  cases p.service.known? key with
  | some id => exact .ok tw rfl
  | none =>
    refine (tw.transactOn _ _ (registerValidator_concurs tw.left tw.right tw.tables key)).bind
      fun v w p' u' hvw tw => ?_
    subst hvw
    exact .ok (tw.remember key v) rfl

theorem registerValidators (tw : Twins level p u) (keys : List PublicKey) :
    Agree level Eq (Request.registerValidators keys p) (Request.registerValidators keys u) := by
  refine (tw.transactOn _ _ (registerAll_concurs tw.left tw.right tw.tables keys)).bind fun v w p' u' hvw tw => ?_
  subst hvw
  rw [Request.bind_of_ok (rememberAll_apply _ _), Request.bind_of_ok (rememberAll_apply _ _)]
  exact .ok (tw.rememberAll _) rfl

theorem validatorId (tw : Twins level p u) (key : PublicKey) :
    Agree level Eq (Request.validatorId key p) (Request.validatorId key u) := by
  unfold Request.validatorId
  rw [Request.get_bind, Request.get_bind, ← tw.service]
  cases p.service.known? key with
  | some id => exact .ok tw rfl
  | none =>
    refine (tw.transactOn _ _ (findValidator_concurs tw.left tw.right tw.tables key)).bind
      fun v w p' u' hvw tw => ?_
    subst hvw
    cases v with
    | none => exact .ok tw rfl
    | some id => exact .ok (tw.remember key id) rfl

theorem allIds (tw : Twins level p u) : Agree level Eq (Request.allIds p) (Request.allIds u) :=
  tw.transactOn _ _ (allValidators_concurs tw.left tw.right tw.tables)

theorem checkGenesis (tw : Twins level p u) (root : Root) :
    Agree level Eq (Request.checkGenesis root p) (Request.checkGenesis root u) :=
  tw.transactOn _ _ (checkGenesis_concurs tw.left tw.right tw.tables root)

theorem genesisExists (tw : Twins level p u) :
    Agree level Eq (Request.genesisExists p) (Request.genesisExists u) :=
  tw.transactOn _ _ (genesisExists_concurs tw.left tw.right tw.tables)

/-- A prune run agrees with one that stops after any other number of batches. -/
theorem pruneWithin (tw : Twins level p u) (rounds rounds' : Rounds) (id : ValidatorId) (window : Retention) :
    Agree level (SameFloor level) (Request.pruneWithin rounds id window p)
      (Request.pruneWithin rounds' id window u) := by
  obtain ⟨_, g⟩ := tw.tables.left
  obtain ⟨_, gu⟩ := tw.tables.right
  have ha := raise_apply tw.left.installed g.wellFormed id window
  have hb := raise_apply tw.right.installed gu.wellFormed id window
  rw [show u.obstacle? u.service.cleaning = p.obstacle? p.service.cleaning by rw [← tw.service, tw.obstacle]] at hb
  unfold Request.pruneWithin
  rw [Request.get_bind, Request.get_bind, ← tw.service]
  cases hf : p.obstacle? p.service.cleaning with
  | some fault =>
    rw [hf] at ha hb
    have hfailed := tw.failed (R := SameFloor level) "prune_watermark" (.access fault)
    rw [Request.bind_of_error ha, Request.bind_of_error hb]
    exact ⟨hfailed.engines, .inl ⟨_, rfl, by simp only [tw.service]⟩⟩
  | none =>
    simp only [hf] at ha hb
    rw [if_neg (by simp [tw.left.writable])] at ha
    rw [if_neg (by simp [tw.right.writable])] at hb
    rw [Request.bind_of_ok ha, Request.bind_of_ok hb]
    have tw' := tw.withTables (tw.tables.raise id window)
    have hfp : (raised p.tables id window).floorOf id = nextFloor p.tables id window := by
      rw [floorOf_raised, if_pos rfl]
    have hfu : (raised u.tables id window).floorOf id = nextFloor u.tables id window := by
      rw [floorOf_raised, if_pos rfl]
    have hstorable : max 1 p.service.pruning.batchSize < storeBound := by
      have hbatch := tw.storable
      rw [storeBound_eq] at hbatch ⊢
      omega
    obtain ⟨t, m, hforgets, hp, hpok⟩ :=
      sweep_cases rounds id (max 1 p.service.pruning.batchSize) (p.withTables (raised p.tables id window))
        tw'.left.installed (by rw [hfp]; exact nextFloor_legible g.wellFormed id window)
    obtain ⟨t', m', hforgets', hu, huok⟩ :=
      sweep_cases rounds' id (max 1 p.service.pruning.batchSize) (u.withTables (raised u.tables id window))
        tw'.right.installed (by rw [hfu]; exact nextFloor_legible gu.wellFormed id window)
    obtain ⟨blocks, attestations, hp'⟩ := hpok ⟨hf, tw.left.writable, hstorable⟩
    obtain ⟨blocks', attestations', hu'⟩ :=
      huok ⟨by rw [← hf, ← tw'.service]; exact (tw'.obstacle _).symm, tw.right.writable, hstorable⟩
    rw [← hfp, ← hfu]
    refine ⟨?_, .inr ⟨_, _, hp', hu', fun hl => ?_⟩⟩
    · rw [hp, hu]
      exact (tw'.withTables ((tw'.tables.forget_left hforgets).forget_right hforgets')).metrics m m'
    · rw [tw'.tables.floorOf hl]

theorem pruneEachWithin (tw : Twins level p u) (rounds rounds' : ValidatorId → Rounds) (window : Retention)
    (total total' : PruneReport) (ht : SameFloor level total total') (ids : List ValidatorId) :
    Agree level (SameFloor level) (Request.pruneEachWithin rounds window total ids p)
      (Request.pruneEachWithin rounds' window total' ids u) := by
  induction ids generalizing p u total total' with
  | nil => exact .ok tw ht
  | cons id rest ih =>
    exact (tw.pruneWithin (rounds id) (rounds' id) id window).bind
      fun report report' _ _ _ tw => ih tw (total.merge report) (total'.merge report') ht

theorem pruneAllWithin (tw : Twins level p u) (rounds rounds' : ValidatorId → Rounds) (window : Retention) :
    Agree level (SameFloor level) (Request.pruneAllWithin rounds window p)
      (Request.pruneAllWithin rounds' window u) := by
  refine tw.allIds.bind fun ids ids' _ _ hids tw => ?_
  subst hids
  exact tw.pruneEachWithin rounds rounds' window {} {} (fun _ => rfl) ids

end Twins
end ValidatorSigner.Protection
