import ValidatorSigner.Proofs.Protection.OneChain
import ValidatorSigner.Proofs.Protection.Shares

/-! # Independent validators

What is decided and pruned for one validator leaves the rows of the others alone, and a request that concerns
some validators is answered in the same way whatever the rows of the others are. So requests that concern
different validators may change places, and validators may be pruned together in any order.
-/
namespace ValidatorSigner.Protection
open Store Telemetry

/-- Engines that differ in nothing but their counters and the rows of other validators. -/
structure Engine.SameFor (who : ValidatorId → Prop) (e e' : Engine) : Prop where
  tables : Protection.SameFor who e.tables e'.tables
  rest : e' = { e.withTables e'.tables with metrics := e'.metrics }

def Operation.Concerns : Operation → ValidatorId → Prop
  | maySignBlock _ c, id => id = c.validator
  | maySignAttestation _ c, id => id = c.validator
  | prune pruned _, id => id = pruned
  | pruneAll _, _ => True
  | _, _ => False

def Operation.subject? : Operation → Option ValidatorId
  | maySignBlock _ c => some c.validator
  | maySignAttestation _ c => some c.validator
  | prune id _ => some id
  | _ => none

theorem Operation.eq_of_concerns {op : Operation} {id other : ValidatorId} (ho : op.subject? = some id)
    (hc : op.Concerns other) : other = id := by
  cases op with
  | maySignBlock genesis c =>
    cases ho
    exact hc
  | maySignAttestation genesis c =>
    cases ho
    exact hc
  | prune id window =>
    cases ho
    exact hc
  | _ => cases ho

/-- Transactions that end in the same way, over databases that are the same for some validators. -/
inductive EndsAlike {α : Type} (who : ValidatorId → Prop) :
    Except StorageError (α × Database) → Except StorageError (α × Database) → Prop
  | error (cause : StorageError) : EndsAlike who (.error cause) (.error cause)
  | ok (a : α) {db : Database} {t : Tables} (ht : SameFor who db.tables t) :
    EndsAlike who (.ok (a, db)) (.ok (a, { db with tables := t }))

def Matches {α : Type} (who : ValidatorId → Prop) (r r' : Except ProtectionError α × Engine) : Prop :=
  r'.1 = r.1 ∧ r.2.SameFor who r'.2

namespace Engine.SameFor
variable {α β : Type} {who : ValidatorId → Prop} {e e' e'' : Engine}

theorem refl (who : ValidatorId → Prop) (e : Engine) : e.SameFor who e := ⟨.refl who _, rfl⟩

theorem symm (hs : e.SameFor who e') : e'.SameFor who e where
  tables := hs.tables.symm
  rest := by
    rw [hs.rest]

theorem trans (h₁ : e.SameFor who e') (h₂ : e'.SameFor who e'') : e.SameFor who e'' where
  tables := h₁.tables.trans h₂.tables
  rest := by
    rw [h₂.rest, h₁.rest]

theorem mono {less : ValidatorId → Prop} (hs : e.SameFor who e') (hl : ∀ id, less id → who id) : e.SameFor less e' :=
  ⟨hs.tables.mono hl, hs.rest⟩

theorem service (hs : e.SameFor who e') : e'.service = e.service := by
  rw [hs.rest]

theorem database (hs : e.SameFor who e') : e'.database = { e.database with tables := e'.tables } := by
  rw [hs.rest]

theorem readOnly (hs : e.SameFor who e') : e'.database.readOnly = e.database.readOnly := by
  rw [hs.database]

theorem missing (hs : e.SameFor who e') : e'.database.missing = e.database.missing := by
  rw [hs.database]

theorem obstacle (hs : e.SameFor who e') (pool : Pool) : e'.obstacle? pool = e.obstacle? pool := by
  rw [hs.rest]
  rfl

theorem withTables {t t' : Tables} (hs : e.SameFor who e') (ht : Protection.SameFor who t t') :
    (e.withTables t).SameFor who (e'.withTables t') where
  tables := ht
  rest := by
    rw [hs.rest]

theorem counted (hs : e.SameFor who e') (metrics metrics' : Metrics) :
    { e with metrics }.SameFor who { e' with metrics := metrics' } where
  tables := hs.tables
  rest := by
    rw [hs.rest]

theorem remembering (hs : e.SameFor who e') (service : Service) :
    { e with service }.SameFor who { e' with service } where
  tables := hs.tables
  rest := by
    rw [hs.rest]

theorem failed (hs : e.SameFor who e') (operation : String) (cause : StorageError) :
    Matches who (e.failed operation cause : Except ProtectionError α × Engine) (e'.failed operation cause) := by
  refine ⟨?_, hs.counted _ _⟩
  simp only [Engine.failed, hs.service]

theorem transactOn (hs : e.SameFor who e') (pool : Service → Pool) (operation : String) {body : Transaction α}
    (hb : EndsAlike who (body e.database) (body e'.database)) :
    Matches who (transactOn pool operation (fun _ => body) e) (transactOn pool operation (fun _ => body) e') := by
  rw [transactOn_apply, transactOn_apply, hs.service, hs.obstacle]
  cases e.obstacle? (pool e.service) with
  | some fault => exact hs.failed operation _
  | none =>
    generalize body e.database = r at hb ⊢
    generalize body e'.database = r' at hb ⊢
    cases hb with
    | error cause => exact hs.failed operation cause
    | ok a ht =>
      refine ⟨rfl, ht, ?_⟩
      rw [hs.rest]

end Engine.SameFor

namespace Matches
variable {α β : Type} {who : ValidatorId → Prop} {e e' : Engine}

theorem bind {x : Request α} {f : α → Request β} (hx : Matches who (x e) (x e'))
    (hf : ∀ a, (x e).1 = .ok a → (x e).2.SameFor who (x e').2 → Matches who (f a (x e).2) (f a (x e').2)) :
    Matches who ((x >>= f) e) ((x >>= f) e') := by
  obtain ⟨hsame, hs⟩ := hx
  cases ho : (x e).1 with
  | error cause =>
    rw [Request.bind_of_error (Prod.ext ho rfl), Request.bind_of_error (Prod.ext (hsame.trans ho) rfl)]
    exact ⟨rfl, hs⟩
  | ok a =>
    rw [Request.bind_of_ok (Prod.ext ho rfl), Request.bind_of_ok (Prod.ext (hsame.trans ho) rfl)]
    exact hf a ho hs

theorem answered {x : Request α} (hx : Matches who (x e) (x e')) (form : α → Answer) :
    Matches who (Request.answered form x e) (Request.answered form x e') := by
  rw [Request.answered_apply, Request.answered_apply]
  exact ⟨congrArg (Except.map form) hx.1, hx.2⟩

theorem counted (hs : e.SameFor who e') (artifact : Artifact) (d : Decision) :
    Matches who (Request.counted artifact d e) (Request.counted artifact d e') := by
  cases d with
  | allow => exact ⟨rfl, hs.counted _ _⟩
  | deny reason => exact ⟨rfl, hs.counted _ _⟩

theorem binding {r r' : Except ProtectionError Decision × Engine} (hr : Matches who r r') (root : Root) :
    Matches who (binding root r) (binding root r') := by
  obtain ⟨outcome, e⟩ := r
  obtain ⟨outcome', e'⟩ := r'
  obtain ⟨rfl, hs⟩ := hr
  cases outcome' with
  | error cause => exact ⟨rfl, hs⟩
  | ok d => exact ⟨rfl, hs.withTables (hs.tables.bind root)⟩

end Matches

section Decisions
variable {who : ValidatorId → Prop} {e e' : Engine} {h h' : History}

theorem endsAlike_conclude {db : Database} {t recorded recorded' : Tables} (ht : SameFor who db.tables t)
    (hr : SameFor who recorded recorded') (verdict : Verdict) (registered : Bool) :
    EndsAlike who (conclude db verdict registered recorded)
      (conclude { db with tables := t } verdict registered recorded') := by
  cases verdict with
  | refuse reason => exact .ok _ ht
  | alreadySigned => exact .ok _ ht
  | record =>
    dsimp only [conclude]
    by_cases hw : db.readOnly = true
    · rw [if_pos hw, if_pos hw]
      exact .error _
    · rw [if_neg hw, if_neg hw]
      cases registered with
      | true => exact .ok _ hr
      | false => exact .error _

variable (hs : e.Sound h) (hs' : e'.Sound h') (he : e.SameFor who e')

include hs hs' he

theorem matches_block_plain {c : BlockProposal} (hc : who c.validator) :
    Matches who (Request.maySignBlock none c e) (Request.maySignBlock none c e') := by
  refine Matches.bind (he.transactOn (·.decisions) "may_sign_block" ?_) fun d _ hd => Matches.counted hd .block d
  rw [block_apply hs.installed hs.guards.wellFormed, block_apply hs'.installed hs'.guards.wellFormed,
    he.tables.scan_block hc, he.tables.isRegistered, he.database]
  split
  · exact .error _
  · exact endsAlike_conclude he.tables (he.tables.addBlock c.row) _ _

theorem matches_attestation_plain {c : Attestation} (hc : who c.validator) :
    Matches who (Request.maySignAttestation none c e) (Request.maySignAttestation none c e') := by
  unfold Request.maySignAttestation
  by_cases hlt : c.target < c.source
  · rw [if_pos hlt]
    exact Matches.counted he .attestation _
  rw [if_neg hlt]
  refine Matches.bind (he.transactOn (·.decisions) "may_sign_attestation" ?_) fun d _ hd =>
    Matches.counted hd .attestation d
  rw [attestation_apply hs.installed hs.guards.wellFormed (Nat.not_lt.mp hlt),
    attestation_apply hs'.installed hs'.guards.wellFormed (Nat.not_lt.mp hlt), he.tables.scan_attestation hc,
    he.tables.isRegistered, he.database]
  split
  · exact .error _
  · exact endsAlike_conclude he.tables (he.tables.addAttestation c.row) _ _

omit hs hs' in
theorem matches_mismatches (artifact : Artifact) (operation : String) :
    Matches who (e.mismatches artifact operation) (e'.mismatches artifact operation) := by
  rw [Engine.mismatches, Engine.mismatches, he.service, he.obstacle]
  cases e.obstacle? e.service.decisions with
  | some fault => exact he.failed operation _
  | none => exact ⟨rfl, he.counted _ _⟩

omit hs hs' in
theorem belongsElsewhere_iff (root : Root) : e'.tables.BelongsElsewhere root ↔ e.tables.BelongsElsewhere root := by
  rw [Tables.BelongsElsewhere, Tables.BelongsElsewhere, he.tables.genesis]

variable (hr : e.database.readOnly = false)

include hr

theorem matches_maySignBlock (genesis : Option Root) {c : BlockProposal} (hc : who c.validator) :
    Matches who (Request.maySignBlock genesis c e) (Request.maySignBlock genesis c e') := by
  have hr' := he.readOnly.trans hr
  cases genesis with
  | none => exact matches_block_plain hs hs' he hc
  | some root =>
    rw [maySignBlock_onChain hs hr, maySignBlock_onChain hs' hr']
    by_cases helse : e.tables.BelongsElsewhere root
    · rw [if_pos helse, if_pos ((belongsElsewhere_iff he root).mpr helse)]
      exact matches_mismatches he .block "may_sign_block"
    · rw [if_neg helse, if_neg fun h => helse ((belongsElsewhere_iff he root).mp h)]
      exact (matches_block_plain hs hs' he hc).binding root

theorem matches_maySignAttestation (genesis : Option Root) {c : Attestation} (hc : who c.validator) :
    Matches who (Request.maySignAttestation genesis c e) (Request.maySignAttestation genesis c e') := by
  have hr' := he.readOnly.trans hr
  cases genesis with
  | none => exact matches_attestation_plain hs hs' he hc
  | some root =>
    by_cases hlt : c.target < c.source
    · rw [maySignAttestation_inverted _ hlt, maySignAttestation_inverted _ hlt]
      exact ⟨rfl, he.counted _ _⟩
    rw [maySignAttestation_onChain hs hr root (Nat.not_lt.mp hlt),
      maySignAttestation_onChain hs' hr' root (Nat.not_lt.mp hlt)]
    by_cases helse : e.tables.BelongsElsewhere root
    · rw [if_pos helse, if_pos ((belongsElsewhere_iff he root).mpr helse)]
      exact matches_mismatches he .attestation "may_sign_attestation"
    · rw [if_neg helse, if_neg fun h => helse ((belongsElsewhere_iff he root).mp h)]
      exact (matches_attestation_plain hs hs' he hc).binding root

theorem matches_prune {id : ValidatorId} (hid : who id) (window : Retention) :
    Matches who (Request.prune id window e) (Request.prune id window e') := by
  have hr' := he.readOnly.trans hr
  rw [prune_apply hs.installed hs.guards.wellFormed hr, prune_apply hs'.installed hs'.guards.wellFormed hr', he.service,
    he.obstacle, he.tables.nextFloor hid]
  cases e.obstacle? e.service.cleaning with
  | some fault => exact he.failed _ _
  | none =>
    dsimp only
    split
    · rw [he.tables.sweptReport (w := nextFloor e.tables id window) hid]
      exact ⟨rfl, (he.withTables (he.tables.pruned hid window)).counted _ _⟩
    · exact (he.withTables (he.tables.raised hid window)).failed _ _

omit hr in
theorem matches_pruneEach (window : Retention) (total : PruneReport) {ids : List ValidatorId}
    (hids : ∀ id ∈ ids, who id) (hr : e.database.readOnly = false) :
    Matches who (Request.pruneEach window total ids e) (Request.pruneEach window total ids e') := by
  induction ids generalizing total e e' h h' with
  | nil => exact ⟨rfl, he⟩
  | cons id rest ih =>
    have hp := matches_prune hs hs' he hr (hids id List.mem_cons_self) window
    have hl := performWithin_leads (fun _ => .all) (.prune id window) hs
    have hl' := performWithin_leads (fun _ => .all) (.prune id window) hs'
    simp only [Operation.performWithin, Request.answered_apply] at hl hl'
    refine Matches.bind hp fun report _ hd => ih (hs.leads hl) (hs'.leads hl') hd (total.merge report)
      (fun other ho => hids other (List.mem_cons_of_mem id ho)) ?_
    exact (congrArg (fun e => e.database.readOnly) hl.same).trans hr

end Decisions

section Registration
variable {who : ValidatorId → Prop} {e e' : Engine} (hm : e.database.missing = []) (he : e.SameFor who e')

include hm he

theorem endsAlike_registerValidator (key : PublicKey) :
    EndsAlike who (Transaction.registerValidator key e.database) (Transaction.registerValidator key e'.database) := by
  have hm' := he.missing.trans hm
  rw [registerValidator_apply (Transaction.not_mem_missing hm _),
    registerValidator_apply (Transaction.not_mem_missing hm' _), (he.tables.enrol key).1, he.database]
  split
  · exact .error _
  · exact .ok _ (he.tables.enrol key).2

theorem matches_resolveValidator (key : PublicKey) :
    Matches who (Request.resolveValidator key e) (Request.resolveValidator key e') := by
  unfold Request.resolveValidator
  rw [Request.get_bind, Request.get_bind, he.service]
  cases e.service.known? key with
  | some id => exact ⟨rfl, he⟩
  | none =>
    refine Matches.bind (he.transactOn (·.decisions) "resolve_validator" (endsAlike_registerValidator hm he key))
      fun id _ hd => ?_
    rw [Request.bind_of_ok (remember_apply key id _), Request.bind_of_ok (remember_apply key id _), hd.service]
    exact ⟨rfl, hd.remembering _⟩

theorem matches_registerValidators (keys : List PublicKey) :
    Matches who (Request.registerValidators keys e) (Request.registerValidators keys e') := by
  have hm' := he.missing.trans hm
  refine Matches.bind (he.transactOn (·.decisions) "register_validators" ?_) fun ids _ hd => ?_
  · rw [registerAll_apply (Transaction.not_mem_missing hm _), registerAll_apply (Transaction.not_mem_missing hm' _),
      (he.tables.enrolAll keys).1, he.database]
    dsimp only
    split
    · exact .error _
    · exact .ok _ (he.tables.enrolAll keys).2
  · rw [Request.bind_of_ok (rememberAll_apply _ _), Request.bind_of_ok (rememberAll_apply _ _), hd.service]
    exact ⟨rfl, hd.remembering _⟩

theorem matches_validatorId (key : PublicKey) :
    Matches who (Request.validatorId key e) (Request.validatorId key e') := by
  have hm' := he.missing.trans hm
  unfold Request.validatorId
  rw [Request.get_bind, Request.get_bind, he.service]
  cases e.service.known? key with
  | some id => exact ⟨rfl, he⟩
  | none =>
    refine Matches.bind (he.transactOn (·.decisions) "find_validator" ?_) fun found _ hd => ?_
    · rw [findValidator_apply (Transaction.not_mem_missing hm _),
        findValidator_apply (Transaction.not_mem_missing hm' _), he.tables.idOf, he.database]
      exact .ok _ he.tables
    · cases found with
      | none => exact ⟨rfl, hd⟩
      | some id =>
        dsimp only
        rw [Request.bind_of_ok (remember_apply key id _), Request.bind_of_ok (remember_apply key id _), hd.service]
        exact ⟨rfl, hd.remembering _⟩

theorem matches_allIds : Matches who (Request.allIds e) (Request.allIds e') := by
  have hm' := he.missing.trans hm
  refine he.transactOn (·.decisions) "list_validators" ?_
  rw [allValidators_apply hm, allValidators_apply hm', he.tables.validators, he.database]
  exact .ok _ he.tables

end Registration

section Requests
variable {who : ValidatorId → Prop} {e e' : Engine} {h h' : History} (hs : e.Sound h) (hs' : e'.Sound h')
  (he : e.SameFor who e')

include hs hs' he

theorem matches_checkGenesis (root : Root) :
    Matches who (Request.checkGenesis root e) (Request.checkGenesis root e') := by
  refine he.transactOn (·.decisions) "check_genesis" ?_
  rw [checkGenesis_apply hs.installed hs.guards.wellFormed, checkGenesis_apply hs'.installed hs'.guards.wellFormed,
    he.tables.genesis, he.database]
  cases e.tables.genesis with
  | some bytes => exact .ok _ he.tables
  | none =>
    dsimp only
    split
    · exact .error _
    · exact .ok _ (he.tables.bind root)

theorem matches_genesisExists : Matches who (Request.genesisExists e) (Request.genesisExists e') := by
  refine he.transactOn (·.decisions) "genesis_root_exists" ?_
  rw [genesisExists_apply hs.installed hs.guards.wellFormed, genesisExists_apply hs'.installed hs'.guards.wellFormed,
    he.tables.genesis, he.database]
  exact .ok _ he.tables

/-- A request is answered by the rows of the validators that it concerns. -/
theorem matches_perform (hr : e.database.readOnly = false) {op : Operation} (ho : ∀ id, op.Concerns id → who id) :
    Matches who (op.perform e) (op.perform e') := by
  cases op with
  | resolveValidator key => exact (matches_resolveValidator hs.installed he key).answered _
  | registerValidators keys => exact (matches_registerValidators hs.installed he keys).answered _
  | validatorId key => exact (matches_validatorId hs.installed he key).answered _
  | allIds => exact (matches_allIds hs.installed he).answered _
  | checkGenesis root => exact (matches_checkGenesis hs hs' he root).answered _
  | genesisExists => exact (matches_genesisExists hs hs' he).answered _
  | maySignBlock genesis c => exact (matches_maySignBlock hs hs' he hr genesis (ho _ rfl)).answered _
  | maySignAttestation genesis c => exact (matches_maySignAttestation hs hs' he hr genesis (ho _ rfl)).answered _
  | prune id window => exact (matches_prune hs hs' he hr (ho _ rfl) window).answered _
  | pruneAll window =>
    refine Matches.answered (Matches.bind (matches_allIds hs.installed he) fun ids hids hd => ?_) _
    obtain ⟨metrics, hm⟩ := allIds_effect hs.installed
    obtain ⟨metrics', hm'⟩ := allIds_effect hs'.installed
    rw [hm, hm'] at hd ⊢
    have hsound : Engine.Sound { e with metrics } h := ⟨hs.installed, hs.guards, hs.coherent⟩
    have hsound' : Engine.Sound { e' with metrics := metrics' } h' := ⟨hs'.installed, hs'.guards, hs'.coherent⟩
    exact matches_pruneEach hsound hsound' hd window {} (fun id _ => ho id trivial) hr

end Requests

section Beyond
variable {who : ValidatorId → Prop} {e : Engine} {h : History}

theorem beyond_decided {body : Transaction Decision}
    (hb : ∀ d db, body e.database = .ok (d, db) → ∃ t, SameFor who e.tables t ∧ db = { e.database with tables := t })
    (artifact : Artifact) (operation : String) :
    e.SameFor who ((transact operation body >>= Request.counted artifact) e).2 := by
  rw [decided_apply]
  cases e.obstacle? e.service.decisions with
  | some fault => exact ⟨.refl who _, rfl⟩
  | none =>
    cases hbody : body e.database with
    | error cause => exact ⟨.refl who _, rfl⟩
    | ok result =>
      obtain ⟨d, db⟩ := result
      obtain ⟨t, ht, rfl⟩ := hb d db hbody
      cases d with
      | allow => exact ⟨ht, rfl⟩
      | deny reason => exact ⟨ht, rfl⟩

theorem beyond_block_plain (hs : e.Sound h) {c : BlockProposal} (hc : ¬ who c.validator) :
    e.SameFor who (Request.maySignBlock none c e).2 := by
  refine beyond_decided (fun d db hd => ?_) .block "may_sign_block"
  rw [block_apply hs.installed hs.guards.wellFormed] at hd
  split at hd
  · cases hd
  · rcases conclude_cases hd with ⟨rfl, -⟩ | ⟨-, -, -, rfl⟩
    · exact ⟨e.tables, .refl who _, rfl⟩
    · exact ⟨_, .addBlock_beyond c.row hc e.tables, rfl⟩

theorem beyond_attestation_plain (hs : e.Sound h) {c : Attestation} (hc : ¬ who c.validator) :
    e.SameFor who (Request.maySignAttestation none c e).2 := by
  by_cases hlt : c.target < c.source
  · rw [maySignAttestation_inverted none hlt]
    exact ⟨.refl who _, rfl⟩
  unfold Request.maySignAttestation
  rw [if_neg hlt]
  refine beyond_decided (fun d db hd => ?_) .attestation "may_sign_attestation"
  rw [attestation_apply hs.installed hs.guards.wellFormed (Nat.not_lt.mp hlt)] at hd
  split at hd
  · cases hd
  · rcases conclude_cases hd with ⟨rfl, -⟩ | ⟨-, -, -, rfl⟩
    · exact ⟨e.tables, .refl who _, rfl⟩
    · exact ⟨_, .addAttestation_beyond c.row hc e.tables, rfl⟩

theorem beyond_mismatches (artifact : Artifact) (operation : String) :
    e.SameFor who (e.mismatches artifact operation).2 := by
  unfold Engine.mismatches
  cases e.obstacle? e.service.decisions with
  | some fault => exact ⟨.refl who _, rfl⟩
  | none => exact ⟨.refl who _, rfl⟩

/-- Tables that belong to a chain are not bound again. -/
theorem beyond_binding {root : Root} (hg : e.tables.genesis = some root.toList)
    {r : Except ProtectionError Decision × Engine} (hr : e.SameFor who r.2) :
    e.SameFor who (binding root r).2 := by
  obtain ⟨outcome, e'⟩ := r
  cases outcome with
  | error cause => exact hr
  | ok d =>
    have hbound : bound e'.tables root = e'.tables := bound_of_genesis (hr.tables.genesis.trans hg)
    simp only [binding, hbound]
    exact hr

theorem genesis_of_bound {root : Root} (hg : e.tables.genesis.isSome = true) (hn : ¬ e.tables.BelongsElsewhere root) :
    e.tables.genesis = some root.toList := by
  rcases genesis_cases hn with hnone | hsome
  · rw [hnone] at hg
    cases hg
  · exact hsome

variable (hs : e.Sound h) (hr : e.database.readOnly = false)

include hs hr

theorem beyond_maySignBlock {genesis : Option Root} (hg : genesis = none ∨ e.tables.genesis.isSome = true)
    {c : BlockProposal} (hc : ¬ who c.validator) : e.SameFor who (Request.maySignBlock genesis c e).2 := by
  cases genesis with
  | none => exact beyond_block_plain hs hc
  | some root =>
    rw [maySignBlock_onChain hs hr]
    by_cases helse : e.tables.BelongsElsewhere root
    · rw [if_pos helse]
      exact beyond_mismatches .block "may_sign_block"
    · rw [if_neg helse]
      exact beyond_binding (genesis_of_bound (hg.resolve_left (by simp)) helse) (beyond_block_plain hs hc)

theorem beyond_maySignAttestation {genesis : Option Root} (hg : genesis = none ∨ e.tables.genesis.isSome = true)
    {c : Attestation} (hc : ¬ who c.validator) : e.SameFor who (Request.maySignAttestation genesis c e).2 := by
  cases genesis with
  | none => exact beyond_attestation_plain hs hc
  | some root =>
    by_cases hlt : c.target < c.source
    · rw [maySignAttestation_inverted _ hlt]
      exact ⟨.refl who _, rfl⟩
    rw [maySignAttestation_onChain hs hr root (Nat.not_lt.mp hlt)]
    by_cases helse : e.tables.BelongsElsewhere root
    · rw [if_pos helse]
      exact beyond_mismatches .attestation "may_sign_attestation"
    · rw [if_neg helse]
      exact beyond_binding (genesis_of_bound (hg.resolve_left (by simp)) helse) (beyond_attestation_plain hs hc)

theorem beyond_prune {id : ValidatorId} (hid : ¬ who id) (window : Retention) :
    e.SameFor who (Request.prune id window e).2 := by
  rw [prune_apply hs.installed hs.guards.wellFormed hr]
  cases e.obstacle? e.service.cleaning with
  | some fault => exact ⟨.refl who _, rfl⟩
  | none =>
    dsimp only
    split
    · exact ⟨.pruned_beyond hid e.tables window, rfl⟩
    · exact ⟨.raised_beyond hid e.tables window, rfl⟩

/-- A request for one validator touches no other, unless it binds the tables to a chain. -/
theorem beyond_perform {op : Operation} {id : ValidatorId} (ho : op.subject? = some id)
    (hg : op.root? = none ∨ e.tables.genesis.isSome = true) : e.SameFor (· ≠ id) (op.perform e).2 := by
  cases op with
  | maySignBlock genesis c =>
    cases ho
    simp only [Operation.perform, Request.answered_apply]
    exact beyond_maySignBlock hs hr hg fun hn => hn rfl
  | maySignAttestation genesis c =>
    cases ho
    simp only [Operation.perform, Request.answered_apply]
    exact beyond_maySignAttestation hs hr hg fun hn => hn rfl
  | prune id window =>
    cases ho
    simp only [Operation.perform, Request.answered_apply]
    exact beyond_prune hs hr (fun hn => hn rfl) window
  | _ => cases ho

omit hr in
theorem sound_perform (op : Operation) : ∃ h', (op.perform e).2.Sound h' := by
  rw [Operation.perform_eq]
  exact ⟨_, hs.leads (performWithin_leads _ op hs)⟩

/-- Requests for two validators get the same answers in either order, and leave the same rows. -/
theorem perform_comm {a b : ValidatorId} (hab : a ≠ b) {opA opB : Operation} (ha : opA.subject? = some a)
    (hb : opB.subject? = some b) (hga : opA.root? = none ∨ e.tables.genesis.isSome = true)
    (hgb : opB.root? = none ∨ e.tables.genesis.isSome = true) :
    (opB.perform (opA.perform e).2).1 = (opB.perform e).1 ∧
      (opA.perform (opB.perform e).2).1 = (opA.perform e).1 ∧
      (opB.perform (opA.perform e).2).2.SameFor (fun _ => True) (opA.perform (opB.perform e).2).2 := by
  obtain ⟨hA, hsA⟩ := sound_perform hs opA
  obtain ⟨hB, hsB⟩ := sound_perform hs opB
  have hbeyondA := beyond_perform hs hr ha hga
  have hbeyondB := beyond_perform hs hr hb hgb
  have hfirst := matches_perform hs hsA hbeyondA hr fun id hc (he : id = a) =>
    hab (he.symm.trans (Operation.eq_of_concerns hb hc))
  have hsecond := matches_perform hs hsB hbeyondB hr fun id hc (he : id = b) =>
    hab ((Operation.eq_of_concerns ha hc).symm.trans he)
  have hthen : (opA.perform e).2.SameFor (· ≠ b) (opB.perform (opA.perform e).2).2 := by
    refine beyond_perform hsA (hbeyondA.readOnly.trans hr) hb ?_
    rwa [hbeyondA.tables.genesis]
  have hthen' : (opB.perform e).2.SameFor (· ≠ a) (opA.perform (opB.perform e).2).2 := by
    refine beyond_perform hsB (hbeyondB.readOnly.trans hr) ha ?_
    rwa [hbeyondB.tables.genesis]
  -- One order agrees with the other beyond either validator, hence for both.
  have hbeyond := hfirst.2.symm.trans hthen'
  have hbeyond' := hthen.symm.trans hsecond.2
  refine ⟨hfirst.1, hsecond.1, (hbeyond.tables.union hbeyond'.tables).mono fun id _ => ?_, hbeyond.rest⟩
  by_cases he : id = a
  · exact .inr (he ▸ hab)
  · exact .inl he

end Beyond
end ValidatorSigner.Protection
