import ValidatorSigner.Proofs.Protection.Pruning

/-! # What each request does

A request that fails leaves the tables as they were, or trimmed. One that succeeds changes them quietly,
and a decision may record its candidate. What is recorded in the course of a request is what the tables
have gained, and a permission is always backed by a row.
-/
namespace ValidatorSigner.Protection
open Store Telemetry

inductive Offer where
  | nothing
  | block (c : BlockProposal)
  | attestation (c : Attestation)

/-- What becomes of the tables in the course of a request. -/
inductive Change (t : Tables) : Offer → Tables → Prop
  | quiet {o : Offer} {t' : Tables} (hq : Quietly t t') : Change t o t'
  | block {c : BlockProposal} {t' : Tables} (hq : Quietly t t') (hb : t'.blocks = t.blocks)
      (hv : Scan.block t' c = .record) (hs : c.slot < storeBound) (hr : t'.isRegistered c.validator = true) :
      Change t (.block c) (t'.addBlock c.row)
  | attestation {c : Attestation} {t' : Tables} (hq : Quietly t t') (ha : t'.attestations = t.attestations)
      (hv : Scan.attestation t' c = .record) (ht : c.target < storeBound)
      (hr : t'.isRegistered c.validator = true) :
      Change t (.attestation c) (t'.addAttestation c.row)

def History.extend (h : History) (t t' : Tables) : History where
  blocks := h.blocks ++ t'.blocks.filter (· ∉ t.blocks)
  attestations := h.attestations ++ t'.attestations.filter (· ∉ t.attestations)

section Tables
variable {t t' : Tables} {o : Offer} {h : History}

theorem Quiet.sublist (hq : Quiet t t') : t'.blocks.Sublist t.blocks ∧ t'.attestations.Sublist t.attestations := by
  cases hq with
  | enrol => exact ⟨List.Sublist.refl _, List.Sublist.refl _⟩
  | bind => exact ⟨List.Sublist.refl _, List.Sublist.refl _⟩
  | stamp => exact ⟨List.Sublist.refl _, List.Sublist.refl _⟩
  | trim ht =>
    cases ht with
    | raise id window =>
      obtain ⟨-, -, hb, ha⟩ := raised_rest t id window
      rw [hb, ha]
      exact ⟨List.Sublist.refl _, List.Sublist.refl _⟩
    | forget hf => exact ⟨hf.blocks, hf.attestations⟩

theorem sublist_of_quietly (hq : Quietly t t') :
    t'.blocks.Sublist t.blocks ∧ t'.attestations.Sublist t.attestations := by
  induction hq with
  | refl => exact ⟨List.Sublist.refl _, List.Sublist.refl _⟩
  | tail _ hq ih => exact ⟨hq.sublist.1.trans ih.1, hq.sublist.2.trans ih.2⟩

theorem quietly_of_trims (ht : Relation.ReflTransGen Trim t t') : Quietly t t' :=
  Relation.ReflTransGen.mono (fun _ _ => Quiet.trim) _ _ ht

theorem filter_new_of_sublist {α : Type} [DecidableEq α] {before after : List α} (h : after.Sublist before) :
    after.filter (· ∉ before) = [] :=
  List.filter_eq_nil_iff.mpr fun a ha => by simpa using h.subset ha

theorem filter_new_of_append {α : Type} [DecidableEq α] {before : List α} {a : α} (h : a ∉ before) :
    (before ++ [a]).filter (· ∉ before) = [a] := by
  rw [List.filter_append, filter_new_of_sublist (List.Sublist.refl before)]
  simp [h]

theorem extend_of_quietly (hq : Quietly t t') : h.extend t t' = h := by
  obtain ⟨hb, ha⟩ := sublist_of_quietly hq
  simp only [History.extend, filter_new_of_sublist hb, filter_new_of_sublist ha, List.append_nil]

/-- Whatever a request does, the tables go on guarding everything that was ever recorded. -/
theorem Guards.change (g : Guards t h) (hc : Change t o t') : Guards t' (h.extend t t') := by
  cases hc with
  | quiet hq =>
    rw [extend_of_quietly hq]
    exact g.quietly hq
  | @block c t₁ hq hb hv hs hr =>
    have g₁ := g.quietly hq
    have hn : c.row ∉ t.blocks := fun hm => g₁.block_apart hv _ (g.blocks.subset hm) rfl rfl
    have he : h.extend t (t₁.addBlock c.row) = { h with blocks := h.blocks ++ [c.row] } := by
      simp only [History.extend, Tables.addBlock, hb, filter_new_of_append hn,
        filter_new_of_sublist (sublist_of_quietly hq).2, List.append_nil]
    rw [he]
    exact g₁.addBlock hv hs hr
  | @attestation c t₁ hq ha hv ht hr =>
    have g₁ := g.quietly hq
    have hn : c.row ∉ t.attestations := fun hm => (g₁.attestation_apart hv _ (g.attestations.subset hm) rfl).1 rfl
    have he : h.extend t (t₁.addAttestation c.row) = { h with attestations := h.attestations ++ [c.row] } := by
      simp only [History.extend, Tables.addAttestation, ha, filter_new_of_append hn,
        filter_new_of_sublist (sublist_of_quietly hq).1, List.append_nil]
    rw [he]
    exact g₁.addAttestation hv ht hr

theorem Change.idOf (hc : Change t o t') {key : PublicKey} {id : ValidatorId} (hk : t.idOf key = some id) :
    t'.idOf key = some id := by
  cases hc with
  | quiet hq => exact idOf_of_quietly hq hk
  | block hq =>
    have hk' := idOf_of_quietly hq hk
    exact hk'
  | attestation hq =>
    have hk' := idOf_of_quietly hq hk
    exact hk'

/-- Every block that the tables gain is the one that was offered. -/
theorem Change.mem_blocks (hc : Change t o t') {r : BlockRow} (hr : r ∈ t'.blocks) :
    r ∈ t.blocks ∨ ∃ c, o = .block c ∧ r = c.row := by
  cases hc with
  | quiet hq => exact .inl ((sublist_of_quietly hq).1.subset hr)
  | attestation hq => exact .inl ((sublist_of_quietly hq).1.subset hr)
  | block hq =>
    rcases List.mem_append.mp hr with hr | hr
    · exact .inl ((sublist_of_quietly hq).1.subset hr)
    · exact .inr ⟨_, rfl, List.mem_singleton.mp hr⟩

theorem Change.mem_attestations (hc : Change t o t') {r : AttestationRow} (hr : r ∈ t'.attestations) :
    r ∈ t.attestations ∨ ∃ c, o = .attestation c ∧ r = c.row := by
  cases hc with
  | quiet hq => exact .inl ((sublist_of_quietly hq).2.subset hr)
  | block hq => exact .inl ((sublist_of_quietly hq).2.subset hr)
  | attestation hq =>
    rcases List.mem_append.mp hr with hr | hr
    · exact .inl ((sublist_of_quietly hq).2.subset hr)
    · exact .inr ⟨_, rfl, List.mem_singleton.mp hr⟩

/-- The history goes on with the tables, and every attestation that it gains is the one that was offered. -/
theorem Change.goesOn (hc : Change t o t') (g : Guards t h) :
    Guards t' (h.extend t t') ∧ h.blocks ⊆ (h.extend t t').blocks ∧
      h.attestations ⊆ (h.extend t t').attestations ∧
      ∀ r ∈ (h.extend t t').attestations, r ∈ h.attestations ∨ ∃ c, o = .attestation c ∧ r = c.row := by
  refine ⟨g.change hc, List.subset_append_left _ _, List.subset_append_left _ _, fun r hr => ?_⟩
  rcases List.mem_append.mp hr with hr | hr
  · exact .inl hr
  · obtain ⟨hr, hnew⟩ := List.mem_filter.mp hr
    exact .inr ((hc.mem_attestations hr).resolve_left (by simpa using hnew))

end Tables

def Opens (t t' : Tables) : Prop := t' = t ∨ t.genesis = none ∧ ∃ root, t' = bound t root

section Decisions
variable {db db' : Database} {h : History}

theorem Opens.quietly {t t' : Tables} (ho : Opens t t') : Quietly t t' := by
  rcases ho with rfl | ⟨hg, root, rfl⟩
  · exact .refl
  · exact .single (.bind root hg)

theorem Opens.rows {t t' : Tables} (ho : Opens t t') : t'.blocks = t.blocks ∧ t'.attestations = t.attestations := by
  rcases ho with rfl | ⟨hg, root, rfl⟩
  · exact ⟨rfl, rfl⟩
  · exact ⟨rfl, rfl⟩

theorem checkGenesis_opens (hm : db.missing = []) (hw : db.tables.WellFormed) {root : Root} {belongs : Bool}
    (ho : Decide.checkGenesis root db = .ok (belongs, db')) :
    ∃ t', Opens db.tables t' ∧ db' = { db with tables := t' } := by
  rw [checkGenesis_apply hm hw] at ho
  cases hg : db.tables.genesis with
  | some bytes =>
    simp only [hg] at ho
    cases ho
    exact ⟨_, .inl rfl, rfl⟩
  | none =>
    simp only [hg] at ho
    split at ho
    · cases ho
    · cases ho
      exact ⟨_, .inr ⟨hg, root, rfl⟩, rfl⟩

/-- A conclusion leaves everything as it is, or records what is permitted. -/
theorem conclude_cases {verdict : Verdict} {registered : Bool} {recorded : Tables} {d : Decision}
    (hc : conclude db verdict registered recorded = .ok (d, db')) :
    (db' = db ∧ (d = .allow → verdict = .alreadySigned)) ∨
      (verdict = .record ∧ registered = true ∧ d = .allow ∧ db' = { db with tables := recorded }) := by
  cases verdict with
  | refuse reason =>
    cases hc
    exact .inl ⟨rfl, fun hd => by cases hd⟩
  | alreadySigned =>
    cases hc
    exact .inl ⟨rfl, fun _ => rfl⟩
  | record =>
    simp only [conclude] at hc
    split at hc
    · cases hc
    · split at hc
      · rename_i hr
        cases hc
        exact .inr ⟨rfl, hr, rfl, rfl⟩
      · cases hc

theorem block_effect (hm : db.missing = []) (g : Guards db.tables h) {genesis : Option Root} {c : BlockProposal}
    {d : Decision} (hd : Decide.block genesis c db = .ok (d, db')) :
    ∃ t', Change db.tables (.block c) t' ∧ db' = { db with tables := t' } ∧
      (d = .allow → ∃ r ∈ t'.blocksOf c.validator, r.slot = (c.slot : Int) ∧ r.root = c.root.toList) := by
  -- The decision proper starts from tables that are opened to its chain.
  have decide_from {t₁ : Tables} (ho : Opens db.tables t₁)
      (hd : Decide.block none c { db with tables := t₁ } = .ok (d, db')) :
      ∃ t', Change db.tables (.block c) t' ∧ db' = { db with tables := t' } ∧
        (d = .allow → ∃ r ∈ t'.blocksOf c.validator, r.slot = (c.slot : Int) ∧ r.root = c.root.toList) := by
    have g₁ := g.quietly ho.quietly
    rw [@block_apply { db with tables := t₁ } hm g₁.wellFormed] at hd
    split at hd
    · cases hd
    · rename_i hs
      rcases conclude_cases hd with ⟨rfl, hallow⟩ | ⟨hv, hr, -, rfl⟩
      · exact ⟨t₁, .quiet ho.quietly, rfl, fun ha => Scan.block_alreadySigned (hallow ha)⟩
      · refine ⟨_, .block ho.quietly ho.rows.1 hv (Nat.not_le.mp hs) hr, rfl, fun _ => ?_⟩
        exact ⟨c.row, Tables.mem_blocksOf.mpr ⟨List.mem_append_right _ (List.mem_singleton_self _), rfl⟩, rfl, rfl⟩
  cases genesis with
  | none => exact decide_from (.inl rfl) hd
  | some root =>
    rw [block_onChain] at hd
    cases hg : Decide.checkGenesis root db with
    | error cause =>
      rw [Transaction.bind_of_error hg] at hd
      cases hd
    | ok result =>
      obtain ⟨belongs, db₁⟩ := result
      obtain ⟨t₁, ho, rfl⟩ := checkGenesis_opens hm g.wellFormed hg
      rw [Transaction.bind_of_ok hg] at hd
      cases belongs with
      | true => exact decide_from ho hd
      | false =>
        cases hd
        exact ⟨t₁, .quiet ho.quietly, rfl, fun ha => by cases ha⟩

theorem attestation_effect (hm : db.missing = []) (g : Guards db.tables h) {genesis : Option Root}
    {c : Attestation} (hle : c.source ≤ c.target) {d : Decision}
    (hd : Decide.attestation genesis c db = .ok (d, db')) :
    ∃ t', Change db.tables (.attestation c) t' ∧ db' = { db with tables := t' } ∧
      (d = .allow → ∃ r ∈ t'.attestationsOf c.validator, r.target = (c.target : Int) ∧ r.root = c.root.toList) := by
  have decide_from {t₁ : Tables} (ho : Opens db.tables t₁)
      (hd : Decide.attestation none c { db with tables := t₁ } = .ok (d, db')) :
      ∃ t', Change db.tables (.attestation c) t' ∧ db' = { db with tables := t' } ∧
        (d = .allow → ∃ r ∈ t'.attestationsOf c.validator,
          r.target = (c.target : Int) ∧ r.root = c.root.toList) := by
    have g₁ := g.quietly ho.quietly
    rw [@attestation_apply { db with tables := t₁ } hm g₁.wellFormed c hle] at hd
    split at hd
    · cases hd
    · rename_i ht
      rcases conclude_cases hd with ⟨rfl, hallow⟩ | ⟨hv, hr, -, rfl⟩
      · exact ⟨t₁, .quiet ho.quietly, rfl, fun ha => Scan.attestation_alreadySigned (hallow ha)⟩
      · refine ⟨_, .attestation ho.quietly ho.rows.2 hv (Nat.not_le.mp ht) hr, rfl, fun _ => ?_⟩
        exact ⟨c.row, Tables.mem_attestationsOf.mpr ⟨List.mem_append_right _ (List.mem_singleton_self _), rfl⟩,
          rfl, rfl⟩
  cases genesis with
  | none => exact decide_from (.inl rfl) hd
  | some root =>
    rw [attestation_onChain] at hd
    cases hg : Decide.checkGenesis root db with
    | error cause =>
      rw [Transaction.bind_of_error hg] at hd
      cases hd
    | ok result =>
      obtain ⟨belongs, db₁⟩ := result
      obtain ⟨t₁, ho, rfl⟩ := checkGenesis_opens hm g.wellFormed hg
      rw [Transaction.bind_of_ok hg] at hd
      cases belongs with
      | true => exact decide_from ho hd
      | false =>
        cases hd
        exact ⟨t₁, .quiet ho.quietly, rfl, fun ha => by cases ha⟩

end Decisions

/-- What a request leaves of an engine: changed tables, counters, and numbers at hand that agree with the
tables. -/
structure Engine.Leads (e : Engine) (change : Tables → Prop) (e' : Engine) : Prop where
  change : change e'.tables
  same : e' = { e.withTables e'.tables with
    metrics := e'.metrics, service := { e.service with known := e'.service.known } }
  coherent : e.service.Coherent e.tables → e'.service.Coherent e'.tables

namespace Engine.Leads
variable {e e' e'' : Engine} {R S : Tables → Prop}

theorem mono (hl : e.Leads R e') (hr : ∀ {t}, R t → S t) : e.Leads S e' := ⟨hr hl.change, hl.same, hl.coherent⟩

theorem trans (hl : e.Leads R e') (hs : e'.Leads S e'') : e.Leads S e'' where
  change := hs.change
  same := by
    rw [hs.same, hl.same]
  coherent hc := hs.coherent (hl.coherent hc)

theorem counted (hl : e.Leads R e') (metrics : Metrics) : e.Leads R { e' with metrics } where
  change := hl.change
  same := by
    rw [hl.same]
  coherent := hl.coherent

theorem installed (hl : e.Leads R e') (hm : e.database.missing = []) : e'.database.missing = [] := by
  rw [hl.same]
  exact hm

end Engine.Leads

section Requests
variable {α : Type} {e : Engine} {h : History}

theorem leads_of_tables {change : Tables → Prop} {e' : Engine} {t' : Tables} {metrics : Metrics} (hc : change t')
    (hk : ∀ {key id}, e.tables.idOf key = some id → t'.idOf key = some id)
    (he : e' = { e.withTables t' with metrics }) : e.Leads change e' := by
  subst he
  exact ⟨hc, rfl, fun hcoherent key id hknown => hk (hcoherent key id hknown)⟩

theorem transact_reads {operation : String} {body : Transaction α}
    (hb : ∀ a db', body e.database = .ok (a, db') → db' = e.database) :
    ∃ metrics, (transact operation body e).2 = { e with metrics } := by
  rcases transactOn_cases (·.decisions) operation body e with ⟨a, db', ho, hr⟩ | ⟨cause, metrics, hr⟩
  · obtain rfl := hb a db' ho
    exact ⟨e.metrics, congrArg Prod.snd hr⟩
  · exact ⟨metrics, congrArg Prod.snd hr⟩

theorem counted_apply (artifact : Artifact) (d : Decision) (e : Engine) :
    ∃ metrics, Request.counted artifact d e = (.ok d, { e with metrics }) := by
  cases d with
  | allow => exact ⟨_, rfl⟩
  | deny reason => exact ⟨_, rfl⟩

theorem maySignBlock_effect (hm : e.database.missing = []) (g : Guards e.tables h) (genesis : Option Root)
    (c : BlockProposal) :
    ∃ t' metrics, Change e.tables (.block c) t' ∧
      (Request.maySignBlock genesis c e).2 = { e.withTables t' with metrics } ∧
      ((Request.maySignBlock genesis c e).1 = .ok .allow →
        ∃ r ∈ t'.blocksOf c.validator, r.slot = (c.slot : Int) ∧ r.root = c.root.toList) := by
  unfold Request.maySignBlock
  rcases transactOn_cases (·.decisions) "may_sign_block" (Decide.block genesis c) e with
    ⟨d, db', ho, hr⟩ | ⟨cause, metrics, hr⟩
  · obtain ⟨t', hc, rfl, hback⟩ := block_effect hm g ho
    obtain ⟨metrics, hd⟩ := counted_apply .block d (e.withTables t')
    have hr : transact "may_sign_block" (Decide.block genesis c) e = (.ok d, e.withTables t') := hr
    rw [Request.bind_of_ok hr, hd]
    exact ⟨t', metrics, hc, rfl, fun ha => hback (Except.ok.inj ha)⟩
  · have hr : transact "may_sign_block" (Decide.block genesis c) e = (.error cause, { e with metrics }) := hr
    rw [Request.bind_of_error hr]
    exact ⟨e.tables, metrics, .quiet .refl, rfl, fun ha => by cases ha⟩

theorem maySignAttestation_effect (hm : e.database.missing = []) (g : Guards e.tables h) (genesis : Option Root)
    (c : Attestation) :
    ∃ t' metrics, Change e.tables (.attestation c) t' ∧
      (Request.maySignAttestation genesis c e).2 = { e.withTables t' with metrics } ∧
      ((Request.maySignAttestation genesis c e).1 = .ok .allow →
        ∃ r ∈ t'.attestationsOf c.validator, r.target = (c.target : Int) ∧ r.root = c.root.toList) := by
  unfold Request.maySignAttestation
  by_cases hlt : c.target < c.source
  · rw [if_pos hlt]
    exact ⟨e.tables, _, .quiet .refl, rfl, fun ha => by cases ha⟩
  rw [if_neg hlt]
  rcases transactOn_cases (·.decisions) "may_sign_attestation" (Decide.attestation genesis c) e with
    ⟨d, db', ho, hr⟩ | ⟨cause, metrics, hr⟩
  · obtain ⟨t', hc, rfl, hback⟩ := attestation_effect hm g (Nat.not_lt.mp hlt) ho
    obtain ⟨metrics, hd⟩ := counted_apply .attestation d (e.withTables t')
    have hr : transact "may_sign_attestation" (Decide.attestation genesis c) e = (.ok d, e.withTables t') := hr
    rw [Request.bind_of_ok hr, hd]
    exact ⟨t', metrics, hc, rfl, fun ha => hback (Except.ok.inj ha)⟩
  · have hr : transact "may_sign_attestation" (Decide.attestation genesis c) e =
        (.error cause, { e with metrics }) := hr
    rw [Request.bind_of_error hr]
    exact ⟨e.tables, metrics, .quiet .refl, rfl, fun ha => by cases ha⟩

theorem checkGenesis_effect (hm : e.database.missing = []) (g : Guards e.tables h) (root : Root) :
    ∃ t' metrics, Quietly e.tables t' ∧ (Request.checkGenesis root e).2 = { e.withTables t' with metrics } := by
  rcases transactOn_cases (·.decisions) "check_genesis" (Decide.checkGenesis root) e with
    ⟨belongs, db', ho, hr⟩ | ⟨cause, metrics, hr⟩
  · obtain ⟨t', hopens, rfl⟩ := checkGenesis_opens hm g.wellFormed ho
    exact ⟨t', e.metrics, hopens.quietly, congrArg Prod.snd hr⟩
  · exact ⟨e.tables, metrics, .refl, congrArg Prod.snd hr⟩

theorem genesisExists_effect (hm : e.database.missing = []) (hw : e.tables.WellFormed) :
    ∃ metrics, (Request.genesisExists e).2 = { e with metrics } := by
  apply transact_reads
  intro found db' ho
  rw [genesisExists_apply hm hw] at ho
  cases ho
  rfl

theorem allIds_effect (hm : e.database.missing = []) : ∃ metrics, (Request.allIds e).2 = { e with metrics } := by
  apply transact_reads
  intro ids db' ho
  rw [allValidators_apply hm] at ho
  cases ho
  rfl

theorem remember_apply (key : PublicKey) (id : ValidatorId) (e : Engine) :
    Request.remember key id e = (.ok (), { e with service := e.service.remember key id }) := rfl

/-- Keeping many numbers at hand changes nothing but those. -/
theorem rememberAll_apply (pairs : List (PublicKey × ValidatorId)) (e : Engine) :
    (pairs.forM fun (key, id) => Request.remember key id) e =
      (.ok (), { e with service := e.service.rememberAll pairs }) := by
  induction pairs generalizing e with
  | nil => rfl
  | cons pair rest ih => exact (Request.bind_of_ok (remember_apply pair.1 pair.2 e)).trans (ih _)

theorem registerAll_effect (hm : e.database.missing = []) {keys : List PublicKey} {ids : List ValidatorId}
    {db' : Database} (ho : keys.mapM Transaction.registerValidator e.database = .ok (ids, db')) :
    ids = (enrolAll e.tables keys).1 ∧ db' = { e.database with tables := (enrolAll e.tables keys).2 } := by
  rw [registerAll_apply (Transaction.not_mem_missing hm _)] at ho
  split at ho
  · cases ho
  · cases ho
    exact ⟨rfl, rfl⟩

theorem registerValidators_leads (hm : e.database.missing = []) (keys : List PublicKey) :
    e.Leads (Quietly e.tables) (Request.registerValidators keys e).2 := by
  unfold Request.registerValidators
  rcases transactOn_cases (·.decisions) "register_validators" (keys.mapM Transaction.registerValidator) e with
    ⟨ids, db', ho, hr⟩ | ⟨cause, metrics, hr⟩
  · obtain ⟨rfl, rfl⟩ := registerAll_effect hm ho
    have hr : transact "register_validators" (keys.mapM Transaction.registerValidator) e =
        (.ok (enrolAll e.tables keys).1, e.withTables (enrolAll e.tables keys).2) := hr
    rw [Request.bind_of_ok hr, Request.bind_of_ok (rememberAll_apply _ _)]
    have hq := enrolAll_quietly e.tables keys
    refine ⟨hq, ?_, fun he => ?_⟩
    · rw [rememberAll_rest]
      rfl
    · have he' : e.service.Coherent (enrolAll e.tables keys).2 := fun key id hk => idOf_of_quietly hq (he key id hk)
      exact he'.rememberAll (idOf_enrolAll e.tables keys)
  · have hr : transact "register_validators" (keys.mapM Transaction.registerValidator) e =
        (.error cause, { e with metrics }) := hr
    rw [Request.bind_of_error hr]
    exact ⟨.refl, rfl, id⟩

/-- What the lookup of a number with registration does; the number it gives is on record. -/
theorem resolveValidator_leads (hm : e.database.missing = []) (key : PublicKey) :
    e.Leads (Quietly e.tables) (Request.resolveValidator key e).2 ∧
      (e.service.Coherent e.tables → ∀ id, (Request.resolveValidator key e).1 = .ok id →
        (Request.resolveValidator key e).2.tables.idOf key = some id) := by
  unfold Request.resolveValidator
  rw [Request.get_bind]
  cases hk : e.service.known? key with
  | some id =>
    refine ⟨⟨.refl, rfl, fun hc => hc⟩, fun hc other ho => ?_⟩
    cases ho
    exact hc key id hk
  | none =>
    rcases transactOn_cases (·.decisions) "resolve_validator" (Transaction.registerValidator key) e with
      ⟨id, db', ho, hr⟩ | ⟨cause, metrics, hr⟩
    · rw [registerValidator_apply (Transaction.not_mem_missing hm _)] at ho
      split at ho
      · cases ho
      · cases ho
        have hr : transact "resolve_validator" (Transaction.registerValidator key) e =
            (.ok (enrol e.tables key).1, e.withTables (enrol e.tables key).2) := hr
        have hq := enrol_quietly e.tables key
        have hid := idOf_enrol e.tables key
        dsimp only
        rw [Request.bind_of_ok hr, Request.bind_of_ok (remember_apply _ _ _)]
        refine ⟨⟨hq, rfl, fun hc => ?_⟩, fun hc other ho => ?_⟩
        · have hc' : e.service.Coherent (enrol e.tables key).2 :=
            fun key id hk => idOf_of_quietly hq (hc key id hk)
          exact hc'.remember hid
        · cases ho
          exact hid
    · have hr : transact "resolve_validator" (Transaction.registerValidator key) e =
          (.error cause, { e with metrics }) := hr
      dsimp only
      rw [Request.bind_of_error hr]
      exact ⟨⟨.refl, rfl, id⟩, fun _ other ho => by cases ho⟩

theorem validatorId_leads (hm : e.database.missing = []) (key : PublicKey) :
    e.Leads (Quietly e.tables) (Request.validatorId key e).2 := by
  unfold Request.validatorId
  rw [Request.get_bind]
  cases hk : e.service.known? key with
  | some id => exact ⟨.refl, rfl, fun hc => hc⟩
  | none =>
    rcases transactOn_cases (·.decisions) "find_validator" (Transaction.findValidator key) e with
      ⟨found, db', ho, hr⟩ | ⟨cause, metrics, hr⟩
    · rw [findValidator_apply (Transaction.not_mem_missing hm _)] at ho
      cases ho
      have hr : transact "find_validator" (Transaction.findValidator key) e = (.ok (e.tables.idOf key), e) := hr
      dsimp only
      rw [Request.bind_of_ok hr]
      cases hid : e.tables.idOf key with
      | none => exact ⟨.refl, rfl, id⟩
      | some id => exact ⟨.refl, rfl, fun hc => hc.remember hid⟩
    · have hr : transact "find_validator" (Transaction.findValidator key) e = (.error cause, { e with metrics }) := hr
      dsimp only
      rw [Request.bind_of_error hr]
      exact ⟨.refl, rfl, id⟩

end Requests
end ValidatorSigner.Protection
