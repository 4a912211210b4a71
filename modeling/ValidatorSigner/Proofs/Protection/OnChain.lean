import ValidatorSigner.Proofs.Protection.Untouched

/-! # Decisions on a chain

A decision on a chain is the decision outside any chain behind a check of the chain. Where the tables belong
to another chain, the check ends it. Elsewhere it gives the same answer and the same tables, and a decision
that is no error leaves them bound to the chain.
-/
namespace ValidatorSigner.Store

def Tables.BelongsElsewhere (t : Tables) (root : Root) : Prop := ∃ bytes ∈ t.genesis, bytes ≠ root.toList

instance (t : Tables) (root : Root) : Decidable (t.BelongsElsewhere root) :=
  inferInstanceAs (Decidable (∃ bytes ∈ t.genesis, bytes ≠ root.toList))

end ValidatorSigner.Store

namespace ValidatorSigner.Protection
open Store Telemetry

def Engine.refuses (e : Engine) (artifact : Artifact) (reason : Refusal) :
    Except ProtectionError Decision × Engine :=
  (.ok (.deny reason), { e with metrics := e.metrics.add (.prevented artifact reason.label) 1 })

def Engine.mismatches (e : Engine) (artifact : Artifact) (operation : String) :
    Except ProtectionError Decision × Engine :=
  match e.obstacle? e.service.decisions with
  | some fault => e.failed operation (.access fault)
  | none => e.refuses artifact .genesisMismatch

def bindTo (root : Root) (db : Database) : Database := { db with tables := bound db.tables root }

def binding (root : Root) : Except ProtectionError Decision × Engine → Except ProtectionError Decision × Engine
  | (.ok d, e) => (.ok d, e.withTables (bound e.tables root))
  | (.error cause, e) => (.error cause, e)

section Transactions
variable {t : Tables} {db : Database} {root : Root}

theorem bound_of_genesis (hg : t.genesis = some root.toList) : bound t root = t := by
  rw [bound, ← hg]

theorem genesis_cases (h : ¬ t.BelongsElsewhere root) : t.genesis = none ∨ t.genesis = some root.toList := by
  cases hg : t.genesis with
  | none => exact .inl rfl
  | some bytes =>
    have hb : bytes = root.toList := Decidable.byContradiction fun hne => h ⟨bytes, hg, hne⟩
    exact .inr (congrArg some hb)

theorem opens_bound (h : ¬ t.BelongsElsewhere root) : Opens t (bound t root) := by
  rcases genesis_cases h with hg | hg
  · exact .inr ⟨hg, root, rfl⟩
  · exact .inl (bound_of_genesis hg)

theorem checkGenesis_elsewhere (hm : db.missing = []) (hw : db.tables.WellFormed)
    (h : db.tables.BelongsElsewhere root) : Decide.checkGenesis root db = .ok (false, db) := by
  obtain ⟨bytes, hg, hne⟩ := h
  have hg : db.tables.genesis = some bytes := hg
  rw [checkGenesis_apply hm hw]
  simp only [hg, hne, decide_false]

theorem checkGenesis_belongs (hm : db.missing = []) (hw : db.tables.WellFormed) (hr : db.readOnly = false)
    (h : ¬ db.tables.BelongsElsewhere root) :
    Decide.checkGenesis root db = .ok (true, bindTo root db) := by
  rw [checkGenesis_apply hm hw, bindTo]
  rcases genesis_cases h with hg | hg
  · simp only [hg, hr, Bool.false_eq_true, if_false]
  · rw [bound_of_genesis hg]
    simp only [hg, decide_true]

/-- A conclusion is drawn over bound tables as over those that are not. -/
theorem conclude_bound (root : Root) (verdict : Verdict) (registered : Bool) (recorded : Tables) :
    conclude (bindTo root db) verdict registered (bound recorded root) =
      (conclude db verdict registered recorded).map (Prod.map id (bindTo root)) := by
  cases verdict with
  | refuse reason => rfl
  | alreadySigned => rfl
  | record =>
    dsimp only [conclude, bindTo]
    by_cases hr : db.readOnly = true
    · rw [if_pos hr, if_pos hr]
      rfl
    rw [if_neg hr, if_neg hr]
    cases registered with
    | true => rfl
    | false => rfl

/-- The plain decision does not look at the chain. -/
theorem block_bound (hm : db.missing = []) (hw : db.tables.WellFormed) (hb : (bound db.tables root).WellFormed)
    (c : BlockProposal) :
    Decide.block none c (bindTo root db) = (Decide.block none c db).map (Prod.map id (bindTo root)) := by
  rw [block_apply hm hw, @block_apply (bindTo root db) hm hb]
  by_cases hs : storeBound ≤ c.slot
  · rw [if_pos hs, if_pos hs]
    rfl
  · have hscan : Scan.block (bindTo root db).tables c = Scan.block db.tables c := rfl
    rw [if_neg hs, if_neg hs, hscan]
    exact conclude_bound root _ _ (db.tables.addBlock c.row)

theorem attestation_bound (hm : db.missing = []) (hw : db.tables.WellFormed)
    (hb : (bound db.tables root).WellFormed) {c : Attestation} (hle : c.source ≤ c.target) :
    Decide.attestation none c (bindTo root db) =
      (Decide.attestation none c db).map (Prod.map id (bindTo root)) := by
  rw [attestation_apply hm hw hle, @attestation_apply (bindTo root db) hm hb c hle]
  by_cases ht : storeBound ≤ c.target
  · rw [if_pos ht, if_pos ht]
    rfl
  · have hscan : Scan.attestation (bindTo root db).tables c = Scan.attestation db.tables c := rfl
    rw [if_neg ht, if_neg ht, hscan]
    exact conclude_bound root _ _ (db.tables.addAttestation c.row)

end Transactions

namespace Request

theorem keeps_genesis_block (c : BlockProposal) : Keeps Tables.genesis (maySignBlock none c) :=
  keeps_maySignBlock (fun _ hroot => by cases hroot) (fun _ _ => rfl) c

theorem keeps_genesis_attestation (c : Attestation) : Keeps Tables.genesis (maySignAttestation none c) :=
  keeps_maySignAttestation (fun _ hroot => by cases hroot) (fun _ _ => rfl) c

end Request

section Requests
variable {e : Engine} {h : History} {root : Root}

theorem decided_apply (artifact : Artifact) (operation : String) (body : Transaction Decision) (e : Engine) :
    (transact operation body >>= Request.counted artifact) e =
      match e.obstacle? e.service.decisions, body e.database with
      | some fault, _ => e.failed operation (.access fault)
      | none, .error cause => e.failed operation cause
      | none, .ok (d, db) => Request.counted artifact d { e with database := db } := by
  have ha : transact operation body e = _ := transactOn_apply (·.decisions) operation body e
  cases hf : e.obstacle? e.service.decisions with
  | some fault =>
    simp only [hf] at ha
    exact Request.bind_of_error ha
  | none =>
    simp only [hf] at ha
    cases hb : body e.database with
    | error cause =>
      simp only [hb] at ha
      exact Request.bind_of_error ha
    | ok result =>
      simp only [hb] at ha
      exact Request.bind_of_ok ha

theorem counted_bound (artifact : Artifact) (d : Decision) (e : Engine) :
    Request.counted artifact d (e.withTables (bound e.tables root)) = binding root (Request.counted artifact d e) := by
  cases d with
  | allow => rfl
  | deny reason => rfl

/-- A request whose transaction checks the chain is the plain one behind that check. -/
theorem decided_guarded (hs : e.Sound h) (hr : e.database.readOnly = false) (artifact : Artifact) (operation : String)
    {body guarded : Transaction Decision}
    (hguarded : guarded = do if ← Decide.checkGenesis root then body else return .deny .genesisMismatch)
    (hbody : (bound e.tables root).WellFormed →
      body (bindTo root e.database) = (body e.database).map (Prod.map id (bindTo root))) :
    (transact operation guarded >>= Request.counted artifact) e =
      if e.tables.BelongsElsewhere root then e.mismatches artifact operation
      else binding root ((transact operation body >>= Request.counted artifact) e) := by
  have hw := hs.guards.wellFormed
  rw [decided_apply, decided_apply, Engine.mismatches, hguarded]
  cases hf : e.obstacle? e.service.decisions with
  | some fault =>
    dsimp only
    by_cases helse : e.tables.BelongsElsewhere root
    · rw [if_pos helse]
    · rw [if_neg helse]
      rfl
  | none =>
    by_cases helse : e.tables.BelongsElsewhere root
    · have hcheck := checkGenesis_elsewhere hs.installed hw helse
      rw [if_pos helse, Transaction.bind_of_ok hcheck]
      rfl
    · -- The check binds the tables first; what the body makes of them is bound as well.
      have hcheck := checkGenesis_belongs hs.installed hw hr helse
      have hopened := (hs.guards.quietly (opens_bound helse).quietly).wellFormed
      rw [if_neg helse, Transaction.bind_of_ok hcheck]
      simp only [if_true]
      rw [hbody hopened]
      cases body e.database with
      | error cause => rfl
      | ok result => exact counted_bound artifact result.1 { e with database := result.2 }

theorem maySignBlock_onChain (hs : e.Sound h) (hr : e.database.readOnly = false) (root : Root) (c : BlockProposal) :
    Request.maySignBlock (some root) c e =
      if e.tables.BelongsElsewhere root then e.mismatches .block "may_sign_block"
      else binding root (Request.maySignBlock none c e) :=
  decided_guarded hs hr .block "may_sign_block" (block_onChain root c) fun hb =>
    block_bound hs.installed hs.guards.wellFormed hb c

theorem maySignAttestation_inverted (genesis : Option Root) {c : Attestation} (hlt : c.target < c.source)
    (e : Engine) : Request.maySignAttestation genesis c e = e.refuses .attestation .invalidEpochOrder := by
  rw [Request.maySignAttestation, if_pos hlt]
  rfl

theorem maySignAttestation_onChain (hs : e.Sound h) (hr : e.database.readOnly = false) (root : Root) {c : Attestation}
    (hle : c.source ≤ c.target) :
    Request.maySignAttestation (some root) c e =
      if e.tables.BelongsElsewhere root then e.mismatches .attestation "may_sign_attestation"
      else binding root (Request.maySignAttestation none c e) := by
  have hn : ¬ c.target < c.source := Nat.not_lt.mpr hle
  rw [Request.maySignAttestation, Request.maySignAttestation, if_neg hn, if_neg hn]
  exact decided_guarded hs hr .attestation "may_sign_attestation" (attestation_onChain root c) fun hb =>
    attestation_bound hs.installed hs.guards.wellFormed hb hle

/-- In every store that a run can reach, a request on a chain is the plain request behind a check of the chain.
Another chain is refused before anything else but the order of epochs is looked at. An answer that is no error
binds the tables, which the plain request never does. -/
theorem onChain_eq_guarded (writeAhead locked : Bool) (metrics : Metrics) (service : Service)
    (script : List (Event × (ValidatorId → Rounds))) (root : Root) :
    let e := (({ engine := .fresh writeAhead locked metrics service } : Run).afterWithin script).engine
    (∀ c, Request.maySignBlock (some root) c e =
      if e.tables.BelongsElsewhere root then e.mismatches .block "may_sign_block"
      else binding root (Request.maySignBlock none c e)) ∧
    (∀ c, Request.maySignAttestation (some root) c e =
      if c.target < c.source then e.refuses .attestation .invalidEpochOrder
      else if e.tables.BelongsElsewhere root then e.mismatches .attestation "may_sign_attestation"
      else binding root (Request.maySignAttestation none c e)) ∧
    (∀ c, c.target < c.source → Request.maySignAttestation none c e = e.refuses .attestation .invalidEpochOrder) ∧
    (∀ c, (Request.maySignBlock none c e).2.tables.genesis = e.tables.genesis) ∧
    ∀ c, (Request.maySignAttestation none c e).2.tables.genesis = e.tables.genesis := by
  intro e
  obtain ⟨hs, hr⟩ := Run.reached writeAhead locked metrics service script
  refine ⟨fun c => maySignBlock_onChain hs.engine hr root c, fun c => ?_,
    fun c hlt => maySignAttestation_inverted none hlt e, fun c => Request.keeps_genesis_block c e,
    fun c => Request.keeps_genesis_attestation c e⟩
  by_cases hlt : c.target < c.source
  · rw [if_pos hlt]
    exact maySignAttestation_inverted (some root) hlt e
  · rw [if_neg hlt]
    exact maySignAttestation_onChain hs.engine hr root (Nat.not_lt.mp hlt)

def ownRoot : Root := ⟨List.replicate 32 1, rfl⟩

def otherRoot : Root := ⟨List.replicate 32 2, rfl⟩

def boundScript : List (Event × (ValidatorId → Rounds)) := [(.request (.checkGenesis ownRoot), fun _ => .all)]

/-- Another chain is refused where the own one gets the error of the plain request. -/
theorem onChain_eq_guarded_unknown :
    let e := (({ engine := .fresh false false {} {} } : Run).afterWithin boundScript).engine
    Request.maySignBlock (some otherRoot) ⟨9, storeBound, otherRoot⟩ e = e.refuses .block .genesisMismatch ∧
      Request.maySignBlock (some ownRoot) ⟨9, storeBound, ownRoot⟩ e = Request.maySignBlock none ⟨9, storeBound, ownRoot⟩ e ∧
      (Request.maySignAttestation (some ownRoot) ⟨9, 0, 1, ownRoot⟩ e).1 =
        .error (.infrastructure "may_sign_attestation" 1 (.constraint "FOREIGN KEY constraint failed")) ∧
      (Request.maySignAttestation (some otherRoot) ⟨9, 1, 0, otherRoot⟩ e).1 = .ok (.deny .invalidEpochOrder) := by
  intro e
  obtain ⟨hother, hvoteOther, -⟩ := onChain_eq_guarded false false {} {} boundScript otherRoot
  obtain ⟨hown, hvote, -⟩ := onChain_eq_guarded false false {} {} boundScript ownRoot
  have hbelongs : ¬ e.tables.BelongsElsewhere ownRoot := by decide
  have helse : e.tables.BelongsElsewhere otherRoot := by decide
  refine ⟨?_, ?_, ?_, ?_⟩
  · rw [hother, if_pos helse]
    rfl
  · rw [hown, if_neg hbelongs]
    rfl
  · rw [hvote, if_neg (by decide), if_neg hbelongs]
    rfl
  · rw [hvoteOther, if_pos (by decide)]
    rfl

end Requests
end ValidatorSigner.Protection
