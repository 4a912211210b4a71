import ValidatorSigner.Proofs.Protection.OnChain

/-! # Decisions over any content

Tables may hold rows without a meaning. A decision that is no error is still the one that a full scan of all raw
rows makes: a row that it looks for and cannot decode ends it in an error. So such rows never stand between a
permission and the rows that would refuse it, and an answer outlives their removal.
-/
namespace ValidatorSigner.Store
open Protection

/-- No two rows share the columns that identify them. -/
structure Tables.Keyed (t : Tables) : Prop where
  blocks : ∀ a ∈ t.blocks, ∀ b ∈ t.blocks, a.validator = b.validator → a.slot = b.slot → a = b
  watermarks : ∀ a ∈ t.watermarks, ∀ b ∈ t.watermarks, a.validator = b.validator → a = b

/-- The same tables without some of the rows that stand for no record. -/
structure Tables.Mended (t t₀ : Tables) : Prop where
  validators : t₀.validators = t.validators
  blocks : ∃ keep : BlockRow → Bool, t₀.blocks = t.blocks.filter keep ∧ ∀ b : BlockProposal, keep b.row = true
  attestations : ∃ keep : AttestationRow → Bool,
    t₀.attestations = t.attestations.filter keep ∧ ∀ a : Attestation, keep a.row = true
  watermarks : ∃ keep : WatermarkRow → Bool,
    t₀.watermarks = t.watermarks.filter keep ∧ ∀ w : Watermark, keep w.row = true
  genesis : t₀.genesis = t.genesis ∨ t₀.genesis = none ∧ ∀ root : Root, t.genesis ≠ some root.toList

theorem filter_comm {α : Type} (p q : α → Bool) (rows : List α) : (rows.filter p).filter q = (rows.filter q).filter p := by
  rw [List.filter_filter, List.filter_filter]
  exact List.filter_congr fun r _ => Bool.and_comm _ _

theorem find?_filter_of_kept {α : Type} {keep test : α → Bool} {rows : List α}
    (h : ∀ a ∈ rows.find? test, keep a = true) : (rows.filter keep).find? test = rows.find? test := by
  rw [List.find?_filter]
  induction rows with
  | nil => rfl
  | cons a rest ih =>
    cases ht : test a with
    | true =>
      have hk := h a (by simp [ht])
      simp [ht, hk]
    | false =>
      rw [List.find?_cons_of_neg (by simp [ht])] at h
      simpa [ht] using ih h

section Mended
variable {t t₀ : Tables} {id : ValidatorId}

theorem Tables.Mended.keyed (hm : t.Mended t₀) (hk : t.Keyed) : t₀.Keyed := by
  obtain ⟨keepBlock, hb, -⟩ := hm.blocks
  obtain ⟨keepWatermark, hw, -⟩ := hm.watermarks
  constructor
  · intro a ha b hb'
    rw [hb] at ha hb'
    exact hk.blocks a (List.mem_filter.mp ha).1 b (List.mem_filter.mp hb').1
  · intro a ha b hb'
    rw [hw] at ha hb'
    exact hk.watermarks a (List.mem_filter.mp ha).1 b (List.mem_filter.mp hb').1

theorem Tables.Mended.watermarkOf (hm : t.Mended t₀) {found : Option Watermark}
    (h : t.watermarkOf id = found.map Watermark.row) : t₀.watermarkOf id = found.map Watermark.row := by
  obtain ⟨keep, hw, hrow⟩ := hm.watermarks
  unfold Tables.watermarkOf at h ⊢
  rw [hw, find?_filter_of_kept, h]
  intro w hf
  rw [h] at hf
  obtain ⟨v, -, rfl⟩ := Option.map_eq_some_iff.mp hf
  exact hrow v

theorem Tables.Mended.findBlock (hm : t.Mended t₀) {test : BlockRow → Bool} {found : Option BlockProposal}
    (h : (t.blocksOf id).find? test = found.map BlockProposal.row) :
    (t₀.blocksOf id).find? test = found.map BlockProposal.row := by
  obtain ⟨keep, hb, hrow⟩ := hm.blocks
  have hof : t₀.blocksOf id = (t.blocksOf id).filter keep := by
    unfold Tables.blocksOf
    rw [hb, filter_comm]
  rw [hof, find?_filter_of_kept, h]
  intro r hf
  rw [h] at hf
  obtain ⟨b, -, rfl⟩ := Option.map_eq_some_iff.mp hf
  exact hrow b

theorem Tables.Mended.gathers (hm : t.Mended t₀) {evidence : Evidence} {c : Attestation}
    (h : evidence.Gathers (t.attestationsOf id) c) : evidence.Gathers (t₀.attestationsOf id) c := by
  obtain ⟨keep, ha, hrow⟩ := hm.attestations
  have hof : t₀.attestationsOf id = (t.attestationsOf id).filter keep := by
    unfold Tables.attestationsOf
    rw [ha, filter_comm]
  have hfind {test : AttestationRow → Bool} {found : Option Attestation}
      (hf : found.map Attestation.row = (t.attestationsOf id).find? test) :
      found.map Attestation.row = ((t.attestationsOf id).filter keep).find? test := by
    rw [find?_filter_of_kept, hf]
    intro r hr
    rw [← hf] at hr
    obtain ⟨a, -, rfl⟩ := Option.map_eq_some_iff.mp hr
    exact hrow a
  rw [hof]
  refine ⟨?_, hfind h.enclosing, hfind h.enclosed⟩
  rw [filter_comm, ← h.sameTarget, List.filter_eq_self.mpr]
  intro r hr
  obtain ⟨a, -, rfl⟩ := List.mem_map.mp hr
  exact hrow a

end Mended
end ValidatorSigner.Store

namespace ValidatorSigner.Protection
open Store Telemetry

section Transactions
variable {db db' : Database}

structure ReadsBlock (db : Database) (c : BlockProposal) : Prop where
  watermarks : .lowWatermarks ∉ db.missing
  blocks : .signedBlocks ∉ db.missing
  slot : c.slot < storeBound
  watermark : ∃ w : Option Watermark, db.tables.watermarkOf c.validator = w.map Watermark.row
  block : ∃ b : Option BlockProposal,
    (db.tables.blocksOf c.validator).find? (·.slot = (c.slot : Int)) = b.map BlockProposal.row

structure ReadsAttestation (db : Database) (c : Attestation) : Prop where
  watermarks : .lowWatermarks ∉ db.missing
  attestations : .signedAttestations ∉ db.missing
  source : c.source < storeBound
  target : c.target < storeBound
  watermark : ∃ w : Option Watermark, db.tables.watermarkOf c.validator = w.map Watermark.row
  evidence : ∃ evidence : Evidence, evidence.Gathers (db.tables.attestationsOf c.validator) c

theorem readsBlock_of_ok {c : BlockProposal} {d : Decision} (h : Decide.block none c db = .ok (d, db')) :
    ReadsBlock db c := by
  obtain ⟨belongs, _, hg, hrest⟩ := Transaction.of_bind_ok h
  cases hg
  obtain ⟨watermark, _, hwatermark, hrest⟩ := Transaction.of_bind_ok hrest
  obtain ⟨hl, hw, rfl⟩ := Transaction.findWatermark_ok_iff.mp hwatermark
  obtain ⟨found, _, hfound, -⟩ := Transaction.of_bind_ok hrest
  obtain ⟨hs, hb, hf, -⟩ := Transaction.findBlock_ok_iff.mp hfound
  exact ⟨hl, hb, hs, ⟨watermark, hw⟩, ⟨found, hf⟩⟩

theorem readsAttestation_of_ok {c : Attestation} {d : Decision} (h : Decide.attestation none c db = .ok (d, db')) :
    ReadsAttestation db c := by
  obtain ⟨belongs, _, hg, hrest⟩ := Transaction.of_bind_ok h
  cases hg
  obtain ⟨watermark, _, hwatermark, hrest⟩ := Transaction.of_bind_ok hrest
  obtain ⟨hl, hw, rfl⟩ := Transaction.findWatermark_ok_iff.mp hwatermark
  obtain ⟨evidence, _, hevidence, -⟩ := Transaction.of_bind_ok hrest
  obtain ⟨hs, ht, ha, he, -⟩ := gatherEvidence_ok_iff.mp hevidence
  exact ⟨hl, ha, hs, ht, ⟨watermark, hw⟩, ⟨evidence, he⟩⟩

/-- A decision on a block that is no error is a full scan of the raw rows. -/
theorem ReadsBlock.eq_scan {c : BlockProposal} (h : ReadsBlock db c) (hk : db.tables.Keyed) :
    Decide.block none c db =
      conclude db (Scan.block db.tables c) (db.tables.isRegistered c.validator) (db.tables.addBlock c.row) := by
  obtain ⟨w, hw⟩ := h.watermark
  obtain ⟨b, hb⟩ := h.block
  exact block_of_rows h.watermarks h.blocks h.slot hk.blocks hw hb

/-- A decision on an attestation that is no error is a full scan of the raw rows. -/
theorem ReadsAttestation.eq_scan {c : Attestation} (h : ReadsAttestation db c) :
    Decide.attestation none c db =
      conclude db (Scan.attestation db.tables c) (db.tables.isRegistered c.validator)
        (db.tables.addAttestation c.row) := by
  obtain ⟨w, hw⟩ := h.watermark
  obtain ⟨evidence, he⟩ := h.evidence
  exact attestation_of_rows h.watermarks h.attestations h.source h.target hw he

theorem watermark_clear (hk : db.tables.Keyed) {id : ValidatorId} {found : Option Watermark}
    (h : db.tables.watermarkOf id = found.map Watermark.row) {w : WatermarkRow} (hw : w ∈ db.tables.watermarks)
    (hid : w.validator = id) : db.tables.floorOf id = w ∧ 0 ≤ w.slot ∧ 0 ≤ w.source ∧ 0 ≤ w.target := by
  have hf : db.tables.watermarkOf id = some w := by
    cases hf : db.tables.watermarkOf id with
    | none => exact absurd (List.find?_eq_none.mp hf w hw) (by simp [hid])
    | some w' =>
      obtain ⟨hw', hid'⟩ := Tables.watermarkOf_mem hf
      exact congrArg some (hk.watermarks w' hw' w hw (hid'.trans hid.symm))
  rw [hf] at h
  obtain ⟨v, -, rfl⟩ := Option.map_eq_some_iff.mp h.symm
  have hfloor : db.tables.floorOf id = v.row := by
    unfold Tables.floorOf
    rw [hf]
    rfl
  exact ⟨hfloor, Int.natCast_nonneg _, Int.natCast_nonneg _, Int.natCast_nonneg _⟩

/-- No raw row speaks against a block that is permitted. -/
theorem block_clear (hk : db.tables.Keyed) {c : BlockProposal} (h : Decide.block none c db = .ok (.allow, db')) :
    (∀ w ∈ db.tables.watermarks, w.validator = c.validator →
      0 ≤ w.slot ∧ 0 ≤ w.source ∧ 0 ≤ w.target ∧ w.slot ≤ c.slot) ∧
    (∀ r ∈ db.tables.blocks, r.validator = c.validator → r.slot = c.slot → r.root = c.root.toList) ∧
    db'.tables.genesis = db.tables.genesis := by
  have hreads := readsBlock_of_ok h
  rw [hreads.eq_scan hk] at h
  rcases Scan.block_cases db.tables c with ⟨reason, hv⟩ | ⟨hfloor, hroot, -⟩
  · rw [hv] at h
    cases h
  · refine ⟨fun w hw hid => ?_, fun r hr hid hs => ?_, ?_⟩
    · obtain ⟨watermark, hfound⟩ := hreads.watermark
      obtain ⟨he, h1, h2, h3⟩ := watermark_clear hk hfound hw hid
      rw [he] at hfloor
      exact ⟨h1, h2, h3, Int.not_lt.mp hfloor⟩
    · exact Decidable.byContradiction fun hne => hroot ⟨r, Tables.mem_blocksOf.mpr ⟨hr, hid⟩, hs, hne⟩
    · rcases conclude_cases h with ⟨rfl, -⟩ | ⟨-, -, -, rfl⟩
      · rfl
      · rfl

/-- No raw row speaks against an attestation that is permitted. -/
theorem attestation_clear (hk : db.tables.Keyed) {c : Attestation}
    (h : Decide.attestation none c db = .ok (.allow, db')) :
    (∀ w ∈ db.tables.watermarks, w.validator = c.validator →
      0 ≤ w.slot ∧ 0 ≤ w.source ∧ 0 ≤ w.target ∧ w.source ≤ c.source ∧ w.target ≤ c.target) ∧
    (∀ r ∈ db.tables.attestations, r.validator = c.validator →
      (r.target = c.target → r.root = c.root.toList) ∧ ¬ (r.source < c.source ∧ (c.target : Int) < r.target) ∧
        ¬ ((c.source : Int) < r.source ∧ r.target < c.target)) ∧
    db'.tables.genesis = db.tables.genesis := by
  have hreads := readsAttestation_of_ok h
  rw [hreads.eq_scan] at h
  rcases Scan.attestation_cases db.tables c with ⟨reason, hv⟩ | ⟨-, hfloor, hroot, hover, hunder, -⟩
  · rw [hv] at h
    cases h
  · refine ⟨fun w hw hid => ?_, fun r hr hid => ?_, ?_⟩
    · obtain ⟨watermark, hfound⟩ := hreads.watermark
      obtain ⟨he, h1, h2, h3⟩ := watermark_clear hk hfound hw hid
      rw [he] at hfloor
      exact ⟨h1, h2, h3, by omega, by omega⟩
    · have hm := Tables.mem_attestationsOf.mpr ⟨hr, hid⟩
      exact ⟨fun ht => Decidable.byContradiction fun hne => hroot ⟨r, hm, ht, hne⟩, fun hs => hover ⟨r, hm, hs⟩,
        fun hs => hunder ⟨r, hm, hs⟩⟩
    · rcases conclude_cases h with ⟨rfl, -⟩ | ⟨-, -, -, rfl⟩
      · rfl
      · rfl

theorem checkGenesis_ok_iff {root : Root} {belongs : Bool} :
    Decide.checkGenesis root db = .ok (belongs, db') ↔ .metadata ∉ db.missing ∧
      ((∃ recorded : Root, db.tables.genesis = some recorded.toList ∧ belongs = decide (recorded = root) ∧ db = db') ∨
        db.tables.genesis = none ∧ db.readOnly = false ∧ belongs = true ∧ db' = bindTo root db) := by
  constructor
  · intro h
    obtain ⟨found, _, hfind, hrest⟩ := Transaction.of_bind_ok h
    obtain ⟨hm, hg, rfl⟩ := Transaction.findGenesis_ok_iff.mp hfind
    refine ⟨hm, ?_⟩
    cases found with
    | some recorded =>
      cases hrest
      exact .inl ⟨recorded, hg, rfl, rfl⟩
    | none =>
      have hg : db.tables.genesis = none := hg
      obtain ⟨outcome, _, hinsert, hrest⟩ := Transaction.of_bind_ok hrest
      obtain ⟨-, hr, ⟨rfl, -, rfl⟩ | ⟨-, hf, -⟩⟩ := Transaction.of_insertUnless_ok hinsert
      · cases hrest
        exact .inr ⟨hg, hr, rfl, rfl⟩
      · simp [hg] at hf
  · rintro ⟨hm, ⟨recorded, hg, rfl, rfl⟩ | ⟨hg, hr, rfl, rfl⟩⟩
    · have hfind : Transaction.findGenesis db = .ok (some recorded, db) :=
        Transaction.findGenesis_ok_iff.mpr ⟨hm, hg, rfl⟩
      exact Transaction.bind_of_ok hfind
    · have hfind : Transaction.findGenesis db = .ok (none, db) := Transaction.findGenesis_ok_iff.mpr ⟨hm, hg, rfl⟩
      have hinsert : Transaction.insertGenesis root db = .ok (.inserted, bindTo root db) := by
        simp [Transaction.insertGenesis, Transaction.insertUnless, Transaction.writing_apply hm, hr, hg, Except.map,
          bindTo, bound]
      unfold Decide.checkGenesis
      rw [Transaction.bind_of_ok hfind]
      exact Transaction.bind_of_ok hinsert

theorem block_guarded (genesis : Option Root) (c : BlockProposal) :
    Decide.block genesis c = (do
      if ← Decide.guardChain genesis then Decide.block none c else return .deny .genesisMismatch) := by
  cases genesis with
  | none => rfl
  | some root => exact block_onChain root c

theorem attestation_guarded (genesis : Option Root) (c : Attestation) :
    Decide.attestation genesis c = (do
      if ← Decide.guardChain genesis then Decide.attestation none c else return .deny .genesisMismatch) := by
  cases genesis with
  | none => rfl
  | some root => exact attestation_onChain root c

theorem guardChain_leads {genesis : Option Root} {belongs : Bool}
    (h : Decide.guardChain genesis db = .ok (belongs, db')) :
    (∃ bytes, db' = { db with tables := { db.tables with genesis := bytes } }) ∧
      (belongs = true → ∀ root ∈ genesis, db'.tables.genesis = some root.toList) := by
  cases genesis with
  | none =>
    cases h
    exact ⟨⟨db.tables.genesis, rfl⟩, fun _ _ hroot => by cases hroot⟩
  | some root =>
    obtain ⟨-, ⟨recorded, hg, rfl, rfl⟩ | ⟨-, -, -, rfl⟩⟩ := checkGenesis_ok_iff.mp h
    · refine ⟨⟨db.tables.genesis, rfl⟩, ?_⟩
      rintro he _ ⟨⟩
      rw [hg, of_decide_eq_true he]
    · refine ⟨⟨some root.toList, rfl⟩, ?_⟩
      rintro - _ ⟨⟩
      rfl

theorem of_guarded_allow {genesis : Option Root} {body : Transaction Decision}
    (h : (do if ← Decide.guardChain genesis then body else return .deny .genesisMismatch : Transaction Decision) db =
      .ok (.allow, db')) :
    ∃ bytes, body { db with tables := { db.tables with genesis := bytes } } = .ok (.allow, db') ∧
      ∀ root ∈ genesis, bytes = some root.toList := by
  obtain ⟨belongs, db₁, hg, hrest⟩ := Transaction.of_bind_ok h
  obtain ⟨⟨bytes, rfl⟩, hchain⟩ := guardChain_leads hg
  cases belongs with
  | false => cases hrest
  | true => exact ⟨bytes, hrest, hchain rfl⟩

section Mended
variable {t₀ : Tables}

theorem guardChain_mended {genesis : Option Root} {belongs : Bool} (hm : db.tables.Mended t₀)
    (h : Decide.guardChain genesis db = .ok (belongs, db')) :
    ∃ t₁, Decide.guardChain genesis { db with tables := t₀ } = .ok (belongs, { db' with tables := t₁ }) ∧
      db'.tables.Mended t₁ := by
  cases genesis with
  | none =>
    cases h
    exact ⟨t₀, rfl, hm⟩
  | some root =>
    obtain ⟨hd, ⟨recorded, hg, rfl, rfl⟩ | ⟨hg, hr, rfl, rfl⟩⟩ := checkGenesis_ok_iff.mp h
    · have hg₀ : t₀.genesis = some recorded.toList := by
        rcases hm.genesis with he | ⟨-, hn⟩
        · rw [he, hg]
        · exact absurd hg (hn recorded)
      exact ⟨t₀, checkGenesis_ok_iff.mpr ⟨hd, .inl ⟨recorded, hg₀, rfl, rfl⟩⟩, hm⟩
    · have hg₀ : t₀.genesis = none := by
        rcases hm.genesis with he | ⟨he, -⟩
        · rw [he, hg]
        · exact he
      exact ⟨bound t₀ root, checkGenesis_ok_iff.mpr ⟨hd, .inr ⟨hg₀, hr, rfl, rfl⟩⟩,
        { hm with genesis := .inl rfl }⟩

theorem conclude_decides {verdict : Verdict} {registered : Bool} {recorded : Tables} {d : Decision}
    (h : conclude db verdict registered recorded = .ok (d, db')) (tables recorded' : Tables) :
    ∃ db'', conclude { db with tables } verdict registered recorded' = .ok (d, db'') := by
  cases verdict with
  | refuse reason =>
    cases h
    exact ⟨_, rfl⟩
  | alreadySigned =>
    cases h
    exact ⟨_, rfl⟩
  | record =>
    unfold conclude at h ⊢
    by_cases hr : db.readOnly = true
    · rw [if_pos hr] at h
      cases h
    · rw [if_neg hr] at h ⊢
      cases registered with
      | true =>
        cases h
        exact ⟨_, rfl⟩
      | false => cases h

theorem block_mended (hk : db.tables.Keyed) (hm : db.tables.Mended t₀) {c : BlockProposal} {d : Decision}
    (h : Decide.block none c db = .ok (d, db')) :
    ∃ db'', Decide.block none c { db with tables := t₀ } = .ok (d, db'') := by
  have hreads := readsBlock_of_ok h
  obtain ⟨w, hw⟩ := hreads.watermark
  obtain ⟨b, hb⟩ := hreads.block
  have hw₀ := hm.watermarkOf hw
  have hb₀ := hm.findBlock hb
  have hreads₀ : ReadsBlock { db with tables := t₀ } c :=
    ⟨hreads.watermarks, hreads.blocks, hreads.slot, ⟨w, hw₀⟩, ⟨b, hb₀⟩⟩
  have hscan : Scan.block t₀ c = Scan.block db.tables c :=
    (checkBlock_of_rows (hm.keyed hk).blocks hw₀ hb₀).symm.trans (checkBlock_of_rows hk.blocks hw hb)
  have hregistered : t₀.isRegistered c.validator = db.tables.isRegistered c.validator := by
    unfold Tables.isRegistered
    rw [hm.validators]
  rw [hreads.eq_scan hk] at h
  rw [hreads₀.eq_scan (hm.keyed hk)]
  dsimp only
  rw [hscan, hregistered]
  exact conclude_decides h _ _

theorem attestation_mended (hm : db.tables.Mended t₀) {c : Attestation} {d : Decision}
    (h : Decide.attestation none c db = .ok (d, db')) :
    ∃ db'', Decide.attestation none c { db with tables := t₀ } = .ok (d, db'') := by
  have hreads := readsAttestation_of_ok h
  obtain ⟨w, hw⟩ := hreads.watermark
  obtain ⟨evidence, he⟩ := hreads.evidence
  have hw₀ := hm.watermarkOf hw
  have he₀ := hm.gathers he
  have hreads₀ : ReadsAttestation { db with tables := t₀ } c :=
    ⟨hreads.watermarks, hreads.attestations, hreads.source, hreads.target, ⟨w, hw₀⟩, ⟨evidence, he₀⟩⟩
  have hscan : Scan.attestation t₀ c = Scan.attestation db.tables c :=
    (checkAttestation_of_rows hw₀ he₀).symm.trans (checkAttestation_of_rows hw he)
  have hregistered : t₀.isRegistered c.validator = db.tables.isRegistered c.validator := by
    unfold Tables.isRegistered
    rw [hm.validators]
  rw [hreads.eq_scan] at h
  rw [hreads₀.eq_scan]
  dsimp only
  rw [hscan, hregistered]
  exact conclude_decides h _ _

/-- A decision behind a check of the chain outlives the mending of the tables if the plain one does. -/
theorem guarded_mended {genesis : Option Root} {body : Transaction Decision} {d : Decision} (hk : db.tables.Keyed)
    (hm : db.tables.Mended t₀)
    (hbody : ∀ {db₁ db₂ : Database} {t₁}, db₁.tables.Keyed → db₁.tables.Mended t₁ → body db₁ = .ok (d, db₂) →
      ∃ db₃, body { db₁ with tables := t₁ } = .ok (d, db₃))
    (h : (do if ← Decide.guardChain genesis then body else return .deny .genesisMismatch : Transaction Decision) db =
      .ok (d, db')) :
    ∃ db'', (do if ← Decide.guardChain genesis then body else return .deny .genesisMismatch : Transaction Decision)
      { db with tables := t₀ } = .ok (d, db'') := by
  obtain ⟨belongs, db₁, hg, hrest⟩ := Transaction.of_bind_ok h
  obtain ⟨t₁, hg₀, hm₁⟩ := guardChain_mended hm hg
  obtain ⟨⟨bytes, rfl⟩, -⟩ := guardChain_leads hg
  rw [Transaction.bind_of_ok hg₀]
  cases belongs with
  | false =>
    cases hrest
    exact ⟨_, rfl⟩
  | true => exact hbody ⟨hk.blocks, hk.watermarks⟩ hm₁ hrest

end Mended
end Transactions

section Requests
variable {e : Engine} {artifact : Artifact} {operation : String} {body : Transaction Decision} {d : Decision}

theorem of_decided_ok (h : ((transact operation body >>= Request.counted artifact) e).1 = .ok d) :
    e.obstacle? e.service.decisions = none ∧ ∃ db, body e.database = .ok (d, db) ∧
      ((transact operation body >>= Request.counted artifact) e).2.database = db := by
  rw [decided_apply] at h ⊢
  cases hf : e.obstacle? e.service.decisions with
  | some fault =>
    rw [hf] at h
    cases h
  | none =>
    refine ⟨rfl, ?_⟩
    simp only [hf] at h ⊢
    cases hb : body e.database with
    | error cause =>
      simp only [hb] at h
      cases h
    | ok result =>
      obtain ⟨d', db⟩ := result
      obtain ⟨metrics, hd⟩ := counted_apply artifact d' { e with database := db }
      simp only [hb] at h ⊢
      rw [hd] at h ⊢
      cases h
      exact ⟨db, rfl, rfl⟩

theorem decided_ok (hf : e.obstacle? e.service.decisions = none) {db : Database} (hb : body e.database = .ok (d, db)) :
    ((transact operation body >>= Request.counted artifact) e).1 = .ok d := by
  rw [decided_apply]
  simp only [hf, hb]
  obtain ⟨metrics, hd⟩ := counted_apply artifact d { e with database := db }
  rw [hd]

/-- Whatever rows the tables hold, as long as no two share the columns that identify them: no raw row speaks
against what is permitted, and the tables belong to its chain. Rows that stand for no record can only turn an
answer into an error: without them the answer is the same. -/
theorem permission_fails_closed (e : Engine) (hk : e.tables.Keyed) (genesis : Option Root) :
    (∀ c, (Request.maySignBlock genesis c e).1 = .ok .allow →
      (∀ w ∈ e.tables.watermarks, w.validator = c.validator →
        0 ≤ w.slot ∧ 0 ≤ w.source ∧ 0 ≤ w.target ∧ w.slot ≤ c.slot) ∧
      (∀ r ∈ e.tables.blocks, r.validator = c.validator → r.slot = c.slot → r.root = c.root.toList) ∧
      ∀ root ∈ genesis, (Request.maySignBlock genesis c e).2.tables.genesis = some root.toList) ∧
    (∀ c, (Request.maySignAttestation genesis c e).1 = .ok .allow →
      (∀ w ∈ e.tables.watermarks, w.validator = c.validator →
        0 ≤ w.slot ∧ 0 ≤ w.source ∧ 0 ≤ w.target ∧ w.source ≤ c.source ∧ w.target ≤ c.target) ∧
      (∀ r ∈ e.tables.attestations, r.validator = c.validator →
        (r.target = c.target → r.root = c.root.toList) ∧ ¬ (r.source < c.source ∧ (c.target : Int) < r.target) ∧
          ¬ ((c.source : Int) < r.source ∧ r.target < c.target)) ∧
      ∀ root ∈ genesis, (Request.maySignAttestation genesis c e).2.tables.genesis = some root.toList) ∧
    ∀ t₀, e.tables.Mended t₀ →
      (∀ c d, (Request.maySignBlock genesis c e).1 = .ok d →
        (Request.maySignBlock genesis c (e.withTables t₀)).1 = .ok d) ∧
      ∀ c d, (Request.maySignAttestation genesis c e).1 = .ok d →
        (Request.maySignAttestation genesis c (e.withTables t₀)).1 = .ok d := by
  refine ⟨fun c h => ?_, fun c h => ?_, fun t₀ hm => ⟨fun c d h => ?_, fun c d h => ?_⟩⟩
  · obtain ⟨-, db, hbody, hdb⟩ := of_decided_ok h
    rw [block_guarded] at hbody
    obtain ⟨bytes, hplain, hchain⟩ := of_guarded_allow hbody
    have hk₁ : Tables.Keyed { e.tables with genesis := bytes } := ⟨hk.blocks, hk.watermarks⟩
    obtain ⟨hfloor, hroots, hgenesis⟩ := block_clear hk₁ hplain
    have hafter : (Request.maySignBlock genesis c e).2.tables = db.tables := congrArg Database.tables hdb
    rw [hafter, hgenesis]
    exact ⟨hfloor, hroots, hchain⟩
  · unfold Request.maySignAttestation at h ⊢
    split at h
    · cases h
    · rename_i hle
      rw [if_neg hle]
      obtain ⟨-, db, hbody, hdb⟩ := of_decided_ok h
      rw [attestation_guarded] at hbody
      obtain ⟨bytes, hplain, hchain⟩ := of_guarded_allow hbody
      have hk₁ : Tables.Keyed { e.tables with genesis := bytes } := ⟨hk.blocks, hk.watermarks⟩
      obtain ⟨hfloor, hrows, hgenesis⟩ := attestation_clear hk₁ hplain
      have hafter := congrArg Database.tables hdb
      dsimp only [Engine.tables]
      rw [hafter, hgenesis]
      exact ⟨hfloor, hrows, hchain⟩
  · obtain ⟨hf, _, hbody, -⟩ := of_decided_ok h
    rw [block_guarded] at hbody
    obtain ⟨db, hmended⟩ := guarded_mended hk hm (fun hk hm h => block_mended hk hm h) hbody
    rw [← block_guarded] at hmended
    exact decided_ok hf hmended
  · unfold Request.maySignAttestation at h ⊢
    split at h
    · rename_i hlt
      rw [if_pos hlt]
      cases h
      rfl
    · rename_i hle
      rw [if_neg hle]
      obtain ⟨hf, _, hbody, -⟩ := of_decided_ok h
      rw [attestation_guarded] at hbody
      obtain ⟨db, hmended⟩ := guarded_mended hk hm (fun _ hm h => attestation_mended hm h) hbody
      rw [← attestation_guarded] at hmended
      exact decided_ok hf hmended

/-- Two rows that are those of no record, beside one that is: a root of one byte and a negative source. -/
def mixedTables : Tables where
  validators := [⟨1, .replicate .publicKey 1⟩]
  blocks := [⟨1, 4, [7]⟩, ⟨1, 5, List.replicate 32 1⟩]
  attestations := [⟨1, -3, 4, List.replicate 32 1⟩]
  watermarks := [⟨1, 2, 3, 4⟩]

def mixedRecords : Tables := { mixedTables with blocks := [⟨1, 5, List.replicate 32 1⟩], attestations := [] }

theorem mended_mixedTables : mixedTables.Mended mixedRecords where
  validators := rfl
  blocks := ⟨fun r => r.root.length = 32, rfl, fun b => decide_eq_true b.root.length_eq⟩
  attestations := ⟨fun r => 0 ≤ r.source, rfl, fun a => decide_eq_true (Int.natCast_nonneg a.source)⟩
  watermarks := ⟨fun _ => true, rfl, fun _ => rfl⟩
  genesis := .inl rfl

/-- Rows without a meaning leave room for permissions, which they have no part in. -/
theorem permission_fails_closed_mixed :
    let e : Engine := { database := { tables := mixedTables } }
    let root : Root := .replicate .root 1
    let vote : Attestation := ⟨1, 7, 8, root⟩
    (Request.maySignBlock (some root) ⟨1, 5, root⟩ e).2.tables.genesis = some root.toList ∧
      (Request.maySignAttestation none vote e).1 = .ok .allow ∧
      (∀ r ∈ mixedTables.attestations, r.validator = 1 → ¬ (r.source < 7 ∧ 8 < r.target)) ∧
      (Request.maySignAttestation none vote (e.withTables mixedRecords)).1 = .ok .allow := by
  intro e root vote
  have hk : e.tables.Keyed := ⟨by decide, by decide⟩
  obtain ⟨hblock, -⟩ := permission_fails_closed e hk (some root)
  obtain ⟨-, hvote, hmended⟩ := permission_fails_closed e hk none
  have hallow : (Request.maySignAttestation none vote e).1 = .ok .allow := rfl
  obtain ⟨-, -, hchain⟩ := hblock ⟨1, 5, root⟩ rfl
  obtain ⟨-, hrows, -⟩ := hvote vote hallow
  exact ⟨hchain root rfl, hallow, fun r hr hid => (hrows r hr hid).2.1,
    (hmended mixedRecords mended_mixedTables).2 vote _ hallow⟩

end Requests
end ValidatorSigner.Protection
