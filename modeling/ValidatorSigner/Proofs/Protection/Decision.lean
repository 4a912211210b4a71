import ValidatorSigner.Proofs.Protection.Verdict

/-! # What a decision does

Over well-formed tables a decision is the verdict of a full scan, followed by what that verdict asks
for. The constraints that stand behind the rules are never met: a new record breaks neither the order of
epochs nor a unique column.
-/
namespace ValidatorSigner.Protection
open Store
variable {db : Database}

theorem insertBlock_apply {c : BlockProposal} (hs : c.slot < storeBound) :
    Transaction.insertBlock c db =
      Transaction.insertUnless .signedBlocks (·.blockFault? c.row) (·.addBlock c.row) db := by
  unfold Transaction.insertBlock
  rw [toColumn_of_lt hs, Transaction.bind_of_ok (Transaction.lift_ok _ _)]
  rfl

theorem insertAttestation_apply {c : Attestation} (hs : c.source < storeBound) (ht : c.target < storeBound) :
    Transaction.insertAttestation c db =
      Transaction.insertUnless .signedAttestations (·.attestationFault? c.row) (·.addAttestation c.row) db := by
  unfold Transaction.insertAttestation
  rw [toColumn_of_lt hs, toColumn_of_lt ht, Transaction.bind_of_ok (Transaction.lift_ok _ _),
    Transaction.bind_of_ok (Transaction.lift_ok _ _)]
  rfl

/-- A new block breaks at most the registration of its validator. -/
theorem blockFault_of_record {t : Tables} {c : BlockProposal} (h : Scan.block t c = .record) :
    t.blockFault? c.row = if t.isRegistered c.validator then none else some .foreignKey := by
  have hf : (t.blocksOf c.row.validator).any (·.slot = c.row.slot) = false := by
    rw [List.any_eq_false]
    exact fun r hr hs => (Scan.block_record h).2 r hr (of_decide_eq_true hs)
  simp only [Tables.blockFault?, hf]
  cases hr : t.isRegistered c.validator <;> simp [BlockProposal.row, hr]

theorem attestationFault_of_record {t : Tables} {c : Attestation} (h : Scan.attestation t c = .record) :
    t.attestationFault? c.row = if t.isRegistered c.validator then none else some .foreignKey := by
  obtain ⟨ho, -, -, hn⟩ := Scan.attestation_record h
  have hc : ¬ c.row.target < c.row.source := by
    simp only [Attestation.row]
    omega
  have hf : (t.attestationsOf c.row.validator).any (·.target = c.row.target) = false := by
    rw [List.any_eq_false]
    exact fun r hr ht => (hn r hr).1 (of_decide_eq_true ht)
  simp only [Tables.attestationFault?, if_neg hc, hf]
  cases hr : t.isRegistered c.validator <;> simp [Attestation.row, hr]

theorem insertUnless_apply {table : Table} (hm : table ∉ db.missing) {fault? : Tables → Option DatabaseFault}
    (add : Tables → Tables) {registered : Bool}
    (h : fault? db.tables = if registered then none else some .foreignKey) :
    Transaction.insertUnless table fault? add db =
      if db.readOnly then .error (.ofDatabase .readOnly)
      else if registered then .ok (.inserted, { db with tables := add db.tables })
      else .error (.constraint DatabaseFault.foreignKey.summary) := by
  unfold Transaction.insertUnless
  rw [Transaction.writing_apply hm]
  congr 1
  cases registered with
  | true => simp [h, Except.map]
  | false => simp [h, Insertion.ofFault, Except.map]

theorem insertUnless_bind {table : Table} (hm : table ∉ db.missing) {fault? : Tables → Option DatabaseFault}
    {add : Tables → Tables} {registered : Bool}
    {insert : Transaction Insertion} (hi : insert db = Transaction.insertUnless table fault? add db)
    (h : fault? db.tables = if registered then none else some .foreignKey)
    {next : Insertion → Transaction Decision} (hn : next .inserted = pure .allow) :
    (insert >>= next) db = conclude db .record registered (add db.tables) := by
  rw [insertUnless_apply hm add h] at hi
  unfold conclude
  by_cases hr : db.readOnly = true
  · rw [if_pos hr] at hi ⊢
    exact Transaction.bind_of_error hi
  · rw [if_neg hr] at hi ⊢
    cases registered with
    | true =>
      rw [Transaction.bind_of_ok hi, hn]
      rfl
    | false => exact Transaction.bind_of_error hi

theorem findBlock_apply (hm : db.missing = []) (hw : db.tables.WellFormed) (id : ValidatorId) {slot : Nat}
    (hs : slot < storeBound) :
    ∃ found : Option BlockProposal,
      found.map BlockProposal.row = (db.tables.blocksOf id).find? (·.slot = (slot : Int)) ∧
      Transaction.findBlock id slot db = .ok (found, db) := by
  have hb := Transaction.not_mem_missing hm .signedBlocks
  cases h : (db.tables.blocksOf id).find? (·.slot = (slot : Int)) with
  | none => exact ⟨none, rfl, Transaction.findBlock_ok_iff.mpr ⟨hs, hb, h, rfl⟩⟩
  | some r =>
    obtain ⟨hr, -⟩ := Tables.mem_blocksOf.mp (List.mem_of_find?_eq_some h)
    obtain ⟨b, -, rfl⟩ := hw.blocks r hr
    exact ⟨some b, rfl, Transaction.findBlock_ok_iff.mpr ⟨hs, hb, h, rfl⟩⟩

/-- The row in the slot, being the only one there, stands for all rows. -/
theorem checkBlock_of_rows {t : Tables} {c : BlockProposal}
    (hu : ∀ a ∈ t.blocks, ∀ b ∈ t.blocks, a.validator = b.validator → a.slot = b.slot → a = b)
    {watermark : Option Watermark} (hw : t.watermarkOf c.validator = watermark.map Watermark.row)
    {found : Option BlockProposal}
    (h : (t.blocksOf c.validator).find? (·.slot = (c.slot : Int)) = found.map BlockProposal.row) :
    checkBlock c watermark found = Scan.block t c := by
  simp only [checkBlock, Scan.block, blocksSlot_iff hw]
  split
  · rfl
  cases hf : found with
  | none =>
    rw [hf, Option.map_none] at h
    have hn : ∀ r ∈ t.blocksOf c.validator, ¬ r.slot = (c.slot : Int) := by
      simpa using List.find?_eq_none.mp h
    rw [if_neg fun ⟨r, hr, hs, _⟩ => hn r hr hs, if_neg fun ⟨r, hr, hs⟩ => hn r hr hs]
  | some b =>
    rw [hf, Option.map_some] at h
    have hb := List.mem_of_find?_eq_some h
    have hs : b.row.slot = (c.slot : Int) := by simpa using List.find?_some h
    -- Unique slots make every row of the slot the one that was found.
    have hu : ∀ r ∈ t.blocksOf c.validator, r.slot = (c.slot : Int) → r = b.row := by
      intro r hr hrs
      obtain ⟨hr, hid⟩ := Tables.mem_blocksOf.mp hr
      obtain ⟨hb, hbid⟩ := Tables.mem_blocksOf.mp hb
      exact hu r hr _ hb (hid.trans hbid.symm) (hrs.trans hs.symm)
    by_cases hroot : b.root = c.root
    · have hn : ¬ ∃ r ∈ t.blocksOf c.validator, r.slot = (c.slot : Int) ∧ r.root ≠ c.root.toList := by
        rintro ⟨r, hr, hrs, hne⟩
        exact hne (hu r hr hrs ▸ congrArg FixedBytes.toList hroot)
      rw [if_neg hn, if_pos ⟨_, hb, hs⟩]
      exact if_pos hroot
    · rw [if_pos ⟨_, hb, hs, fun he => hroot (FixedBytes.ext he)⟩]
      exact if_neg hroot

/-- Whatever the tables hold, a decision on a block is a full scan if the rows that it looks for are those of
records. -/
theorem block_of_rows {c : BlockProposal} (hl : .lowWatermarks ∉ db.missing) (hb : .signedBlocks ∉ db.missing)
    (hs : c.slot < storeBound)
    (hu : ∀ a ∈ db.tables.blocks, ∀ b ∈ db.tables.blocks, a.validator = b.validator → a.slot = b.slot → a = b)
    {watermark : Option Watermark} (hw : db.tables.watermarkOf c.validator = watermark.map Watermark.row)
    {found : Option BlockProposal}
    (hf : (db.tables.blocksOf c.validator).find? (·.slot = (c.slot : Int)) = found.map BlockProposal.row) :
    Decide.block none c db =
      conclude db (Scan.block db.tables c) (db.tables.isRegistered c.validator) (db.tables.addBlock c.row) := by
  have hg : Decide.guardChain none db = .ok (true, db) := rfl
  unfold Decide.block
  rw [Transaction.bind_of_ok hg]
  simp only [Bool.not_true, Bool.false_eq_true, if_false]
  rw [Transaction.bind_of_ok (Transaction.findWatermark_ok_iff.mpr ⟨hl, hw, rfl⟩),
    Transaction.bind_of_ok (Transaction.findBlock_ok_iff.mpr ⟨hs, hb, hf, rfl⟩), checkBlock_of_rows hu hw hf]
  cases hv : Scan.block db.tables c with
  | refuse reason => rfl
  | alreadySigned => rfl
  | record => exact (insertUnless_bind hb (insertBlock_apply hs) (blockFault_of_record hv) rfl).trans rfl

/-- A decision on a block outside any chain is a full scan. -/
theorem block_apply (hm : db.missing = []) (hw : db.tables.WellFormed) (c : BlockProposal) :
    Decide.block none c db =
      if storeBound ≤ c.slot then .error (.outOfRange .slot c.slot)
      else conclude db (Scan.block db.tables c) (db.tables.isRegistered c.validator)
        (db.tables.addBlock c.row) := by
  by_cases hs : storeBound ≤ c.slot
  · have hg : Decide.guardChain none db = .ok (true, db) := rfl
    have hf : Transaction.findBlock c.validator c.slot db = .error (.outOfRange .slot c.slot) := by
      unfold Transaction.findBlock
      rw [toColumn_of_le hs, Transaction.bind_of_error (Transaction.lift_error _ _)]
    unfold Decide.block
    rw [if_pos hs, Transaction.bind_of_ok hg]
    simp only [Bool.not_true, Bool.false_eq_true, if_false]
    rw [Transaction.bind_of_ok (Transaction.findWatermark_apply hm hw c.validator), Transaction.bind_of_error hf]
  · obtain ⟨found, hf, -⟩ := findBlock_apply hm hw c.validator (Nat.not_le.mp hs)
    rw [if_neg hs]
    exact block_of_rows (Transaction.not_mem_missing hm _) (Transaction.not_mem_missing hm _) (Nat.not_le.mp hs)
      hw.oneBlock (hw.watermarkOf_row c.validator) hf.symm

theorem gatherEvidence_ok_iff {c : Attestation} {evidence : Evidence} {db' : Database} :
    Decide.gatherEvidence c db = .ok (evidence, db') ↔
      c.source < storeBound ∧ c.target < storeBound ∧ .signedAttestations ∉ db.missing ∧
        evidence.Gathers (db.tables.attestationsOf c.validator) c ∧ db = db' := by
  constructor
  · intro h
    obtain ⟨sameTarget, _, hsame, hrest⟩ := Transaction.of_bind_ok h
    obtain ⟨ht, hm, h1, rfl⟩ := Transaction.findAttestations_ok_iff.mp hsame
    obtain ⟨enclosing, _, henclosing, hrest⟩ := Transaction.of_bind_ok hrest
    obtain ⟨hs, -, -, h2, rfl⟩ := Transaction.findEnclosing_ok_iff.mp henclosing
    obtain ⟨enclosed, _, henclosed, hpure⟩ := Transaction.of_bind_ok hrest
    obtain ⟨-, -, -, h3, rfl⟩ := Transaction.findEnclosed_ok_iff.mp henclosed
    cases hpure
    exact ⟨hs, ht, hm, ⟨h1.symm, h2.symm, h3.symm⟩, rfl⟩
  · rintro ⟨hs, ht, hm, ⟨h1, h2, h3⟩, rfl⟩
    unfold Decide.gatherEvidence
    rw [Transaction.bind_of_ok (Transaction.findAttestations_ok_iff.mpr ⟨ht, hm, h1.symm, rfl⟩),
      Transaction.bind_of_ok (Transaction.findEnclosing_ok_iff.mpr ⟨hs, ht, hm, h2.symm, rfl⟩),
      Transaction.bind_of_ok (Transaction.findEnclosed_ok_iff.mpr ⟨hs, ht, hm, h3.symm, rfl⟩)]
    rfl

theorem gatherEvidence_apply (hm : db.missing = []) (hw : db.tables.WellFormed) {c : Attestation}
    (hs : c.source < storeBound) (ht : c.target < storeBound) :
    ∃ evidence : Evidence, evidence.Gathers (db.tables.attestationsOf c.validator) c ∧
      Decide.gatherEvidence c db = .ok (evidence, db) := by
  obtain ⟨sameTarget, h1, -⟩ := Transaction.findAttestations_apply hm hw c.validator ht
  obtain ⟨enclosing, h2, -⟩ := Transaction.findEnclosing_apply hm hw c.validator hs ht
  obtain ⟨enclosed, h3, -⟩ := Transaction.findEnclosed_apply hm hw c.validator hs ht
  have hg : Evidence.Gathers ⟨sameTarget, enclosing, enclosed⟩ (db.tables.attestationsOf c.validator) c :=
    ⟨h1, h2, h3⟩
  exact ⟨_, hg, gatherEvidence_ok_iff.mpr ⟨hs, ht, Transaction.not_mem_missing hm _, hg, rfl⟩⟩

/-- Whatever the tables hold, a decision on an attestation is a full scan if the rows that it looks for are those
of records. -/
theorem attestation_of_rows {c : Attestation} (hl : .lowWatermarks ∉ db.missing)
    (ha : .signedAttestations ∉ db.missing) (hs : c.source < storeBound) (ht : c.target < storeBound)
    {watermark : Option Watermark} (hw : db.tables.watermarkOf c.validator = watermark.map Watermark.row)
    {evidence : Evidence} (hg : evidence.Gathers (db.tables.attestationsOf c.validator) c) :
    Decide.attestation none c db =
      conclude db (Scan.attestation db.tables c) (db.tables.isRegistered c.validator)
        (db.tables.addAttestation c.row) := by
  have hchain : Decide.guardChain none db = .ok (true, db) := rfl
  unfold Decide.attestation
  rw [Transaction.bind_of_ok hchain]
  simp only [Bool.not_true, Bool.false_eq_true, if_false]
  rw [Transaction.bind_of_ok (Transaction.findWatermark_ok_iff.mpr ⟨hl, hw, rfl⟩),
    Transaction.bind_of_ok (gatherEvidence_ok_iff.mpr ⟨hs, ht, ha, hg, rfl⟩), checkAttestation_of_rows hw hg]
  cases hv : Scan.attestation db.tables c with
  | refuse reason => rfl
  | alreadySigned => rfl
  | record => exact (insertUnless_bind ha (insertAttestation_apply hs ht) (attestationFault_of_record hv) rfl).trans rfl

/-- A decision on an attestation outside any chain is a full scan. -/
theorem attestation_apply (hm : db.missing = []) (hw : db.tables.WellFormed) {c : Attestation}
    (ho : c.source ≤ c.target) :
    Decide.attestation none c db =
      if storeBound ≤ c.target then .error (.outOfRange .targetEpoch c.target)
      else conclude db (Scan.attestation db.tables c) (db.tables.isRegistered c.validator)
        (db.tables.addAttestation c.row) := by
  by_cases ht : storeBound ≤ c.target
  · have hg : Decide.guardChain none db = .ok (true, db) := rfl
    have hf : Decide.gatherEvidence c db = .error (.outOfRange .targetEpoch c.target) := by
      unfold Decide.gatherEvidence Transaction.findAttestations
      rw [toColumn_of_le ht]
      exact Transaction.bind_of_error (Transaction.bind_of_error (Transaction.lift_error _ _))
    unfold Decide.attestation
    rw [if_pos ht, Transaction.bind_of_ok hg]
    simp only [Bool.not_true, Bool.false_eq_true, if_false]
    rw [Transaction.bind_of_ok (Transaction.findWatermark_apply hm hw c.validator), Transaction.bind_of_error hf]
  · have ht' := Nat.not_le.mp ht
    have hs' := Nat.lt_of_le_of_lt ho ht'
    obtain ⟨evidence, hgather, -⟩ := gatherEvidence_apply hm hw hs' ht'
    rw [if_neg ht]
    exact attestation_of_rows (Transaction.not_mem_missing hm _) (Transaction.not_mem_missing hm _) hs' ht'
      (hw.watermarkOf_row c.validator) hgather

def bound (t : Tables) (root : Root) : Tables := { t with genesis := some root.toList }

theorem findGenesis_apply (hm : db.missing = []) (hw : db.tables.WellFormed) :
    ∃ found : Option Root, found.map FixedBytes.toList = db.tables.genesis ∧
      Transaction.findGenesis db = .ok (found, db) := by
  have hd := Transaction.not_mem_missing hm .metadata
  cases hg : db.tables.genesis with
  | none => exact ⟨none, rfl, Transaction.findGenesis_ok_iff.mpr ⟨hd, hg, rfl⟩⟩
  | some bytes =>
    obtain ⟨recorded, rfl⟩ := hw.genesis bytes (by rw [hg]; rfl)
    exact ⟨some recorded, rfl, Transaction.findGenesis_ok_iff.mpr ⟨hd, hg, rfl⟩⟩

theorem genesisExists_apply (hm : db.missing = []) (hw : db.tables.WellFormed) :
    (do return (← Transaction.findGenesis).isSome : Transaction Bool) db = .ok (db.tables.genesis.isSome, db) := by
  obtain ⟨found, hfound, hf⟩ := findGenesis_apply hm hw
  rw [Transaction.bind_of_ok hf, ← hfound, Option.isSome_map]
  rfl

/-- The first chain to ask is the one that the tables belong to. -/
theorem checkGenesis_apply (hm : db.missing = []) (hw : db.tables.WellFormed) (root : Root) :
    Decide.checkGenesis root db =
      match db.tables.genesis with
      | some bytes => .ok (decide (bytes = root.toList), db)
      | none =>
        if db.readOnly then .error (.ofDatabase .readOnly)
        else .ok (true, { db with tables := bound db.tables root }) := by
  unfold Decide.checkGenesis
  obtain ⟨found, hfound, hf⟩ := findGenesis_apply hm hw
  rw [Transaction.bind_of_ok hf]
  cases found with
  | some recorded =>
    have he : recorded = root ↔ recorded.toList = root.toList := ⟨fun h => h ▸ rfl, FixedBytes.ext⟩
    simp only [← hfound, Option.map_some, Transaction.pure_apply, he]
  | none =>
    have hg : db.tables.genesis = none := hfound.symm
    simp only [hg]
    by_cases hr : db.readOnly = true
    · have hi : Transaction.insertGenesis root db = .error (.ofDatabase .readOnly) := by
        simp [Transaction.insertGenesis, Transaction.insertUnless, Transaction.writing_apply
          (Transaction.not_mem_missing hm _), hr]
      rw [if_pos hr]
      exact Transaction.bind_of_error hi
    · have hi : Transaction.insertGenesis root db =
          .ok (.inserted, { db with tables := bound db.tables root }) := by
        simp [Transaction.insertGenesis, Transaction.insertUnless, Transaction.writing_apply
          (Transaction.not_mem_missing hm _), hr, hg, Except.map, bound]
      rw [if_neg hr]
      exact Transaction.bind_of_ok hi

/-- A decision on a chain is the check of the chain followed by the decision outside any chain. -/
theorem block_onChain (root : Root) (c : BlockProposal) :
    Decide.block (some root) c = (do
      if ← Decide.checkGenesis root then Decide.block none c else return .deny .genesisMismatch) := by
  funext db
  unfold Decide.block
  simp only [Decide.guardChain]
  cases h : Decide.checkGenesis root db with
  | error e => rw [Transaction.bind_of_error h, Transaction.bind_of_error h]
  | ok found =>
    obtain ⟨belongs, db'⟩ := found
    rw [Transaction.bind_of_ok h, Transaction.bind_of_ok h]
    cases belongs <;> rfl

theorem attestation_onChain (root : Root) (c : Attestation) :
    Decide.attestation (some root) c = (do
      if ← Decide.checkGenesis root then Decide.attestation none c else return .deny .genesisMismatch) := by
  funext db
  unfold Decide.attestation
  simp only [Decide.guardChain]
  cases h : Decide.checkGenesis root db with
  | error e => rw [Transaction.bind_of_error h, Transaction.bind_of_error h]
  | ok found =>
    obtain ⟨belongs, db'⟩ := found
    rw [Transaction.bind_of_ok h, Transaction.bind_of_ok h]
    cases belongs <;> rfl

end ValidatorSigner.Protection
