import ValidatorSigner.Proofs.Store.WellFormed
import ValidatorSigner.Protection.Prune

/-! # The next watermark

A prune run counts back from the highest key on record and keeps the rows from there on. The lowest of
them raises the watermark, which never falls. What it raises it to depends only on rows at or above the
watermark before, as long as that watermark is itself the key of a row.
-/
namespace ValidatorSigner.Store
section Lowest
variable {α : Type} {key : α → Int} {rows : List α}

theorem lowestBy?_eq_none : lowestBy? key rows = none ↔ rows = [] := by
  cases rows with
  | nil => simp [lowestBy?]
  | cons r rest =>
    cases h : lowestBy? key rest with
    | none => simp [lowestBy?, h]
    | some other =>
      simp only [lowestBy?, h, reduceCtorEq, iff_false]
      split <;> simp

theorem lowestBy?_spec {low : α} (h : lowestBy? key rows = some low) :
    low ∈ rows ∧ ∀ r ∈ rows, key low ≤ key r := by
  induction rows generalizing low with
  | nil => simp [lowestBy?] at h
  | cons r rest ih =>
    cases hl : lowestBy? key rest with
    | none =>
      simp only [lowestBy?, hl, Option.some.injEq] at h
      subst h
      simp [lowestBy?_eq_none.mp hl]
    | some other =>
      obtain ⟨hm, hle⟩ := ih hl
      simp only [lowestBy?, hl] at h
      split at h
      · obtain rfl := Option.some.inj h
        refine ⟨List.mem_cons_of_mem _ hm, fun x hx => ?_⟩
        rcases List.mem_cons.mp hx with rfl | hx
        · omega
        · exact hle x hx
      · obtain rfl := Option.some.inj h
        refine ⟨List.mem_cons_self, fun x hx => ?_⟩
        rcases List.mem_cons.mp hx with rfl | hx
        · omega
        · have := hle x hx
          omega

theorem min?_map_key : (rows.map key).min? = (lowestBy? key rows).map key := by
  cases h : lowestBy? key rows with
  | none => simp [lowestBy?_eq_none.mp h]
  | some low =>
    obtain ⟨hm, hle⟩ := lowestBy?_spec h
    rw [Option.map_some, List.min?_eq_some_iff]
    exact ⟨List.mem_map_of_mem hm, by simpa using hle⟩

/-- The lowest row that is kept when a floor is counted back from the highest key. -/
def kept (key : α → Int) (floor : Nat → Nat) (rows : List α) : Option α :=
  (rows.map key).max?.bind fun highest => lowestBy? key (rows.filter fun r => (floor highest.toNat : Int) ≤ key r)

def IsKept (key : α → Int) (floor : Nat → Nat) (rows : List α) (low : α) : Prop :=
  ∃ top ∈ rows, (∀ r ∈ rows, key r ≤ key top) ∧ low ∈ rows ∧ (floor (key top).toNat : Int) ≤ key low ∧
    ∀ r ∈ rows, (floor (key top).toNat : Int) ≤ key r → key low ≤ key r

variable {floor : Nat → Nat}

theorem IsKept.mem {low : α} (h : IsKept key floor rows low) : low ∈ rows := by
  obtain ⟨-, -, -, hl, -⟩ := h
  exact hl

/-- Something is kept as soon as there is a row. -/
theorem kept_cases (hf : ∀ n, floor n ≤ n) (hk : ∀ r ∈ rows, 0 ≤ key r) :
    (rows = [] ∧ kept key floor rows = none) ∨ ∃ low, kept key floor rows = some low ∧ IsKept key floor rows low := by
  unfold kept
  cases hmax : (rows.map key).max? with
  | none => exact .inl ⟨by simpa using hmax, rfl⟩
  | some highest =>
    obtain ⟨hm, hle⟩ := List.max?_eq_some_iff.mp hmax
    obtain ⟨top, htop, rfl⟩ := List.mem_map.mp hm
    have hle : ∀ r ∈ rows, key r ≤ key top := by simpa using hle
    have hfloor : (floor (key top).toNat : Int) ≤ key top := by
      have := hf (key top).toNat
      have := hk top htop
      omega
    have hmem : top ∈ rows.filter fun r => (floor (key top).toNat : Int) ≤ key r :=
      List.mem_filter.mpr ⟨htop, by simpa using hfloor⟩
    rw [Option.bind_some]
    cases hl : lowestBy? key (rows.filter fun r => (floor (key top).toNat : Int) ≤ key r) with
    | none =>
      rw [lowestBy?_eq_none.mp hl] at hmem
      cases hmem
    | some low =>
      obtain ⟨hlow, hmin⟩ := lowestBy?_spec hl
      obtain ⟨hlow, hge⟩ := List.mem_filter.mp hlow
      refine .inr ⟨low, rfl, top, htop, hle, hlow, by simpa using hge, fun r hr h => ?_⟩
      exact hmin r (List.mem_filter.mpr ⟨hr, by simpa using h⟩)

def keptKey (key : α → Int) (floor : Nat → Nat) (rows : List α) : Int := ((kept key floor rows).map key).getD 0

/-- Of two tables that hold the same rows from a base on, the one that has a row at the base keeps
at least as high a key, the base being counted in. -/
theorem keptKey_le {rows' : List α} (hf : ∀ n, floor n ≤ n) (hk : ∀ r ∈ rows, 0 ≤ key r)
    (hk' : ∀ r ∈ rows', 0 ≤ key r) {base : Int} (hb : base = 0 ∨ ∃ r ∈ rows, key r = base)
    (same : ∀ r, base ≤ key r → (r ∈ rows ↔ r ∈ rows')) :
    keptKey key floor rows' ≤ max base (keptKey key floor rows) := by
  unfold keptKey
  have hnonneg : 0 ≤ base := by
    rcases hb with rfl | ⟨r, hr, rfl⟩
    · exact Int.le_refl 0
    · exact hk r hr
  rcases kept_cases hf hk' with ⟨-, h'⟩ | ⟨low', h', top', htop', hle', hlow', hge', hmin'⟩
  · simp only [h', Option.map_none, Option.getD_none]
    omega
  rcases kept_cases hf hk with ⟨rfl, h⟩ | ⟨low, h, top, htop, hle, hlow, hge, hmin⟩
  · have hb : base = 0 := by simpa using hb
    subst hb
    cases (same low' (hk' low' hlow')).mpr hlow'
  -- Both count back from the same highest key, for the highest row lies at or above the base.
  have hbase : base ≤ key top := by
    rcases hb with rfl | ⟨r, hr, rfl⟩
    · exact hk top htop
    · exact hle r hr
  have htop₁ := hle' top ((same top hbase).mp htop)
  have htop₂ := hle top' ((same top' (by omega)).mpr htop')
  have he : key top' = key top := by omega
  rw [he] at hge' hmin'
  simp only [h, h', Option.map_some, Option.getD_some]
  by_cases hbl : base ≤ key low
  · have := hmin' low ((same low hbl).mp hlow) hge
    omega
  · obtain ⟨r, hr, hrb⟩ : ∃ r ∈ rows, key r = base := by
      rcases hb with rfl | hb
      · exact absurd (hk low hlow) hbl
      · exact hb
    have := hmin' r ((same r (by omega)).mp hr) (by omega)
    omega

end Lowest
end ValidatorSigner.Store

namespace ValidatorSigner.Protection
open Store

theorem Retention.blockFloor_le (window : Retention) (highest : Nat) : window.blockFloor highest ≤ highest :=
  Nat.sub_le _ _

theorem Retention.attestationFloor_le (window : Retention) (highest : Nat) :
    window.attestationFloor highest ≤ highest := Nat.sub_le _ _

/-- The attestation row that a prune run raises the watermark to, if there is any. -/
def keptAttestation (t : Tables) (id : ValidatorId) (window : Retention) : Option AttestationRow :=
  kept (·.target) window.attestationFloor (t.attestationsOf id)

def nextFloor (t : Tables) (id : ValidatorId) (window : Retention) : WatermarkRow :=
  ⟨id, max (t.floorOf id).slot (keptKey (·.slot) window.blockFloor (t.blocksOf id)),
    max (t.floorOf id).source (((keptAttestation t id window).map (·.source)).getD 0),
    max (t.floorOf id).target (keptKey (·.target) window.attestationFloor (t.attestationsOf id))⟩

section Rows
variable {t : Tables}

theorem blocksOf_legible (hw : t.WellFormed) (id : ValidatorId) : ∀ r ∈ t.blocksOf id, r.Legible := fun r hr =>
  hw.blocks r (Tables.mem_blocksOf.mp hr).1

theorem attestationsOf_legible (hw : t.WellFormed) (id : ValidatorId) :
    ∀ r ∈ t.attestationsOf id, r.Legible := fun r hr =>
  hw.attestations r (Tables.mem_attestationsOf.mp hr).1

theorem slot_bounds {r : BlockRow} (h : r.Legible) : 0 ≤ r.slot ∧ r.slot < storeBound := by
  obtain ⟨b, hb, rfl⟩ := h
  simp only [BlockProposal.row]
  omega

theorem epoch_bounds {r : AttestationRow} (h : r.Legible) :
    0 ≤ r.source ∧ r.source < storeBound ∧ 0 ≤ r.target ∧ r.target < storeBound := by
  obtain ⟨a, hs, ht, rfl⟩ := h
  simp only [Attestation.row]
  omega

theorem watermark_bounds {r : WatermarkRow} (h : r.Legible) :
    0 ≤ r.slot ∧ r.slot < storeBound ∧ 0 ≤ r.source ∧ r.source < storeBound ∧ 0 ≤ r.target ∧ r.target < storeBound := by
  obtain ⟨w, h1, h2, h3, rfl⟩ := h
  simp only [Watermark.row]
  omega

theorem legible_of_bounds {r : WatermarkRow} (h1 : 0 ≤ r.slot ∧ r.slot < storeBound)
    (h2 : 0 ≤ r.source ∧ r.source < storeBound) (h3 : 0 ≤ r.target ∧ r.target < storeBound) : r.Legible := by
  obtain ⟨validator, slot, source, target⟩ := r
  dsimp only at h1 h2 h3
  have hs : slot.toNat < storeBound ∧ (slot.toNat : Int) = slot := by omega
  have he : source.toNat < storeBound ∧ (source.toNat : Int) = source := by omega
  have ht : target.toNat < storeBound ∧ (target.toNat : Int) = target := by omega
  exact ⟨⟨validator, slot.toNat, source.toNat, target.toNat⟩, hs.1, he.1, ht.1,
    by simp only [Watermark.row, hs.2, he.2, ht.2]⟩

/-- The slot of the next watermark is the present one, or that of a block on record. -/
theorem nextFloor_slot (hw : t.WellFormed) (id : ValidatorId) (window : Retention) :
    (nextFloor t id window).slot = (t.floorOf id).slot ∨
      ∃ r ∈ t.blocksOf id, r.slot = (nextFloor t id window).slot := by
  have hb := watermark_bounds (hw.floorOf id)
  simp only [nextFloor, keptKey]
  rcases kept_cases window.blockFloor_le fun r hr => (slot_bounds (blocksOf_legible hw id r hr)).1 with
    ⟨-, h⟩ | ⟨low, h, hk⟩
  · left
    simp only [h, Option.map_none, Option.getD_none]
    omega
  · simp only [h, Option.map_some, Option.getD_some]
    by_cases hle : low.slot ≤ (t.floorOf id).slot
    · left
      omega
    · right
      exact ⟨low, hk.mem, by omega⟩

theorem nextFloor_ge (t : Tables) (id : ValidatorId) (window : Retention) :
    (t.floorOf id).slot ≤ (nextFloor t id window).slot ∧ (t.floorOf id).source ≤ (nextFloor t id window).source ∧
      (t.floorOf id).target ≤ (nextFloor t id window).target := by
  simp only [nextFloor]
  omega

def raised (t : Tables) (id : ValidatorId) (window : Retention) : Tables :=
  if nextFloor t id window = t.floorOf id then t else t.putWatermark (nextFloor t id window)

theorem floorOf_raised (t : Tables) (id other : ValidatorId) (window : Retention) :
    (raised t id window).floorOf other = if other = id then nextFloor t id window else t.floorOf other := by
  unfold raised
  split
  · rename_i he
    split
    · rename_i hid
      rw [he, hid]
    · rfl
  · exact Tables.floorOf_putWatermark ..

theorem raised_rest (t : Tables) (id : ValidatorId) (window : Retention) :
    (raised t id window).validators = t.validators ∧ (raised t id window).genesis = t.genesis ∧
      (raised t id window).blocks = t.blocks ∧ (raised t id window).attestations = t.attestations := by
  unfold raised
  split <;> exact ⟨rfl, rfl, rfl, rfl⟩

end Rows

section Advance
variable {db : Database}

theorem slotToKeep_apply (hm : db.missing = []) (hw : db.tables.WellFormed) (id : ValidatorId)
    (window : Retention) :
    Prune.slotToKeep id window db =
      .ok ((kept (·.slot) window.blockFloor (db.tables.blocksOf id)).map (·.slot.toNat), db) := by
  have hl := blocksOf_legible hw id
  unfold Prune.slotToKeep kept
  cases hmax : ((db.tables.blocksOf id).map (·.slot)).max? with
  | none =>
    have hh : Transaction.highestSlot id db = .ok (none, db) :=
      Transaction.reading_ok hm (by simp only [hmax]; rfl)
    rw [Transaction.bind_of_ok hh]
    rfl
  | some highest =>
    obtain ⟨top, htop, rfl⟩ := List.mem_map.mp (List.max?_mem hmax)
    have hb := slot_bounds (hl top htop)
    have hh : Transaction.highestSlot id db = .ok (some top.slot.toNat, db) := by
      apply Transaction.reading_ok hm
      simp only [hmax, decodeOption, ofColumn, if_pos hb.1]
      rfl
    have hf : window.blockFloor top.slot.toNat < storeBound := by
      have := window.blockFloor_le top.slot.toNat
      omega
    rw [Transaction.bind_of_ok hh, Option.bind_some]
    dsimp only
    unfold Transaction.lowestSlot
    rw [toColumn_of_lt hf, Transaction.bind_of_ok (Transaction.lift_ok _ _)]
    apply Transaction.reading_ok hm
    rw [List.filter_map, min?_map_key]
    cases hlow : lowestBy? (·.slot) ((db.tables.blocksOf id).filter
        ((fun slot => decide ((window.blockFloor top.slot.toNat : Int) ≤ slot)) ∘ fun r => r.slot)) with
    | none =>
      simp only [Function.comp_def] at hlow
      simp only [hlow]
      rfl
    | some low =>
      have hpos := (slot_bounds (hl low (List.mem_filter.mp (lowestBy?_spec hlow).1).1)).1
      simp only [Function.comp_def] at hlow
      simp only [hlow, Option.map_some, decodeOption, ofColumn, if_pos hpos]
      rfl

theorem attestationToKeep_apply (hm : db.missing = []) (hw : db.tables.WellFormed) (id : ValidatorId)
    (window : Retention) :
    Prune.attestationToKeep id window db =
      .ok ((keptAttestation db.tables id window).map fun r => (r.source.toNat, r.target.toNat), db) := by
  have hl := attestationsOf_legible hw id
  unfold Prune.attestationToKeep keptAttestation kept
  cases hmax : ((db.tables.attestationsOf id).map (·.target)).max? with
  | none =>
    have hh : Transaction.highestTarget id db = .ok (none, db) :=
      Transaction.reading_ok hm (by simp only [hmax]; rfl)
    rw [Transaction.bind_of_ok hh]
    rfl
  | some highest =>
    obtain ⟨top, htop, rfl⟩ := List.mem_map.mp (List.max?_mem hmax)
    have hb := epoch_bounds (hl top htop)
    have hh : Transaction.highestTarget id db = .ok (some top.target.toNat, db) := by
      apply Transaction.reading_ok hm
      simp only [hmax, decodeOption, ofColumn, if_pos hb.2.2.1]
      rfl
    have hf : window.attestationFloor top.target.toNat < storeBound := by
      have := window.attestationFloor_le top.target.toNat
      omega
    rw [Transaction.bind_of_ok hh, Option.bind_some]
    dsimp only
    unfold Transaction.lowestAttestation
    rw [toColumn_of_lt hf, Transaction.bind_of_ok (Transaction.lift_ok _ _)]
    apply Transaction.reading_ok hm
    cases hlow : lowestBy? (·.target) ((db.tables.attestationsOf id).filter
        fun r => (window.attestationFloor top.target.toNat : Int) ≤ r.target) with
    | none => rfl
    | some low =>
      obtain ⟨hs, -, ht, -⟩ := epoch_bounds (hl low (List.mem_filter.mp (lowestBy?_spec hlow).1).1)
      simp only [Option.map_some, decodeOption, ofColumn, if_pos hs, if_pos ht]
      rfl

theorem nextFloor_value (hw : db.tables.WellFormed) (id : ValidatorId) (window : Retention) :
    (nextFloor db.tables id window).value =
      (db.tables.floorOf id).value.raise
        ⟨id, ((kept (·.slot) window.blockFloor (db.tables.blocksOf id)).map (·.slot.toNat)).getD 0,
          (((keptAttestation db.tables id window).map fun r => (r.source.toNat, r.target.toNat)).getD (0, 0)).1,
          (((keptAttestation db.tables id window).map fun r => (r.source.toNat, r.target.toNat)).getD (0, 0)).2⟩ := by
  have hb := watermark_bounds (hw.floorOf id)
  have hid : (db.tables.floorOf id).validator = id := Tables.floorOf_validator
  simp only [nextFloor, WatermarkRow.value, Watermark.raise, Watermark.mk.injEq, hid, true_and, keptKey]
  refine ⟨?_, ?_, ?_⟩
  · cases kept (fun r : BlockRow => r.slot) window.blockFloor (db.tables.blocksOf id) with
    | none =>
      simp only [Option.map_none, Option.getD_none]
      omega
    | some low =>
      simp only [Option.map_some, Option.getD_some]
      omega
  · cases keptAttestation db.tables id window with
    | none =>
      simp only [Option.map_none, Option.getD_none]
      omega
    | some low =>
      simp only [Option.map_some, Option.getD_some]
      omega
  · unfold keptAttestation
    cases kept (fun r : AttestationRow => r.target) window.attestationFloor (db.tables.attestationsOf id) with
    | none =>
      simp only [Option.map_none, Option.getD_none]
      omega
    | some low =>
      simp only [Option.map_some, Option.getD_some]
      omega

theorem keptAttestation_cases {t : Tables} (hw : t.WellFormed) (id : ValidatorId) (window : Retention) :
    (t.attestationsOf id = [] ∧ keptAttestation t id window = none) ∨
      ∃ low ∈ t.attestationsOf id, keptAttestation t id window = some low := by
  rcases kept_cases window.attestationFloor_le
    fun r hr => (epoch_bounds (attestationsOf_legible hw id r hr)).2.2.1 with h | ⟨low, h, hk⟩
  · exact .inl h
  · exact .inr ⟨low, hk.mem, h⟩

/-- Source and target of the next watermark are maxima over the attestation that is kept. -/
theorem nextFloor_epochs {t : Tables} (hw : t.WellFormed) (id : ValidatorId) (window : Retention) :
    ((nextFloor t id window).source = (t.floorOf id).source ∧
      (nextFloor t id window).target = (t.floorOf id).target) ∨
    ∃ low ∈ t.attestationsOf id, (nextFloor t id window).source = max (t.floorOf id).source low.source ∧
      (nextFloor t id window).target = max (t.floorOf id).target low.target := by
  have hb := watermark_bounds (hw.floorOf id)
  rcases keptAttestation_cases hw id window with ⟨-, h⟩ | ⟨low, hl, h⟩
  · left
    have h' : kept (·.target) window.attestationFloor (t.attestationsOf id) = none := h
    simp only [nextFloor, h, keptKey, h', Option.map_none, Option.getD_none]
    omega
  · right
    have h' : kept (·.target) window.attestationFloor (t.attestationsOf id) = some low := h
    refine ⟨low, hl, ?_, ?_⟩
    · simp only [nextFloor, h, Option.map_some, Option.getD_some]
    · simp only [nextFloor, keptKey, h', Option.map_some, Option.getD_some]

theorem nextFloor_legible {t : Tables} (hw : t.WellFormed) (id : ValidatorId) (window : Retention) :
    (nextFloor t id window).Legible := by
  have hb := watermark_bounds (hw.floorOf id)
  have hs : 0 ≤ (nextFloor t id window).slot ∧ (nextFloor t id window).slot < storeBound := by
    rcases nextFloor_slot hw id window with h | ⟨r, hr, h⟩
    · omega
    · have := slot_bounds (blocksOf_legible hw id r hr)
      omega
  rcases nextFloor_epochs hw id window with ⟨h1, h2⟩ | ⟨low, hl, h1, h2⟩
  · exact legible_of_bounds hs (by omega) (by omega)
  · have := epoch_bounds (attestationsOf_legible hw id low hl)
    exact legible_of_bounds hs (by omega) (by omega)

/-- The next watermark is that of a registered validator, unless it is the present one. -/
theorem nextFloor_eq_of_unknown {t : Tables} (hw : t.WellFormed) {id : ValidatorId}
    (hn : t.isRegistered id = false) (window : Retention) : nextFloor t id window = t.floorOf id := by
  have hb : t.blocksOf id = [] := List.filter_eq_nil_iff.mpr fun r hr h => by
    rw [← of_decide_eq_true h, hw.blockOwners r hr] at hn
    cases hn
  have ha : t.attestationsOf id = [] := List.filter_eq_nil_iff.mpr fun r hr h => by
    rw [← of_decide_eq_true h, hw.attestationOwners r hr] at hn
    cases hn
  have hs : (nextFloor t id window).slot = (t.floorOf id).slot := by
    rcases nextFloor_slot hw id window with h | ⟨r, hr, -⟩
    · exact h
    · rw [hb] at hr
      cases hr
  rcases nextFloor_epochs hw id window with ⟨h1, h2⟩ | ⟨low, hl, -⟩
  · have hid : (t.floorOf id).validator = id := Tables.floorOf_validator
    cases hf : t.floorOf id with
    | mk validator slot source target =>
      simp only [hf] at hs h1 h2 hid
      rw [← hs, ← h1, ← h2, hid]
      rfl
  · rw [ha] at hl
    cases hl

theorem raiseWatermark_apply (hm : db.missing = []) {w : Watermark} (hs : w.slot < storeBound)
    (he : w.source < storeBound) (ht : w.target < storeBound)
    (hr : db.tables.isRegistered w.validator = true)
    (hge : (db.tables.floorOf w.validator).slot ≤ w.slot ∧ (db.tables.floorOf w.validator).source ≤ w.source ∧
      (db.tables.floorOf w.validator).target ≤ w.target) :
    Transaction.raiseWatermark w db =
      if db.readOnly then .error (.ofDatabase .readOnly)
      else .ok ((), { db with tables := db.tables.putWatermark w.row }) := by
  unfold Transaction.raiseWatermark
  rw [toColumn_of_lt hs, toColumn_of_lt he, toColumn_of_lt ht, Transaction.bind_of_ok (Transaction.lift_ok _ _),
    Transaction.bind_of_ok (Transaction.lift_ok _ _), Transaction.bind_of_ok (Transaction.lift_ok _ _),
    Transaction.writing_apply (Transaction.not_mem_missing hm _)]
  congr 1
  cases hw : db.tables.watermarkOf w.validator with
  | none =>
    simp only [hr, if_true, Except.map]
    rfl
  | some row =>
    simp only [Tables.floorOf, hw, Option.getD_some] at hge
    have h1 : max row.slot (w.slot : Int) = w.slot := by omega
    have h2 : max row.source (w.source : Int) = w.source := by omega
    have h3 : max row.target (w.target : Int) = w.target := by omega
    simp only [h1, h2, h3, Except.map]
    rfl

theorem advanceWatermark_apply (hm : db.missing = []) (hw : db.tables.WellFormed) (id : ValidatorId)
    (window : Retention) :
    Prune.advanceWatermark id window db =
      if nextFloor db.tables id window = db.tables.floorOf id then .ok ((db.tables.floorOf id).value, db)
      else if db.readOnly then .error (.ofDatabase .readOnly)
      else .ok ((nextFloor db.tables id window).value,
        { db with tables := db.tables.putWatermark (nextFloor db.tables id window) }) := by
  have hcurrent : ((db.tables.watermarkOf id).map WatermarkRow.value).getD (.floor id) =
      (db.tables.floorOf id).value := by
    unfold Tables.floorOf
    cases db.tables.watermarkOf id <;> rfl
  have hnext := nextFloor_legible hw id window
  unfold Prune.advanceWatermark
  rw [Transaction.bind_of_ok (Transaction.findWatermark_apply hm hw id), hcurrent,
    Transaction.bind_of_ok (slotToKeep_apply hm hw id window),
    Transaction.bind_of_ok (attestationToKeep_apply hm hw id window)]
  dsimp only
  rw [← nextFloor_value hw id window]
  by_cases he : nextFloor db.tables id window = db.tables.floorOf id
  · rw [if_pos he, he]
    simp [Transaction.pure_apply]
  · have hne : (nextFloor db.tables id window).value ≠ (db.tables.floorOf id).value := fun hv =>
      he (by rw [← hnext.row_value, hv, (hw.floorOf id).row_value])
    have hr : db.tables.isRegistered id = true := by
      cases hr : db.tables.isRegistered id with
      | true => rfl
      | false => exact absurd (nextFloor_eq_of_unknown hw hr window) he
    have hraise : Transaction.raiseWatermark (nextFloor db.tables id window).value db =
        if db.readOnly then .error (.ofDatabase .readOnly)
        else .ok ((), { db with tables := db.tables.putWatermark (nextFloor db.tables id window) }) := by
      obtain ⟨w, h1, h2, h3, hrow⟩ := hnext
      have hid : w.validator = id := congrArg WatermarkRow.validator hrow
      have hge := nextFloor_ge db.tables id window
      rw [← hrow] at hge ⊢
      rw [WatermarkRow.value_row]
      exact raiseWatermark_apply hm h1 h2 h3 (hid ▸ hr) (hid ▸ hge)
    rw [if_neg he, if_pos hne]
    cases hro : db.readOnly with
    | true =>
      rw [hro] at hraise
      exact Transaction.bind_of_error hraise
    | false =>
      rw [hro] at hraise
      exact Transaction.bind_of_ok hraise

end Advance
end ValidatorSigner.Protection
