import ValidatorSigner.Proofs.Protection.Journal

/-! # Batches that add up

A batch takes the lowest rows below the watermark, and one that is not full leaves none of them. So the
batches of a prune run together delete all rows below the watermark and no others, however large each of
them may be, and what they count adds up to the rows that are gone.
-/
namespace ValidatorSigner.Store.WatermarkRow

def passesBlock (w : WatermarkRow) (r : BlockRow) : Bool := r.validator = w.validator ∧ r.slot < w.slot

def passesAttestation (w : WatermarkRow) (r : AttestationRow) : Bool :=
  r.validator = w.validator ∧ r.target < w.target

end ValidatorSigner.Store.WatermarkRow

namespace ValidatorSigner.Protection
open Store Telemetry

section Rows
variable {α : Type} {test : α → Bool} {key : α → Int} {limit : Nat} {rows : List α}

/-- Whether a batch takes a row: fewer rows than it may take are up for removal below that one. -/
def taken (test : α → Bool) (key : α → Int) (limit : Nat) (rows : List α) (row : α) : Bool :=
  test row && (rows.filter test).countP (fun other => key other < key row) < limit

theorem taken_iff {row : α} : taken test key limit rows row = true ↔
    test row = true ∧ (rows.filter test).countP (fun other => key other < key row) < limit := by
  simp [taken]

/-- A list falls into the rows that pass a test and those that do not. -/
theorem length_eq_countP_add_filter (p : α → Bool) (rows : List α) :
    rows.length = rows.countP p + (rows.filter fun row => !p row).length := by
  have hsplit := rows.length_eq_countP_add_countP p
  have hnot : (rows.filter fun row => !p row).length = rows.countP fun row => ¬ p row = true := by
    simp [List.countP_eq_length_filter]
  omega

theorem length_removeLowest (test : α → Bool) (key : α → Int) (limit : Nat) (rows : List α) :
    rows.length = rows.countP (taken test key limit rows) + (removeLowest test key limit rows).length :=
  length_eq_countP_add_filter (taken test key limit rows) rows

/-- A batch that is not full takes all rows that are up for removal: the lowest that stayed would have as
many below it as a batch may take. -/
theorem removeLowest_of_short (h : rows.length < (removeLowest test key limit rows).length + limit) :
    removeLowest test key limit rows = rows.filter fun row => !test row := by
  rw [length_removeLowest test key limit rows] at h
  have hall (row : α) (hrow : row ∈ rows) (ht : test row = true) : taken test key limit rows row = true := by
    refine Decidable.byContradiction fun hn => ?_
    let stays (row : α) : Bool := test row && !taken test key limit rows row
    cases hl : lowestBy? key (rows.filter stays) with
    | none =>
      have hmem : row ∈ rows.filter stays := List.mem_filter.mpr ⟨hrow, by simp [stays, ht, hn]⟩
      rw [lowestBy?_eq_none.mp hl] at hmem
      cases hmem
    | some low =>
      obtain ⟨hlow, hmin⟩ := lowestBy?_spec hl
      obtain ⟨-, hstays⟩ := List.mem_filter.mp hlow
      obtain ⟨htlow, hnlow⟩ : test low = true ∧ ¬ taken test key limit rows low = true := by simpa [stays] using hstays
      have hmany : limit ≤ (rows.filter test).countP (fun other => key other < key low) :=
        Nat.not_lt.mp fun hlt => hnlow (taken_iff.mpr ⟨htlow, hlt⟩)
      have hgone : (rows.filter test).countP (fun other => key other < key low) ≤
          rows.countP (taken test key limit rows) := by
        rw [List.countP_filter]
        refine List.countP_mono_left fun other hother hlt => ?_
        obtain ⟨hlt, htest⟩ : key other < key low ∧ test other = true := by simpa using hlt
        refine Decidable.byContradiction fun hstay => ?_
        have := hmin other (List.mem_filter.mpr ⟨hother, by simp [stays, htest, hstay]⟩)
        omega
      omega
  refine List.filter_congr fun row hrow => ?_
  cases ht : test row with
  | false => rfl
  | true =>
    obtain ⟨-, hfew⟩ := taken_iff.mp (hall row hrow ht)
    simp [hfew]

end Rows

section Loop
variable {α : Type} {test : α → Bool} {key : α → Int} {batch : Nat} {delete : Transaction Nat}
  {place : List α → Tables} {e : Engine}

/-- As many batches as there can be rows, and one, delete all rows that are up for removal. -/
theorem deleteBatches_all (hb : 1 ≤ batch) (hf : e.obstacle? e.service.cleaning = none)
    (hd : ∀ rows, delete (e.withTables (place rows)).database =
      .ok (rows.length - (removeLowest test key batch rows).length,
        (e.withTables (place (removeLowest test key batch rows))).database))
    (operation : String) (total : Nat) {rounds : Nat} {rows : List α} (hr : rows.length < rounds) :
    Request.deleteBatches operation batch delete total rounds (e.withTables (place rows)) =
      (.ok (total + rows.countP test), e.withTables (place (rows.filter fun row => !test row))) := by
  induction rounds generalizing total rows with
  | zero => exact absurd hr (Nat.not_lt_zero _)
  | succ rounds ih =>
    have ht : transactCleaning operation delete (e.withTables (place rows)) =
        (.ok (rows.length - (removeLowest test key batch rows).length),
          e.withTables (place (removeLowest test key batch rows))) :=
      transactOn_of_ok (e := e.withTables (place rows)) hf (hd rows)
    have hsame : (removeLowest test key batch rows).filter (fun row => !test row) = rows.filter fun row => !test row :=
      filter_removeLowest fun row hrow => by simpa using hrow
    have hsplit := length_eq_countP_add_filter test rows
    have hsplit' := length_eq_countP_add_filter test (removeLowest test key batch rows)
    have hle : (removeLowest test key batch rows).length ≤ rows.length := removeLowest_sublist.length_le
    rw [hsame] at hsplit'
    unfold Request.deleteBatches
    rw [Request.bind_of_ok ht]
    by_cases hlt : rows.length - (removeLowest test key batch rows).length < batch
    · have hlast : removeLowest test key batch rows = rows.filter fun row => !test row :=
        removeLowest_of_short (by omega)
      rw [if_pos hlt, hlast]
      have hcount : total + (rows.length - (rows.filter fun row => !test row).length) = total + rows.countP test := by
        omega
      rw [hcount]
      rfl
    · rw [if_neg hlt, ih _ (by omega), hsame]
      have hcount : total + (rows.length - (removeLowest test key batch rows).length) +
          (removeLowest test key batch rows).countP test = total + rows.countP test := by
        omega
      rw [hcount]

end Loop

def swept (t : Tables) (w : WatermarkRow) : Tables :=
  { t with
    blocks := t.blocks.filter fun r => !w.passesBlock r
    attestations := t.attestations.filter fun r => !w.passesAttestation r }

def sweptReport (t : Tables) (w : WatermarkRow) : PruneReport :=
  ⟨t.blocks.countP w.passesBlock, t.attestations.countP w.passesAttestation, some w.value⟩

def PruneReport.counted (report : PruneReport) (metrics : Metrics) : Metrics :=
  (metrics.add (.pruned Table.signedBlocks.name) report.deletedBlocks).add
    (.pruned Table.signedAttestations.name) report.deletedAttestations

section Sweep
variable {e : Engine} {batch : Nat}

/-- What is below the watermark goes, and nothing else. -/
theorem sweep_apply (hm : e.database.missing = []) (hb : 1 ≤ batch) (hc : e.CanSweep batch) {w : WatermarkRow}
    (hl : w.Legible) :
    Request.sweep .all w.validator batch w.value e =
      (.ok (sweptReport e.tables w),
        { e.withTables (swept e.tables w) with metrics := (sweptReport e.tables w).counted e.metrics }) := by
  obtain ⟨hfree, hwrite, hstore⟩ := hc
  obtain ⟨watermark, hslot, -, htarget, rfl⟩ := hl
  have hm (t : Tables) : (e.withTables t).database.missing = [] := hm
  have hblocks (rows : List BlockRow) :
      Transaction.deleteBlocks watermark.validator watermark.slot batch
          (e.withTables { e.tables with blocks := rows }).database =
        .ok (rows.length - (removeLowest watermark.row.passesBlock (·.slot) batch rows).length,
          (e.withTables { e.tables with
            blocks := removeLowest watermark.row.passesBlock (·.slot) batch rows }).database) := by
    rw [deleteBlocks_apply (hm _) hslot hstore]
    exact if_neg (by simp [hwrite])
  have hattestations (blocks : List BlockRow) (rows : List AttestationRow) :
      Transaction.deleteAttestations watermark.validator watermark.target batch
          (e.withTables { e.tables with blocks, attestations := rows }).database =
        .ok (rows.length - (removeLowest watermark.row.passesAttestation (·.target) batch rows).length,
          (e.withTables { e.tables with
            blocks
            attestations := removeLowest watermark.row.passesAttestation (·.target) batch rows }).database) := by
    rw [deleteAttestations_apply (hm _) htarget hstore]
    exact if_neg (by simp [hwrite])
  have hfirst := deleteBatches_all hb hfree hblocks "prune_blocks" 0 (Nat.lt_succ_self e.tables.blocks.length)
  let t₁ : Tables := { e.tables with blocks := e.tables.blocks.filter fun r => !watermark.row.passesBlock r }
  have hsecond := deleteBatches_all (e := e.withTables t₁) hb hfree (hattestations t₁.blocks) "prune_attestations" 0
    (Nat.lt_succ_self e.tables.attestations.length)
  rw [Nat.zero_add] at hfirst hsecond
  unfold Request.sweep
  rw [Request.get_bind, WatermarkRow.value_row]
  refine (Request.bind_of_ok hfirst).trans ?_
  rw [Request.get_bind]
  exact (Request.bind_of_ok hsecond).trans rfl

theorem sweptReport_raised (t : Tables) (id : ValidatorId) (window : Retention) (w : WatermarkRow) :
    sweptReport (raised t id window) w = sweptReport t w := by
  obtain ⟨-, -, hblocks, hattestations⟩ := raised_rest t id window
  simp only [sweptReport, hblocks, hattestations]

def pruned (t : Tables) (id : ValidatorId) (window : Retention) : Tables :=
  swept (raised t id window) (nextFloor t id window)

/-- A prune run comes to an end that is known beforehand: it cannot begin, or its batches are too large
for the database, or it deletes what lies below the next watermark. -/
theorem prune_apply (hm : e.database.missing = []) (hw : e.tables.WellFormed) (hr : e.database.readOnly = false)
    (id : ValidatorId) (window : Retention) :
    Request.prune id window e =
      match e.obstacle? e.service.cleaning with
      | some fault => e.failed "prune_watermark" (.access fault)
      | none =>
        if e.service.pruning.batchSize < storeBound then
          (.ok (sweptReport e.tables (nextFloor e.tables id window)),
            { e.withTables (pruned e.tables id window) with
              metrics := (sweptReport e.tables (nextFloor e.tables id window)).counted e.metrics })
        else
          (e.withTables (raised e.tables id window)).failed "prune_blocks"
            (.outOfRange .batchSize e.service.pruning.batchSize) := by
  have hraise := raise_apply hm hw id window
  have hl : (nextFloor e.tables id window).Legible := nextFloor_legible hw id window
  rw [Request.prune_eq]
  unfold Request.pruneWithin
  rw [Request.get_bind]
  cases hf : e.obstacle? e.service.cleaning with
  | some fault =>
    rw [hf] at hraise
    exact Request.bind_of_error hraise
  | none =>
    have hnot : ¬ (nextFloor e.tables id window ≠ e.tables.floorOf id ∧ e.database.readOnly = true) := by
      simp [hr]
    simp only [hf, if_neg hnot] at hraise
    refine (Request.bind_of_ok hraise).trans ?_
    dsimp only
    split
    · rename_i hb
      have hc : (e.withTables (raised e.tables id window)).CanSweep (max 1 e.service.pruning.batchSize) :=
        ⟨hf, hr, Nat.max_lt.mpr ⟨by decide, hb⟩⟩
      have hsweep := sweep_apply (e := e.withTables (raised e.tables id window)) hm (Nat.le_max_left ..) hc hl
      rw [sweptReport_raised] at hsweep
      exact hsweep
    · rename_i hb
      have hbatch : max 1 e.service.pruning.batchSize = e.service.pruning.batchSize := by
        have := storeBound_pos
        omega
      rw [hbatch]
      have hdelete : Transaction.deleteBlocks id (nextFloor e.tables id window).value.slot
          e.service.pruning.batchSize (e.withTables (raised e.tables id window)).database =
            .error (.outOfRange .batchSize e.service.pruning.batchSize) := by
        obtain ⟨watermark, hslot, -, -, he⟩ := hl
        rw [← he, WatermarkRow.value_row]
        unfold Transaction.deleteBlocks
        rw [toColumn_of_lt hslot, toColumn_of_le (Nat.not_lt.mp hb), Transaction.bind_of_ok (Transaction.lift_ok _ _)]
        exact Transaction.bind_of_error (Transaction.lift_error _ _)
      unfold Request.sweep
      rw [Request.get_bind]
      have hbatches : Request.deleteBatches "prune_blocks" e.service.pruning.batchSize
          (Transaction.deleteBlocks id (nextFloor e.tables id window).value.slot e.service.pruning.batchSize) 0
          ((raised e.tables id window).blocks.length + 1) (e.withTables (raised e.tables id window)) =
            (e.withTables (raised e.tables id window)).failed "prune_blocks"
              (.outOfRange .batchSize e.service.pruning.batchSize) :=
        Request.bind_of_error (transactOn_of_error (e := e.withTables (raised e.tables id window)) hf hdelete)
      exact Request.bind_of_error hbatches

/-- Where nothing may be written, a prune run fails and leaves all as it is. -/
theorem prune_of_readOnly (hm : e.database.missing = []) (hw : e.tables.WellFormed)
    (hr : e.database.readOnly = true) (id : ValidatorId) (window : Retention) :
    ∃ operation cause, Request.prune id window e = e.failed operation cause := by
  have hraise := raise_apply hm hw id window
  unfold Request.prune
  rw [Request.get_bind]
  cases hf : e.obstacle? e.service.cleaning with
  | some fault =>
    rw [hf] at hraise
    exact ⟨_, _, Request.bind_of_error hraise⟩
  | none =>
    by_cases he : nextFloor e.tables id window = e.tables.floorOf id
    · rw [hf, raised, if_pos he] at hraise
      simp only [he, ne_eq, not_true, false_and, if_false] at hraise
      -- The watermark stands as it is, so it is the first batch that is refused.
      cases hd : Transaction.deleteBlocks id (e.tables.floorOf id).value.slot (max 1 e.service.pruning.batchSize)
          e.database with
      | error cause =>
        refine ⟨"prune_blocks", cause, (Request.bind_of_ok hraise).trans ?_⟩
        rw [Request.get_bind]
        exact Request.bind_of_error (Request.bind_of_error (transactOn_of_error hf hd))
      | ok result =>
        obtain ⟨-, hrest⟩ := Transaction.column_ok_iff.mp hd
        obtain ⟨-, hwrite⟩ := Transaction.column_ok_iff.mp hrest
        obtain ⟨-, hwritable, -⟩ := Transaction.of_writing_ok hwrite
        exact absurd hwritable (by simp [hr])
    · simp only [hf, if_pos (And.intro he hr)] at hraise
      exact ⟨_, _, Request.bind_of_error hraise⟩

theorem prune_of_free (hm : e.database.missing = []) (hw : e.tables.WellFormed) (hr : e.database.readOnly = false)
    (hf : e.obstacle? e.service.cleaning = none) (hb : e.service.pruning.batchSize < storeBound) (id : ValidatorId)
    (window : Retention) :
    Request.prune id window e =
      (.ok (sweptReport e.tables (nextFloor e.tables id window)),
        { e.withTables (pruned e.tables id window) with
          metrics := (sweptReport e.tables (nextFloor e.tables id window)).counted e.metrics }) := by
  rw [prune_apply hm hw hr, hf]
  exact if_pos hb

end Sweep
end ValidatorSigner.Protection
