import Mathlib.Logic.Relation
import ValidatorSigner.Proofs.Protection.History

/-! # What requests change

Tables change in seven ways. Five of them record nothing: a key is registered, the tables are bound to a
chain or stamped with a version, a watermark is raised, and rows below it are deleted. The other two record
what a scan permits. None of them lets go of the history.
-/
namespace ValidatorSigner.Protection
open Store

/-- Deletion of rows below the watermark, and of nothing else. -/
structure Forgets (t t' : Tables) : Prop where
  rest : t' = { t with blocks := t'.blocks, attestations := t'.attestations }
  blocks : t'.blocks.Sublist t.blocks
  attestations : t'.attestations.Sublist t.attestations
  blocksGone : ∀ r ∈ t.blocks, r ∉ t'.blocks → r.slot < (t.floorOf r.validator).slot
  attestationsGone : ∀ r ∈ t.attestations, r ∉ t'.attestations → r.target < (t.floorOf r.validator).target

inductive Trim (t : Tables) : Tables → Prop
  | raise (id : ValidatorId) (window : Retention) : Trim t (raised t id window)
  | forget {t' : Tables} (hf : Forgets t t') : Trim t t'

/-- A change that records nothing. -/
inductive Quiet (t : Tables) : Tables → Prop
  | enrol (key : PublicKey) (hn : t.idOf key = none) : Quiet t (t.addValidator key)
  | bind (root : Root) (hg : t.genesis = none) : Quiet t (bound t root)
  | stamp (version : Int) : Quiet t { t with version := some version }
  | trim {t' : Tables} (ht : Trim t t') : Quiet t t'

abbrev Quietly : Tables → Tables → Prop := Relation.ReflTransGen Quiet

section Keys
variable {t : Tables} {key : PublicKey} {id : ValidatorId}

theorem isRegistered_addValidator (h : t.isRegistered id = true) : (t.addValidator key).isRegistered id = true := by
  simp only [Tables.isRegistered, Tables.addValidator, List.any_append, Bool.or_eq_true] at h ⊢
  exact .inl h

theorem idOf_addValidator (hn : t.idOf key = none) (other : PublicKey) :
    (t.addValidator key).idOf other = if other = key then some t.nextId else t.idOf other := by
  have hnone : t.validators.find? (·.key = key) = none := by simpa [Tables.idOf] using hn
  simp only [Tables.idOf, Tables.addValidator, List.find?_append]
  by_cases he : other = key
  · subst he
    rw [hnone, if_pos rfl]
    simp
  · have hs : [(⟨t.nextId, key⟩ : ValidatorRow)].find? (·.key = other) = none := by simp [Ne.symm he]
    rw [hs, if_neg he, Option.or_none]

end Keys

namespace Guards
variable {t t' : Tables} {h : History}

theorem frame (g : Guards t h) (hb : t'.blocks = t.blocks) (ha : t'.attestations = t.attestations)
    (hw : t'.watermarks = t.watermarks) (hr : ∀ id, t.isRegistered id = true → t'.isRegistered id = true)
    (hg : ∀ bytes ∈ t'.genesis, ∃ root : Root, root.toList = bytes) : Guards t' h := by
  have hf : ∀ id, t'.floorOf id = t.floorOf id := fun id => by simp only [Tables.floorOf, Tables.watermarkOf, hw]
  exact {
    lawful := g.lawful
    blocksLegible := g.blocksLegible
    attestationsLegible := g.attestationsLegible
    blockOwners := fun r hm => hr _ (g.blockOwners r hm)
    attestationOwners := fun r hm => hr _ (g.attestationOwners r hm)
    watermarks := hw ▸ g.watermarks
    genesis := hg
    blocks := hb ▸ g.blocks
    attestations := ha ▸ g.attestations
    blocksGone := fun r hm hn => hf _ ▸ g.blocksGone r hm (hb ▸ hn)
    attestationsGone := fun r hm hn => hf _ ▸ g.attestationsGone r hm (ha ▸ hn)
    attestationsBelow := fun r hm => by simpa only [hf] using g.attestationsBelow r hm
    slotRecorded := fun id => by simpa only [hf] using g.slotRecorded id
    pairRecorded := fun id => by simpa only [hf] using g.pairRecorded id }

/-- Source and target of the next watermark are those of the present one, or of one attestation on
record. -/
theorem nextFloor_pair (g : Guards t h) (id : ValidatorId) (window : Retention) :
    ((nextFloor t id window).source = (t.floorOf id).source ∧
      (nextFloor t id window).target = (t.floorOf id).target) ∨
    ∃ r ∈ t.attestationsOf id, r.source = (nextFloor t id window).source ∧
      r.target = (nextFloor t id window).target := by
  rcases nextFloor_epochs g.wellFormed id window with he | ⟨low, hlow, hs, ht⟩
  · exact .inl he
  obtain ⟨hm, hid⟩ := Tables.mem_attestationsOf.mp hlow
  have hl := g.attestations.subset hm
  by_cases hlt : low.target < (t.floorOf id).target
  · -- A row that lies below the watermark already does not raise it.
    have hbelow := g.attestationsBelow low hl (by rwa [hid])
    rw [hid] at hbelow
    left
    omega
  · right
    refine ⟨low, hlow, ?_, by omega⟩
    rcases g.pairRecorded id with ⟨h0, -⟩ | ⟨r, hr, hrid, hrs, hrt⟩
    · have := (epoch_bounds (g.attestationsLegible low hl)).1
      omega
    · have := g.lawful.source_le hr hl (hrid.trans hid.symm) (by omega)
      omega

/-- Raising a watermark keeps the guard. No attestation below the row that is kept has a greater source,
or it would be surrounded. -/
theorem raise (g : Guards t h) (id : ValidatorId) (window : Retention) :
    Guards (raised t id window) h := by
  have hf (other : ValidatorId) : (raised t id window).floorOf other =
      if other = id then nextFloor t id window else t.floorOf other := floorOf_raised ..
  obtain ⟨hvalidators, hgenesis, hblocks, hattestations⟩ := raised_rest t id window
  have hreg (other : ValidatorId) : (raised t id window).isRegistered other = t.isRegistered other := by
    simp only [Tables.isRegistered, hvalidators]
  obtain ⟨hslot, hsource, htarget⟩ := nextFloor_ge t id window
  have hpair := g.nextFloor_pair id window
  exact {
    lawful := g.lawful
    blocksLegible := g.blocksLegible
    attestationsLegible := g.attestationsLegible
    blockOwners := fun r hm => hreg _ ▸ g.blockOwners r hm
    attestationOwners := fun r hm => hreg _ ▸ g.attestationOwners r hm
    watermarks := fun r hm => by
      unfold raised at hm
      split at hm
      · exact g.watermarks r hm
      · rcases List.mem_append.mp hm with hm | hm
        · exact g.watermarks r (List.mem_filter.mp hm).1
        · obtain rfl := List.mem_singleton.mp hm
          exact nextFloor_legible g.wellFormed id window
    genesis := hgenesis ▸ g.genesis
    blocks := hblocks ▸ g.blocks
    attestations := hattestations ▸ g.attestations
    blocksGone := fun r hm hn => by
      have hgone := g.blocksGone r hm (hblocks ▸ hn)
      rw [hf]
      split
      · rename_i he
        rw [he] at hgone
        omega
      · exact hgone
    attestationsGone := fun r hm hn => by
      have hgone := g.attestationsGone r hm (hattestations ▸ hn)
      rw [hf]
      split
      · rename_i he
        rw [he] at hgone
        omega
      · exact hgone
    attestationsBelow := fun r hm hlt => by
      rw [hf] at hlt ⊢
      split at hlt
      · rename_i he
        rw [if_pos he]
        rcases hpair with ⟨hs, ht⟩ | ⟨low, hlow, hs, ht⟩
        · have := g.attestationsBelow r hm (by rw [he]; omega)
          rw [he] at this
          omega
        · obtain ⟨hlow, hid⟩ := Tables.mem_attestationsOf.mp hlow
          have := g.lawful.source_le hm (g.attestations.subset hlow) (he.trans hid.symm) (by omega)
          omega
      · rename_i he
        rw [if_neg he]
        exact g.attestationsBelow r hm hlt
    slotRecorded := fun other => by
      rw [hf]
      split
      · rename_i he
        subst he
        rcases nextFloor_slot g.wellFormed other window with hs | ⟨r, hr, hs⟩
        · rw [hs]
          exact g.slotRecorded other
        · obtain ⟨hm, hid⟩ := Tables.mem_blocksOf.mp hr
          exact .inr ⟨r, g.blocks.subset hm, hid, hs⟩
      · exact g.slotRecorded other
    pairRecorded := fun other => by
      rw [hf]
      split
      · rename_i he
        subst he
        rcases hpair with ⟨hs, ht⟩ | ⟨low, hlow, hs, ht⟩
        · rw [hs, ht]
          exact g.pairRecorded other
        · obtain ⟨hm, hid⟩ := Tables.mem_attestationsOf.mp hlow
          exact .inr ⟨low, g.attestations.subset hm, hid, hs, ht⟩
      · exact g.pairRecorded other }

theorem forget (g : Guards t h) (hf : Forgets t t') : Guards t' h := by
  have hfloor (id : ValidatorId) : t'.floorOf id = t.floorOf id := by
    rw [hf.rest]
    rfl
  have hreg (id : ValidatorId) : t'.isRegistered id = t.isRegistered id := by
    rw [hf.rest]
    rfl
  exact {
    lawful := g.lawful
    blocksLegible := g.blocksLegible
    attestationsLegible := g.attestationsLegible
    blockOwners := fun r hm => hreg _ ▸ g.blockOwners r hm
    attestationOwners := fun r hm => hreg _ ▸ g.attestationOwners r hm
    watermarks := by
      rw [hf.rest]
      exact g.watermarks
    genesis := by
      rw [hf.rest]
      exact g.genesis
    blocks := hf.blocks.trans g.blocks
    attestations := hf.attestations.trans g.attestations
    blocksGone := fun r hm hn => by
      rw [hfloor]
      by_cases ht : r ∈ t.blocks
      · exact hf.blocksGone r ht hn
      · exact g.blocksGone r hm ht
    attestationsGone := fun r hm hn => by
      rw [hfloor]
      by_cases ht : r ∈ t.attestations
      · exact hf.attestationsGone r ht hn
      · exact g.attestationsGone r hm ht
    attestationsBelow := fun r hm => by simpa only [hfloor] using g.attestationsBelow r hm
    slotRecorded := fun id => by simpa only [hfloor] using g.slotRecorded id
    pairRecorded := fun id => by simpa only [hfloor] using g.pairRecorded id }

theorem trim (g : Guards t h) (ht : Trim t t') : Guards t' h := by
  cases ht with
  | raise id window => exact g.raise id window
  | forget hf => exact g.forget hf

theorem quiet (g : Guards t h) (hq : Quiet t t') : Guards t' h := by
  cases hq with
  | enrol key hn => exact g.frame rfl rfl rfl (fun _ => isRegistered_addValidator) g.genesis
  | bind root hg =>
    refine g.frame rfl rfl rfl (fun _ hr => hr) fun bytes hb => ⟨root, ?_⟩
    exact Option.some.inj hb
  | stamp version => exact g.frame rfl rfl rfl (fun _ hr => hr) g.genesis
  | trim ht => exact g.trim ht

theorem quietly (g : Guards t h) (hq : Quietly t t') : Guards t' h := by
  induction hq with
  | refl => exact g
  | tail _ hq ih => exact ih.quiet hq

end Guards
end ValidatorSigner.Protection
