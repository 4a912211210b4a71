import ValidatorSigner.Keys.Signer
import ValidatorSigner.Proofs.FixedBytes.Order
import ValidatorSigner.Proofs.FixedBytes.WrittenForm

/-! # The order of written forms

Byte strings are in the order of their written forms. So a list of them that was sorted also looks sorted to
whoever reads it, and nothing that looks the same is different.
-/
namespace ValidatorSigner.FixedBytes
open Keys (KeyRing)
variable {kind : ByteKind} {a b : FixedBytes kind} {values : List (FixedBytes kind)} {texts : List String}

theorem toHex_lt_toHex_iff : a.toHex < b.toHex ↔ a < b := by
  -- Both texts begin with the mark, and the digits behind it decide.
  rw [String.lt_iff_toList_lt, toHex, toHex, String.toList_ofList, String.toList_ofList, List.cons_lt_cons_iff,
    List.cons_lt_cons_iff, Text.Hex.encode_lt_encode_iff]
  simp only [Char.lt_irrefl, true_and, false_or]
  rfl

theorem toHex_le_toHex_iff : a.toHex ≤ b.toHex ↔ a.toList ≤ b.toList := by
  rw [← not_lt, toHex_lt_toHex_iff, not_lt_iff]

theorem toHex_inj : a.toHex = b.toHex ↔ a = b := by
  constructor
  · intro h
    have hread := ofHex_toHex a
    rw [h, ofHex_toHex] at hread
    exact (Except.ok.inj hread).symm
  · intro h
    rw [h]

/-- There is one ascending order of written forms, and that is the one of sorted values. -/
theorem ascending_toHex_iff :
    texts.Perm (values.map toHex) ∧ texts.Pairwise (· ≤ ·) ↔ texts = (sort values).map toHex := by
  have hperm : ((sort values).map toHex).Perm (values.map toHex) := (List.mergeSort_perm ..).map _
  have hascending : ((sort values).map toHex).Pairwise (· ≤ ·) :=
    List.pairwise_map.mpr ((pairwise_le_sort values).imp toHex_le_toHex_iff.mpr)
  constructor
  · rintro ⟨htexts, hle⟩
    exact List.Perm.eq_of_pairwise' hle hascending (htexts.trans hperm.symm)
  · rintro rfl
    exact ⟨hperm, hascending⟩

/-- Values are in the order of their written forms, which differ if the values do. Written forms in ascending order
are those of the sorted values, and for the keys of a ring, those of the keys as the ring lists them. -/
theorem written_order_exact (kind : ByteKind) :
    (∀ a b : FixedBytes kind, (a < b ↔ a.toHex < b.toHex) ∧ (a.toHex = b.toHex ↔ a = b)) ∧
    (∀ (values : List (FixedBytes kind)) (texts : List String),
      texts.Perm (values.map toHex) ∧ texts.Pairwise (· ≤ ·) ↔ texts = (sort values).map toHex) ∧
    ∀ (ring : KeyRing) (texts : List String),
      texts.Perm (ring.signers.map (·.key.toHex)) ∧ texts.Pairwise (· ≤ ·) ↔ texts = ring.keys.map toHex := by
  refine ⟨fun a b => ⟨toHex_lt_toHex_iff.symm, toHex_inj⟩, fun values texts => ascending_toHex_iff, ?_⟩
  intro ring texts
  rw [KeyRing.keys, ← ascending_toHex_iff, List.map_map]
  rfl

end ValidatorSigner.FixedBytes
