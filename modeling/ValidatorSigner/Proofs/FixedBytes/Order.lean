import Mathlib.Data.List.Nodup
import ValidatorSigner.FixedBytes

/-! # The order of byte strings

Byte strings are compared like their lists of bytes. Sorting brings them into ascending order, and those that all
differ into a strictly ascending one.
-/
namespace ValidatorSigner.FixedBytes
variable {kind : ByteKind} {a b : FixedBytes kind} {values : List (FixedBytes kind)}

theorem not_lt_iff : ¬ a < b ↔ b.toList ≤ a.toList := List.not_lt

theorem lt_of_le_of_ne (h : a.toList ≤ b.toList) (hne : a ≠ b) : a < b := by
  by_contra hnot
  exact hne (ext (List.le_antisymm h (not_lt_iff.mp hnot)))

theorem mem_sort : a ∈ sort values ↔ a ∈ values := List.mem_mergeSort

theorem length_sort (values : List (FixedBytes kind)) : (sort values).length = values.length := List.length_mergeSort ..

theorem pairwise_le_sort (values : List (FixedBytes kind)) : (sort values).Pairwise fun a b => a.toList ≤ b.toList := by
  have hle (a b : FixedBytes kind) : (!decide (b < a)) = true ↔ a.toList ≤ b.toList := by
    simp [not_lt_iff]
  have htrans (a b c : FixedBytes kind) (hab : (!decide (b < a)) = true) (hbc : (!decide (c < b)) = true) :
      (!decide (c < a)) = true := (hle a c).mpr (List.le_trans ((hle a b).mp hab) ((hle b c).mp hbc))
  have htotal (a b : FixedBytes kind) : (!decide (b < a) || !decide (a < b)) = true := by
    rw [Bool.or_eq_true, hle, hle]
    exact List.le_total a.toList b.toList
  exact (List.pairwise_mergeSort htrans htotal values).imp fun {a b} h => (hle a b).mp h

theorem pairwise_lt_sort (h : values.Nodup) : (sort values).Pairwise (· < ·) := by
  have hnodup : (sort values).Nodup := (List.mergeSort_perm values _).nodup_iff.mpr h
  exact (pairwise_le_sort values).imp₂ (fun _ _ hle hne => lt_of_le_of_ne hle hne) hnodup

end ValidatorSigner.FixedBytes
