import Mathlib.Data.Finset.Card
import ValidatorSigner.Proofs.FixedBytes.Order
import ValidatorSigner.Proofs.Keys.Loading

/-! # Signers offered one after the other

Of the signers that are offered to a key ring, it keeps the first one for each key. A later one for the same key is
refused and leaves the ring as it was, so that no signer ever takes the place of another.
-/
namespace ValidatorSigner.Keys
namespace KeyRing

/-- Why a signer is not added, if it is not, and the ring that is there afterwards: the same one in that case. -/
def offer (ring : KeyRing) (signer : Signer) : Option KeyError × KeyRing :=
  match ring.add signer with
  | .ok ring' => (none, ring')
  | .error error => (some error, ring)

def offerAll (ring : KeyRing) (signers : List Signer) : KeyRing :=
  signers.foldl (fun ring signer => (ring.offer signer).2) ring

variable {ring : KeyRing} {signer : Signer}

theorem offerAll_append (ring : KeyRing) (earlier : List Signer) (signer : Signer) :
    ring.offerAll (earlier ++ [signer]) = ((ring.offerAll earlier).offer signer).2 := by
  simp only [offerAll, List.foldl_append, List.foldl_cons, List.foldl_nil]

theorem offer_taken (h : signer.key ∈ ring.signers.map (·.key)) :
    ring.offer signer = (some (.duplicate signer.key), ring) := by
  have hadd : ring.add signer = .error (.duplicate signer.key) := add_error_iff.mpr ⟨h, rfl⟩
  simp only [offer, hadd]

theorem offer_new (h : signer.key ∉ ring.signers.map (·.key)) :
    (ring.offer signer).1 = none ∧ (ring.offer signer).2.signers = ring.signers ++ [signer] := by
  cases hadd : ring.add signer with
  | error error => exact absurd (add_error_iff.mp hadd).1 h
  | ok ring' =>
    have hoffer : ring.offer signer = (none, ring') := by simp only [offer, hadd]
    rw [hoffer]
    exact ⟨rfl, (add_ok_iff.mp hadd).2⟩

/-- Offering a signer changes what is found only for its key, and only if nothing was found for that. -/
theorem get?_offer (ring : KeyRing) (signer : Signer) (key : PublicKey) :
    (ring.offer signer).2.get? key = (ring.get? key).or ([signer].find? (·.key = key)) := by
  by_cases hm : signer.key ∈ ring.signers.map (·.key)
  · rw [offer_taken hm]
    by_cases hkey : signer.key = key
    · cases hfound : ring.get? key with
      | none => exact absurd (hkey ▸ hm) (get?_eq_none_iff.mp hfound)
      | some found => rfl
    · simp [hkey]
  · -- A new signer comes last, so that it is found only if no other one is.
    simp only [get?, (offer_new hm).2, List.find?_append]

theorem mem_keys_iff {key : PublicKey} : key ∈ ring.keys ↔ ∃ signer, ring.get? key = some signer := by
  rw [keys, FixedBytes.mem_sort, ← Option.ne_none_iff_exists', ne_eq, get?_eq_none_iff, not_not]

theorem ascending_keys (ring : KeyRing) : ring.keys.Pairwise (· < ·) := FixedBytes.pairwise_lt_sort ring.nodup

theorem size_eq_card (ring : KeyRing) : ring.size = ring.keys.toFinset.card := by
  have hnodup : ring.keys.Nodup := (List.mergeSort_perm ..).nodup_iff.mpr ring.nodup
  rw [List.toFinset_card_of_nodup hnodup, keys, FixedBytes.length_sort, List.length_map, size]

end KeyRing

structure FirstOfEach (offered : List Signer) (ring : KeyRing) : Prop where
  /-- The first signer that was offered for a key is the one that is found. -/
  found : ∀ key, ring.get? key = offered.find? (·.key = key)
  own : ∀ key signer, ring.get? key = some signer → signer.key = key
  refuses : ∀ signer error, (ring.offer signer).1 = some error ↔
    error = .duplicate signer.key ∧ ∃ earlier ∈ offered, earlier.key = signer.key
  unchanged : ∀ signer error, (ring.offer signer).1 = some error → (ring.offer signer).2 = ring
  keys : ∀ key, key ∈ ring.keys ↔ ∃ signer ∈ offered, signer.key = key
  ascending : ring.keys.Pairwise fun a b => a.toList < b.toList
  size : ring.size = (offered.map (·.key)).toFinset.card
  isEmpty : ring.isEmpty = true ↔ ring.size = 0

section FirstOfEach
variable {offered : List Signer} {ring : KeyRing}

/-- Everything else follows from what is found. -/
theorem FirstOfEach.of_found (h : ∀ key, ring.get? key = offered.find? (·.key = key)) : FirstOfEach offered ring := by
  have hkeys (key : PublicKey) : key ∈ ring.keys ↔ ∃ signer ∈ offered, signer.key = key := by
    rw [KeyRing.mem_keys_iff, ← Option.ne_none_iff_exists', h, ne_eq, find?_key_eq_none_iff, not_not, List.mem_map]
  have htaken (signer : Signer) :
      signer.key ∈ ring.signers.map (·.key) ↔ ∃ earlier ∈ offered, earlier.key = signer.key := by
    rw [← hkeys, KeyRing.keys, FixedBytes.mem_sort]
  refine ⟨h, ?_, ?_, ?_, hkeys, ring.ascending_keys, ?_, beq_iff_eq⟩
  · intro key signer hfound
    exact (KeyRing.get?_eq_some_iff.mp hfound).2
  · intro signer error
    rw [← htaken]
    by_cases hm : signer.key ∈ ring.signers.map (·.key)
    · simp [KeyRing.offer_taken hm, hm, eq_comm]
    · simp [(KeyRing.offer_new hm).1, hm]
  · intro signer error hrefused
    by_cases hm : signer.key ∈ ring.signers.map (·.key)
    · rw [KeyRing.offer_taken hm]
    · rw [(KeyRing.offer_new hm).1] at hrefused
      cases hrefused
  · rw [KeyRing.size_eq_card]
    congr 1
    ext key
    rw [List.mem_toFinset, List.mem_toFinset, hkeys, List.mem_map]

theorem FirstOfEach.offer (h : FirstOfEach offered ring) (signer : Signer) :
    FirstOfEach (offered ++ [signer]) (ring.offer signer).2 := by
  apply FirstOfEach.of_found
  intro key
  rw [KeyRing.get?_offer, h.found, List.find?_append]

end FirstOfEach

/-- Whatever signers are offered to an empty ring, it holds the first one for each key. -/
theorem firstOfEach_offerAll (signers : List Signer) : FirstOfEach signers (({} : KeyRing).offerAll signers) := by
  induction signers using List.reverseRecOn with
  | nil => exact FirstOfEach.of_found fun _ => rfl
  | append_singleton earlier signer ih =>
    rw [KeyRing.offerAll_append]
    exact ih.offer signer

end ValidatorSigner.Keys
