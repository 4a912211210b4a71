import Mathlib.Logic.Relation
import Mathlib.Tactic.SplitIfs
import ValidatorSigner.Protection.Rules

/-! # Evidence that stands for all records

The rules are given a few records, and not all that there are. Their verdict is still that of a scan of all records,
as long as each search that has something to find has found it. So whoever records attestations by such verdicts
never has two that speak against each other.
-/
namespace ValidatorSigner.Protection

/-- The verdict of a scan of all records, with its reasons in their order of priority. -/
def Scan.records (records : List Attestation) (watermark : Option Watermark) (c : Attestation) : Verdict :=
  if c.target < c.source then .refuse .invalidEpochOrder
  else if ∃ w ∈ watermark, c.target < w.target ∨ c.source < w.source then .refuse .belowWatermark
  else if ∃ r ∈ records, r.target = c.target ∧ r.root ≠ c.root then .refuse .doubleVote
  else if ∃ r ∈ records, r.source < c.source ∧ c.target < r.target then .refuse .surroundedVote
  else if ∃ r ∈ records, c.source < r.source ∧ r.target < c.target then .refuse .surroundingVote
  else if ∃ r ∈ records, r.target = c.target ∧ r.root = c.root then .alreadySigned
  else .record

/-- What a search for a property finds: a record that has it, if there is one. If there is none, the search finds
nothing, or anything that does not have it either. -/
inductive Found (P : Attestation → Prop) (records : List Attestation) : Option Attestation → Prop
  | hit {r : Attestation} (hr : r ∈ records) (hp : P r) : Found P records (some r)
  | miss {found : Option Attestation} (hnone : ∀ r ∈ records, ¬ P r) (hfound : ∀ r ∈ found, ¬ P r) :
      Found P records found

/-- Evidence that is as good as all records. Those with the target of the candidate are complete, in whatever order
and however often; any others may be among them. -/
structure Evidence.StandsFor (evidence : Evidence) (records : List Attestation) (c : Attestation) : Prop where
  sameTarget : ∀ r, r.target = c.target → (r ∈ evidence.sameTarget ↔ r ∈ records)
  enclosing : Found (·.Surrounds c) records evidence.enclosing
  enclosed : Found c.Surrounds records evidence.enclosed

/-- Attestations that may all have been signed: none surrounds another one, and none has the target of another one
and a different root. -/
structure Compatible (records : List Attestation) : Prop where
  apart : ∀ a ∈ records, ∀ b ∈ records, ¬ a.Surrounds b
  oneRoot : ∀ a ∈ records, ∀ b ∈ records, a.target = b.target → a.root = b.root

/-- A candidate is offered, with any watermark, and it is kept if it is to be recorded. -/
inductive Offered : List Attestation → List Attestation → Prop
  | kept {records : List Attestation} {c : Attestation} {watermark : Option Watermark} {evidence : Evidence}
      (h : evidence.StandsFor records c) (hv : checkAttestation c watermark evidence = .record) :
      Offered records (records ++ [c])
  | dropped {records : List Attestation} {c : Attestation} {watermark : Option Watermark} {evidence : Evidence}
      (h : evidence.StandsFor records c) (hv : checkAttestation c watermark evidence ≠ .record) :
      Offered records records

section Evidence
variable {records records' : List Attestation} {c : Attestation} {watermark : Option Watermark} {evidence : Evidence}

theorem Found.exists_iff {P : Attestation → Prop} {found : Option Attestation} (h : Found P records found) :
    (∃ r ∈ found, P r) ↔ ∃ r ∈ records, P r := by
  cases h with
  | hit hr hp => exact iff_of_true ⟨_, rfl, hp⟩ ⟨_, hr, hp⟩
  | miss hnone hfound =>
    apply iff_of_false
    · rintro ⟨r, hr, hp⟩
      exact hfound r hr hp
    · rintro ⟨r, hr, hp⟩
      exact hnone r hr hp

theorem found_find? (records : List Attestation) (P : Attestation → Prop) [DecidablePred P] :
    Found P records (records.find? (P ·)) := by
  cases h : records.find? (P ·) with
  | none =>
    refine .miss (fun r hr => ?_) nofun
    simpa using List.find?_eq_none.mp h r hr
  | some r => exact .hit (List.mem_of_find?_eq_some h) (by simpa using List.find?_some h)

/-- There is such evidence for every candidate. -/
theorem standsFor_searched (records : List Attestation) (c : Attestation) :
    Evidence.StandsFor
      { sameTarget := records.filter (·.target = c.target)
        enclosing := records.find? (·.Surrounds c)
        enclosed := records.find? (c.Surrounds ·) } records c where
  sameTarget r hr := by simp [hr]
  enclosing := found_find? records (·.Surrounds c)
  enclosed := found_find? records (c.Surrounds ·)

theorem Evidence.StandsFor.exists_sameTarget_iff (h : evidence.StandsFor records c) (P : Attestation → Prop) :
    (∃ r ∈ evidence.sameTarget.filter (·.target = c.target), P r) ↔ ∃ r ∈ records, r.target = c.target ∧ P r := by
  constructor
  · rintro ⟨r, hr, hp⟩
    obtain ⟨hr, ht⟩ := List.mem_filter.mp hr
    have ht := of_decide_eq_true ht
    exact ⟨r, (h.sameTarget r ht).mp hr, ht, hp⟩
  · rintro ⟨r, hr, ht, hp⟩
    exact ⟨r, List.mem_filter.mpr ⟨(h.sameTarget r ht).mpr hr, decide_eq_true ht⟩, hp⟩

/-- Where no other root stands against a candidate, whatever has its target repeats it. -/
theorem repeated_iff (h : ¬ ∃ r ∈ records, r.target = c.target ∧ r.root ≠ c.root) :
    (∃ r ∈ records, r.target = c.target ∧ r.root = c.root) ↔ ∃ r ∈ records, r.target = c.target := by
  constructor
  · rintro ⟨r, hr, ht, -⟩
    exact ⟨r, hr, ht⟩
  · rintro ⟨r, hr, ht⟩
    exact ⟨r, hr, ht, Decidable.byContradiction fun hne => h ⟨r, hr, ht, hne⟩⟩

theorem checkAttestation_eq_records (h : evidence.StandsFor records c) :
    checkAttestation c watermark evidence = Scan.records records watermark c := by
  have hdouble := h.exists_sameTarget_iff (·.root ≠ c.root)
  have hsurrounded : (∃ r ∈ evidence.enclosing, r.source < c.source ∧ c.target < r.target) ↔
      ∃ r ∈ records, r.source < c.source ∧ c.target < r.target := h.enclosing.exists_iff
  have hsurrounding : (∃ r ∈ evidence.enclosed, c.source < r.source ∧ r.target < c.target) ↔
      ∃ r ∈ records, c.source < r.source ∧ r.target < c.target := h.enclosed.exists_iff
  have hsame : (evidence.sameTarget.filter (·.target = c.target)).isEmpty = true ↔
      ¬ ∃ r ∈ records, r.target = c.target := by
    have hany := h.exists_sameTarget_iff fun _ => True
    simp only [and_true] at hany
    rw [List.isEmpty_iff, List.eq_nil_iff_forall_not_mem, ← hany, not_exists]
  simp only [checkAttestation, Scan.records, Watermark.BlocksAttestation, Attestation.Surrounds, hdouble, hsurrounded,
    hsurrounding, hsame]
  -- The last question is about repetitions only where no double vote was found.
  by_cases hd : ∃ r ∈ records, r.target = c.target ∧ r.root ≠ c.root
  · simp only [if_pos hd]
  · simp only [repeated_iff hd, ite_not]

theorem Scan.of_records_record (h : Scan.records records watermark c = .record) :
    ∀ r ∈ records, r.target ≠ c.target ∧ ¬ r.Surrounds c ∧ ¬ c.Surrounds r := by
  unfold Scan.records at h
  split_ifs at h with hinverted hbelow hdouble hsurrounded hsurrounding hrepeated
  intro r hr
  refine ⟨fun ht => ?_, fun hs => hsurrounded ⟨r, hr, hs⟩, fun hs => hsurrounding ⟨r, hr, hs⟩⟩
  exact hrepeated ((repeated_iff hdouble).mpr ⟨r, hr, ht⟩)

theorem compatible_nil : Compatible [] where
  apart := nofun
  oneRoot := nofun

theorem Compatible.append (h : Compatible records)
    (hc : ∀ r ∈ records, r.target ≠ c.target ∧ ¬ r.Surrounds c ∧ ¬ c.Surrounds r) : Compatible (records ++ [c]) where
  apart a ha b hb := by
    rw [List.mem_append, List.mem_singleton] at ha hb
    rcases ha with ha | rfl
    · rcases hb with hb | rfl
      · exact h.apart a ha b hb
      · exact (hc a ha).2.1
    · rcases hb with hb | rfl
      · exact (hc b hb).2.2
      · exact fun hs => Nat.lt_irrefl _ hs.1
  oneRoot a ha b hb ht := by
    rw [List.mem_append, List.mem_singleton] at ha hb
    rcases ha with ha | rfl
    · rcases hb with hb | rfl
      · exact h.oneRoot a ha b hb ht
      · exact absurd ht (hc a ha).1
    · rcases hb with hb | rfl
      · exact absurd ht.symm (hc b hb).1
      · rfl

theorem Compatible.offered (h : Compatible records) (ho : Offered records records') : Compatible records' := by
  cases ho with
  | kept hstands hv =>
    rw [checkAttestation_eq_records hstands] at hv
    exact h.append (Scan.of_records_record hv)
  | dropped => exact h

theorem compatible_of_offers (h : Relation.ReflTransGen Offered [] records) : Compatible records := by
  induction h with
  | refl => exact compatible_nil
  | tail _ ho ih => exact ih.offered ho

end Evidence

/-- Evidence that stands for all records has the verdict of a scan of all records. Candidates that are recorded by
such verdicts, one after the other, are compatible. -/
theorem evidence_suffices :
    (∀ (records : List Attestation) (watermark : Option Watermark) (c : Attestation) (evidence : Evidence),
      evidence.StandsFor records c → checkAttestation c watermark evidence = Scan.records records watermark c) ∧
    ∀ records, Relation.ReflTransGen Offered [] records → Compatible records :=
  ⟨fun _ _ _ _ h => checkAttestation_eq_records h, fun _ h => compatible_of_offers h⟩

def plainVote (source target : Nat) (byte : UInt8) : Attestation := ⟨7, source, target, .replicate .root byte⟩

/-- A vote inside another one is refused though records with other targets are among the evidence, and though a
vote was found that it does not surround. Of three votes that are offered, two are kept. -/
theorem evidence_suffices_sample :
    let a := plainVote 10 20 10
    let b := plainVote 20 21 11
    let inside := plainVote 11 19 12
    let evidence : Evidence :=
      { sameTarget := [plainVote 2 5 1, b, b], enclosing := some a, enclosed := some (plainVote 30 40 2) }
    evidence.StandsFor [b, a] inside ∧ checkAttestation inside none evidence = .refuse .surroundedVote ∧
      Relation.ReflTransGen Offered [] [a, b] ∧ Compatible [a, b] := by
  intro a b inside evidence
  have hstands : evidence.StandsFor [b, a] inside := by
    refine ⟨fun r hr => ?_, .hit (by simp) (by decide), .miss (by decide) (by decide)⟩
    apply iff_of_false
    · intro hmem
      simp only [evidence, List.mem_cons, List.not_mem_nil, or_false] at hmem
      rcases hmem with rfl | rfl | rfl <;> exact absurd hr (by decide)
    · intro hmem
      simp only [List.mem_cons, List.not_mem_nil, or_false] at hmem
      rcases hmem with rfl | rfl <;> exact absurd hr (by decide)
  have hfirst : Offered [] [a] := @Offered.kept [] a none _ (standsFor_searched [] a) (by decide)
  have hmiddle : Offered [a] [a] := @Offered.dropped [a] inside none _ (standsFor_searched [a] inside) (by decide)
  have hlast : Offered [a] [a, b] := @Offered.kept [a] b none _ (standsFor_searched [a] b) (by decide)
  have hrun := ((Relation.ReflTransGen.single hfirst).tail hmiddle).tail hlast
  refine ⟨hstands, ?_, hrun, evidence_suffices.2 _ hrun⟩
  rw [evidence_suffices.1 _ none _ _ hstands]
  decide

end ValidatorSigner.Protection
