import Mathlib
import ValidatorSigner.Proofs.Signing.SameFile

/-! # What is signed can never be slashed for

Over the whole life of a database file, through failures, restarts and pruning, no two signatures of one key
conflict. The record of an attestation does not tell its source to those who ask for the target again, so the
law of surrounding votes takes roots that tell their epochs.
-/
namespace ValidatorSigner
open Keys Protection Signing Store Telemetry

/-- Attestations that are asked for with one root have one source and one target. -/
def RootsTellEpochs (calls : List Call) : Prop :=
  ∀ a ∈ calls.filterMap Call.vote?, ∀ b ∈ calls.filterMap Call.vote?, a.root = b.root →
    a.source = b.source ∧ a.target = b.target

namespace Deployment
variable {n : Nat} {t : Tables} {h : History} {site : Deployment} {key : PublicKey}

theorem Sound.block_root_unique (hs : site.Sound n t h) {slot : Nat} {root₁ root₂ : Root}
    (h₁ : site.Signed key (.block slot) root₁) (h₂ : site.Signed key (.block slot) root₂) : root₁ = root₂ := by
  obtain ⟨id₁, hid₁, r₁, hr₁, hv₁, hslot₁, hroot₁⟩ := hs.recorded key _ root₁ h₁
  obtain ⟨id₂, hid₂, r₂, hr₂, hv₂, hslot₂, hroot₂⟩ := hs.recorded key _ root₂ h₂
  obtain rfl : id₁ = id₂ := Option.some.inj (hid₁.symm.trans hid₂)
  have he := hs.guards.lawful.eq_of_slot hr₁ hr₂ (hv₁.trans hv₂.symm) (hslot₁.trans hslot₂.symm)
  exact FixedBytes.ext (by rw [← hroot₁, ← hroot₂, he])

theorem Sound.attestation_root_unique (hs : site.Sound n t h) {source₁ source₂ target : Nat} {root₁ root₂ : Root}
    (h₁ : site.Signed key (.attestation source₁ target) root₁)
    (h₂ : site.Signed key (.attestation source₂ target) root₂) : root₁ = root₂ := by
  obtain ⟨id₁, hid₁, r₁, hr₁, hv₁, htarget₁, hroot₁⟩ := hs.recorded key _ root₁ h₁
  obtain ⟨id₂, hid₂, r₂, hr₂, hv₂, htarget₂, hroot₂⟩ := hs.recorded key _ root₂ h₂
  obtain rfl : id₁ = id₂ := Option.some.inj (hid₁.symm.trans hid₂)
  have he := hs.guards.lawful.eq_of_target hr₁ hr₂ (hv₁.trans hv₂.symm) (htarget₁.trans htarget₂.symm)
  exact FixedBytes.ext (by rw [← hroot₁, ← hroot₂, he])

/-- Where roots tell the epochs, a signed attestation is on record with its own source. -/
theorem Sound.attestation_row (hs : site.Sound n t h) {calls : List Call}
    (hlog : ∀ entry ∈ site.log, entry.1 ∈ calls) (hroots : RootsTellEpochs calls) {source target : Nat} {root : Root}
    (hsigned : site.Signed key (.attestation source target) root) :
    ∃ id, t.idOf key = some id ∧ ∃ r ∈ h.attestations,
      r.validator = id ∧ r.source = (source : Int) ∧ r.target = (target : Int) := by
  obtain ⟨id, hid, r, hr, hv, htarget, hroot⟩ := hs.recorded key _ root hsigned
  obtain ⟨genesis, signature, hm⟩ := hsigned
  obtain ⟨entry, he, vote, hvote, hsource, -, hvoted⟩ := hs.asked r hr
  have hsame : vote.root = root := FixedBytes.ext (hvoted.symm.trans hroot)
  have hepochs := hroots vote (List.mem_filterMap.mpr ⟨_, hlog _ he, hvote⟩) ⟨source, target, root⟩
    (List.mem_filterMap.mpr ⟨_, hlog _ hm, rfl⟩) hsame
  exact ⟨id, hid, r, hr, hv, hsource.trans (congrArg Nat.cast hepochs.1), htarget⟩

theorem Sound.not_surrounding (hs : site.Sound n t h) {calls : List Call}
    (hlog : ∀ entry ∈ site.log, entry.1 ∈ calls) (hroots : RootsTellEpochs calls)
    {source₁ target₁ source₂ target₂ : Nat} {root₁ root₂ : Root}
    (h₁ : site.Signed key (.attestation source₁ target₁) root₁)
    (h₂ : site.Signed key (.attestation source₂ target₂) root₂) : ¬ (source₁ < source₂ ∧ target₂ < target₁) := by
  rintro ⟨hsources, htargets⟩
  obtain ⟨id₁, hid₁, r₁, hr₁, hv₁, hsource₁, htarget₁⟩ := hs.attestation_row hlog hroots h₁
  obtain ⟨id₂, hid₂, r₂, hr₂, hv₂, hsource₂, htarget₂⟩ := hs.attestation_row hlog hroots h₂
  obtain rfl : id₁ = id₂ := Option.some.inj (hid₁.symm.trans hid₂)
  have hle := hs.guards.lawful.source_le hr₂ hr₁ (hv₂.trans hv₁.symm) (by omega)
  omega

theorem sound_fresh {host : Host} {writeAhead : Bool}
    (hfresh : host.disk.databases[n]? = some { Database.fresh with writeAhead }) :
    Sound n { host } Database.fresh.tables {} where
  holds := ⟨_, hfresh, rfl, rfl⟩
  guards := guards_empty _
  coherent _ hm := by cases hm
  recorded _ _ _ hm := by
    obtain ⟨_, _, hm⟩ := hm
    cases hm
  asked _ hm := by cases hm

/-- Signers that are started over one freshly installed database file, any number of times, never sign two
blocks of one slot for a key, nor two attestations with one target, nor one attestation around another. -/
theorem signatures_never_conflict (n : Nat) (host : Host) (writeAhead : Bool) (calls : List Call)
    (hfresh : host.disk.databases[n]? = some { Database.fresh with writeAhead })
    (hstarts : ∀ settings provider, .start settings provider ∈ calls → settings.protectionEnabled = true ∧
      settings.protectionParameters.database.LeadsTo host.disk n) :
    let site := ({ host } : Deployment).after calls
    (∀ key slot root₁ root₂, site.Signed key (.block slot) root₁ → site.Signed key (.block slot) root₂ →
      root₁ = root₂) ∧
    (∀ key source₁ source₂ target root₁ root₂, site.Signed key (.attestation source₁ target) root₁ →
      site.Signed key (.attestation source₂ target) root₂ → root₁ = root₂) ∧
    (RootsTellEpochs calls → ∀ key source₁ target₁ source₂ target₂ root₁ root₂,
      site.Signed key (.attestation source₁ target₁) root₁ →
      site.Signed key (.attestation source₂ target₂) root₂ → ¬ (source₁ < source₂ ∧ target₂ < target₁)) := by
  intro site
  have hover : ({ host } : Deployment).Over n := fun _ hm => by cases hm
  have hstays : ({ host } : Deployment).Stays n calls := by
    refine stays_of_starts hover fun call hm => ?_
    cases call with
    | start settings provider => exact hstarts settings provider hm
    | _ => trivial
  obtain ⟨t, h, hs⟩ := (sound_fresh hfresh).after hstays
  have hlog : ∀ entry ∈ site.log, entry.1 ∈ calls := fun entry he =>
    (mem_log_after he).resolve_left List.not_mem_nil
  refine ⟨?_, ?_, ?_⟩
  · intro key slot root₁ root₂ h₁ h₂
    exact hs.block_root_unique h₁ h₂
  · intro key source₁ source₂ target root₁ root₂ h₁ h₂
    exact hs.attestation_root_unique h₁ h₂
  · intro hroots key source₁ target₁ source₂ target₂ root₁ root₂ h₁ h₂
    exact hs.not_surrounding hlog hroots h₁ h₂

def sampleKey : PublicKey := ⟨List.replicate 48 7, rfl⟩

def sampleRoot (byte : UInt8) : Root := ⟨List.replicate 32 byte, rfl⟩

def sampleHost : Host where
  disk := { entries := [(["home", "d"], .database 0)], databases := [Database.fresh] }

def sampleProvider : KeyProvider := fun _ =>
  .ok { signers := [⟨sampleKey, fun _ => ⟨List.replicate 96 0, rfl⟩⟩], nodup := by decide }

def sampleVotes : List Call :=
  [.start { url := "d" } sampleProvider,
    .sign sampleKey (sampleRoot 1) (.attestation 2 3) (sampleRoot 2),
    .sign sampleKey (sampleRoot 1) (.attestation 3 4) (sampleRoot 3)]

def sampleRestart : List Call :=
  [.request (.pruneAll ⟨0, 1⟩) fun _ => .all, .shutdown, .start { url := "d", autoMigrate := true } sampleProvider,
    .sign sampleKey (sampleRoot 1) (.attestation 1 5) (sampleRoot 4)]

theorem sample_leads (create : Bool) :
    DatabaseParameters.LeadsTo { url := "d", createIfMissing := create } sampleHost.disk 0 := by
  intro location address hlocation haddress
  have hurl : Location.ofUrl "d" = .ok { name := "d" } := by cbv
  obtain rfl := Except.ok.inj (hurl.symm.trans hlocation)
  have hname : Address.ofLocation create { name := "d" } =
      .ok { path := [100], access := if create then .create else .readWrite, inMemory := false } := by
    cases create with
    | false => cbv
    | true => cbv
  obtain rfl := Except.ok.inj (hname.symm.trans haddress)
  have hpath : sampleHost.disk.databasePath (Text.lenientText [100]) = .ok ["home", "d"] := by
    have htext : Text.lenientText [100] = "d" := by cbv
    have hparts : "d".splitOn "/" = ["d"] := by cbv
    have hstart : sampleHost.disk.start "d" = ["home"] := by cbv
    have hstep : sampleHost.disk.simplify ["home"] "d" = .ok ["home", "d"] := by cbv
    simp only [Disk.databasePath, htext, hparts, hstart, List.foldlM_cons, hstep]
    rfl
  refine ⟨?_, _, hpath, rfl⟩
  cases create with
  | false => cbv
  | true => cbv

theorem sample_signed :
    (({ host := sampleHost } : Deployment).after sampleVotes).Signed sampleKey (.attestation 2 3) (sampleRoot 2) := by
  have hreply : (({ host := sampleHost } : Deployment).after sampleVotes).log[1]? =
      some (.sign sampleKey (sampleRoot 1) (.attestation 2 3) (sampleRoot 2),
        .duty (.ok (.signed ⟨List.replicate 96 0, rfl⟩))) := by
    cbv
  exact ⟨sampleRoot 1, _, List.mem_of_getElem? hreply⟩

/-- A vote is not signed around one that was signed before a restart, though the row of that one is deleted. -/
theorem pruned_vote_not_surrounded :
    let calls := sampleVotes ++ sampleRestart
    let site := ({ host := sampleHost } : Deployment).after calls
    sampleHost.disk.databases[0]? = some { Database.fresh with writeAhead := false } ∧
    (∀ settings provider, .start settings provider ∈ calls → settings.protectionEnabled = true ∧
      settings.protectionParameters.database.LeadsTo sampleHost.disk 0) ∧
    RootsTellEpochs calls ∧
    site.Signed sampleKey (.attestation 2 3) (sampleRoot 2) ∧
    ¬ site.Signed sampleKey (.attestation 1 5) (sampleRoot 4) := by
  intro calls site
  have hfresh : sampleHost.disk.databases[0]? = some { Database.fresh with writeAhead := false } := rfl
  have hstarts : ∀ settings provider, .start settings provider ∈ calls → settings.protectionEnabled = true ∧
      settings.protectionParameters.database.LeadsTo sampleHost.disk 0 := by
    intro settings provider hm
    simp only [calls, sampleVotes, sampleRestart, List.cons_append, List.nil_append, List.mem_cons, Call.start.injEq,
      reduceCtorEq, List.not_mem_nil, or_false, false_or] at hm
    rcases hm with ⟨rfl, -⟩ | ⟨rfl, -⟩
    · exact ⟨rfl, sample_leads false⟩
    · exact ⟨rfl, sample_leads true⟩
  have hroots : RootsTellEpochs calls := by
    unfold RootsTellEpochs
    decide
  have hsigned : site.Signed sampleKey (.attestation 2 3) (sampleRoot 2) := by
    obtain ⟨genesis, signature, hbefore⟩ := sample_signed
    have hafter : site = (({ host := sampleHost } : Deployment).after sampleVotes).after sampleRestart :=
      List.foldl_append
    rw [hafter]
    exact ⟨genesis, signature, (log_after sampleRestart).subset hbefore⟩
  obtain ⟨-, -, hsurround⟩ := signatures_never_conflict 0 sampleHost false calls hfresh hstarts
  exact ⟨hfresh, hstarts, hroots, hsigned, fun hagain =>
    hsurround hroots sampleKey 1 5 2 3 _ _ hagain hsigned ⟨by decide, by decide⟩⟩

end Deployment
end ValidatorSigner
