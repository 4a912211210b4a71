import Mathlib
import ValidatorSigner.Proofs.Keys.Listing
import ValidatorSigner.Proofs.Sequence

/-! # Loading keys

The keys of a directory are those of its YAML files, in the order of their names. Loading succeeds if each of them
holds a key of its own, and otherwise ends with the first file that cannot be read, or else with the first one of
which no signer can be made.
-/
namespace ValidatorSigner.Keys
open Store

namespace KeyRing
variable {ring : KeyRing} {key : PublicKey} {signer : Signer}

theorem eq_of_signers {ring' : KeyRing} (h : ring'.signers = ring.signers) : ring' = ring := by
  cases ring'
  cases ring
  cases h
  rfl

theorem get?_eq_none_iff : ring.get? key = none ↔ key ∉ ring.signers.map (·.key) := find?_key_eq_none_iff

/-- No two signers are for one key, so that the one that is found is the one that there is. -/
theorem get?_eq_some_iff : ring.get? key = some signer ↔ signer ∈ ring.signers ∧ signer.key = key :=
  find?_key_eq_some_iff ring.nodup

end KeyRing

def Describes (entry : Entry) (source : KeySource) : Prop :=
  ∃ text, Disk.readEntry entry = .ok text ∧ KeySource.ofYaml text = .ok source

inductive Unread (path : String) (entry : Entry) : KeyError → Prop
  | unreadable {fault : FileFault} (h : Disk.readEntry entry = .error fault) : Unread path entry (.unreadable path fault)
  | malformed {text : String} {fault : Yaml.Fault} (ht : Disk.readEntry entry = .ok text)
      (h : KeySource.ofYaml text = .error fault) : Unread path entry (.malformed path fault)

section Reading
variable {path directory : String} {entry : Entry} {source : KeySource} {error : KeyError}
  {listing : List (String × Entry)}

theorem readSource_ok_iff : readSource path (Disk.readEntry entry) = .ok source ↔ Describes entry source := by
  unfold readSource Describes
  cases ht : Disk.readEntry entry with
  | error fault => simp
  | ok text =>
    cases hy : KeySource.ofYaml text with
    | error fault => simp [hy]
    | ok found => simp [hy]

theorem readSource_error_iff :
    readSource path (Disk.readEntry entry) = .error error ↔ Unread path entry error := by
  constructor
  · intro h
    unfold readSource at h
    cases ht : Disk.readEntry entry with
    | error fault =>
      simp only [ht] at h
      cases h
      exact .unreadable ht
    | ok text =>
      cases hy : KeySource.ofYaml text with
      | error fault =>
        simp only [ht, hy] at h
        cases h
        exact .malformed ht hy
      | ok found =>
        simp only [ht, hy] at h
        cases h
  · rintro (h | ⟨ht, h⟩)
    · simp only [readSource, h]
    · simp only [readSource, ht, h]

def readFile (directory : String) (file : String × Entry) : Except KeyError (String × KeySource) :=
  (readSource (join directory file.1) (Disk.readEntry file.2)).map fun source => (join directory file.1, source)

theorem readSources_eq (directory : String) (listing : List (String × Entry)) :
    readSources directory listing = (descriptions listing).mapM (readFile directory) := rfl

theorem readFile_ok_iff {file : String × Entry} {pair : String × KeySource} :
    readFile directory file = .ok pair ↔ pair.1 = join directory file.1 ∧ Describes file.2 pair.2 := by
  obtain ⟨path, source⟩ := pair
  unfold readFile
  rw [← @readSource_ok_iff (join directory file.1)]
  cases readSource (join directory file.1) (Disk.readEntry file.2) with
  | error fault => simp [Except.map]
  | ok found => simp [Except.map, eq_comm]

theorem readFile_error_iff {file : String × Entry} :
    readFile directory file = .error error ↔ Unread (join directory file.1) file.2 error := by
  rw [← readSource_error_iff]
  unfold readFile
  cases readSource (join directory file.1) (Disk.readEntry file.2) with
  | error fault => simp [Except.map]
  | ok found => simp [Except.map]

theorem readSources_ok_iff {pairs : List (String × KeySource)} :
    readSources directory listing = .ok pairs ↔
      List.Forall₂ (fun file pair => pair.1 = join directory file.1 ∧ Describes file.2 pair.2)
        (descriptions listing) pairs := by
  simp only [readSources_eq, mapM_ok_iff, readFile_ok_iff]

theorem readSources_error_iff :
    readSources directory listing = .error error ↔
      ∃ before file after, descriptions listing = before ++ file :: after ∧
        (∀ other ∈ before, ∃ source, Describes other.2 source) ∧ Unread (join directory file.1) file.2 error := by
  have hread (file : String × Entry) :
      (∃ pair, readFile directory file = .ok pair) ↔ ∃ source, Describes file.2 source := by
    simp [readFile_ok_iff]
  simp only [readSources_eq, mapM_error_iff, hread, readFile_error_iff]

end Reading

def Holds (entry : Entry) (secret : Bls.SecretKey) : Prop :=
  ∃ digits, Describes entry (.inline digits) ∧ Bls.SecretKey.ofHex digits = .ok secret

inductive Unmade (taken : List PublicKey) (entry : Entry) : KeyError → Prop
  | invalid {digits : String} {fault : Bls.SecretKeyError} (hd : Describes entry (.inline digits))
      (h : Bls.SecretKey.ofHex digits = .error fault) : Unmade taken entry (.invalidSecret fault)
  | unavailable {request : SecretRequest} (hd : Describes entry (.remote request)) :
      Unmade taken entry (.noFetcher request.backend)
  | duplicate {secret : Bls.SecretKey} (hs : Holds entry secret) (h : secret.publicKey ∈ taken) :
      Unmade taken entry (.duplicate secret.publicKey)

section Adding
variable {ring ring' : KeyRing} {source : KeySource} {sources : List KeySource} {signer : Signer} {error : KeyError}

theorem add_ok_iff :
    ring.add signer = .ok ring' ↔ signer.key ∉ ring.signers.map (·.key) ∧ ring'.signers = ring.signers ++ [signer] := by
  obtain ⟨signers', nodup'⟩ := ring'
  unfold KeyRing.add
  split
  · rename_i h
    simp [h]
  · rename_i h
    simp [h, eq_comm]

theorem add_error_iff :
    ring.add signer = .error error ↔ signer.key ∈ ring.signers.map (·.key) ∧ error = .duplicate signer.key := by
  unfold KeyRing.add
  split
  · rename_i h
    simp [h, eq_comm]
  · rename_i h
    simp [h]

def addSource (ring : KeyRing) (source : KeySource) : Except KeyError KeyRing := source.signer none >>= ring.add

theorem addSource_ok_iff :
    addSource ring source = .ok ring' ↔
      ∃ signer, source.signer none = .ok signer ∧ signer.key ∉ ring.signers.map (·.key) ∧
        ring'.signers = ring.signers ++ [signer] := by
  unfold addSource
  cases hs : source.signer none with
  | error fault => simp [bind, Except.bind]
  | ok signer => simp only [bind, Except.bind, add_ok_iff, Except.ok.injEq, exists_eq_left']

theorem addSource_error_iff :
    addSource ring source = .error error ↔
      source.signer none = .error error ∨
        ∃ signer, source.signer none = .ok signer ∧ signer.key ∈ ring.signers.map (·.key) ∧
          error = .duplicate signer.key := by
  unfold addSource
  cases hs : source.signer none with
  | error fault => simp [bind, Except.bind]
  | ok signer => simp only [bind, Except.bind, add_error_iff, Except.ok.injEq, exists_eq_left', reduceCtorEq, false_or]

theorem addSources_cons (ring : KeyRing) (source : KeySource) (rest : List KeySource) :
    ring.addSources none (source :: rest) = addSource ring source >>= fun ring => ring.addSources none rest := by
  unfold addSource
  rw [KeyRing.addSources]
  cases source.signer none with
  | error fault => rfl
  | ok signer => rfl

theorem addSources_ok_iff :
    ring.addSources none sources = .ok ring' ↔
      ∃ signers, List.Forall₂ (fun source signer => source.signer none = .ok signer) sources signers ∧
        ring'.signers = ring.signers ++ signers := by
  induction sources generalizing ring with
  | nil =>
    constructor
    · intro h
      cases h
      exact ⟨[], .nil, (List.append_nil _).symm⟩
    · rintro ⟨signers, hall, hring⟩
      cases hall
      rw [List.append_nil] at hring
      rw [KeyRing.eq_of_signers hring]
      rfl
  | cons source rest ih =>
    rw [addSources_cons]
    constructor
    · intro h
      cases hfirst : addSource ring source with
      | error fault =>
        rw [hfirst] at h
        cases h
      | ok ring₁ =>
        rw [hfirst] at h
        obtain ⟨signers, hrest, hring⟩ := ih.mp h
        obtain ⟨signer, hs, -, hone⟩ := addSource_ok_iff.mp hfirst
        exact ⟨signer :: signers, .cons hs hrest, by simp [hring, hone]⟩
    · rintro ⟨signers, hall, hring⟩
      obtain ⟨signer, others, hs, hrest, rfl⟩ := List.forall₂_cons_left_iff.mp hall
      have hnodup := ring'.nodup
      rw [hring, List.map_append, List.map_cons] at hnodup
      obtain ⟨-, -, hapart⟩ := List.nodup_append.mp hnodup
      have hnew : signer.key ∉ ring.signers.map (·.key) := fun hm => hapart _ hm _ List.mem_cons_self rfl
      cases hadd : ring.add signer with
      | error fault => exact absurd (add_error_iff.mp hadd).1 hnew
      | ok ring₁ =>
        have hone := (add_ok_iff.mp hadd).2
        have hfirst : addSource ring source = .ok ring₁ := addSource_ok_iff.mpr ⟨signer, hs, hnew, hone⟩
        rw [hfirst]
        exact ih.mpr ⟨others, hrest, by simp [hring, hone]⟩

/-- The first source that cannot be added ends adding. -/
theorem addSources_error_iff :
    ring.addSources none sources = .error error ↔
      ∃ before source after ring₁, sources = before ++ source :: after ∧
        ring.addSources none before = .ok ring₁ ∧ addSource ring₁ source = .error error := by
  induction sources generalizing ring with
  | nil => simp [KeyRing.addSources]
  | cons source rest ih =>
    rw [addSources_cons]
    constructor
    · intro h
      cases hfirst : addSource ring source with
      | error fault =>
        rw [hfirst] at h
        cases h
        exact ⟨[], source, rest, ring, rfl, rfl, hfirst⟩
      | ok ring₁ =>
        rw [hfirst] at h
        obtain ⟨before, last, after, ring₂, rfl, hbefore, hlast⟩ := ih.mp h
        refine ⟨source :: before, last, after, ring₂, rfl, ?_, hlast⟩
        rw [addSources_cons, hfirst]
        exact hbefore
    · rintro ⟨before, last, after, ring₂, hsplit, hbefore, hlast⟩
      cases before with
      | nil =>
        obtain ⟨rfl, rfl⟩ := List.cons.inj hsplit
        cases hbefore
        rw [hlast]
        rfl
      | cons first before =>
        obtain ⟨rfl, rfl⟩ := List.cons.inj hsplit
        rw [addSources_cons] at hbefore
        cases hfirst : addSource ring source with
        | error fault =>
          rw [hfirst] at hbefore
          cases hbefore
        | ok ring₁ =>
          rw [hfirst] at hbefore
          exact ih.mpr ⟨before, last, after, ring₂, rfl, hbefore, hlast⟩

/-- The sources that need no fetcher are those that hold their secret. -/
theorem signer_ok_iff :
    source.signer none = .ok signer ↔
      ∃ digits secret, source = .inline digits ∧ Bls.SecretKey.ofHex digits = .ok secret ∧
        signer = .ofSecretKey secret := by
  cases source with
  | remote request => simp [KeySource.signer]
  | inline digits =>
    cases hs : Bls.SecretKey.ofHex digits with
    | error fault => simp [KeySource.signer, Signer.ofHex, hs]
    | ok secret => simp [KeySource.signer, Signer.ofHex, hs, eq_comm]

/-- The signers of some secret keys are for the public keys of these. -/
theorem keys_ofSecretKey (secrets : List Bls.SecretKey) :
    (secrets.map Signer.ofSecretKey).map (·.key) = secrets.map (·.publicKey) := by
  simp [Signer.ofSecretKey]

theorem signer_error_iff :
    source.signer none = .error error ↔
      (∃ digits fault, source = .inline digits ∧ Bls.SecretKey.ofHex digits = .error fault ∧
        error = .invalidSecret fault) ∨
      ∃ request, source = .remote request ∧ error = .noFetcher request.backend := by
  cases source with
  | remote request => simp [KeySource.signer, eq_comm]
  | inline digits =>
    cases hs : Bls.SecretKey.ofHex digits with
    | error fault => simp [KeySource.signer, Signer.ofHex, hs, eq_comm]
    | ok secret => simp [KeySource.signer, Signer.ofHex, hs]

end Adding

/-- How loading ends without a key ring: with the first file that cannot be read, or else with the first one of which
no signer can be made. -/
inductive Fails (directory : String) (files : List (String × Entry)) : KeyError → Prop
  | reading {before after : List (String × Entry)} {file : String × Entry} {error : KeyError}
      (hsplit : files = before ++ file :: after) (hbefore : ∀ other ∈ before, ∃ source, Describes other.2 source)
      (h : Unread (join directory file.1) file.2 error) : Fails directory files error
  | making {before after : List (String × Entry)} {file : String × Entry} {secrets : List Bls.SecretKey}
      {error : KeyError} (hread : ∀ other ∈ files, ∃ source, Describes other.2 source)
      (hsplit : files = before ++ file :: after)
      (hbefore : List.Forall₂ (fun other secret => Holds other.2 secret) before secrets)
      (hapart : (secrets.map (·.publicKey)).Nodup)
      (h : Unmade (secrets.map (·.publicKey)) file.2 error) : Fails directory files error

def Apart (files : List (String × Entry)) : Prop :=
  ∀ a ∈ files, ∀ b ∈ files, ∀ secret secret', Holds a.2 secret → Holds b.2 secret' →
    secret.publicKey = secret'.publicKey → a = b

structure Loads (directory : String) (files : List (String × Entry)) (outcome : Except KeyError KeyRing) : Prop where
  succeeds : (∃ ring, outcome = .ok ring) ↔ (∀ file ∈ files, ∃ secret, Holds file.2 secret) ∧ Apart files
  /-- There is one signer for each file. -/
  signers : ∀ ring, outcome = .ok ring →
    List.Forall₂ (fun file signer => ∃ secret, Holds file.2 secret ∧ signer = .ofSecretKey secret) files ring.signers
  /-- Each signer is found under its own key. -/
  found : ∀ ring, outcome = .ok ring → ∀ signer ∈ ring.signers, ring.get? signer.key = some signer
  fails : ∀ error, outcome = .error error ↔ Fails directory files error

section Directories
variable {directory : String} {listing : List (String × Entry)} {ring : KeyRing} {error : KeyError}

theorem Describes.unique {entry : Entry} {source source' : KeySource} (h : Describes entry source)
    (h' : Describes entry source') : source = source' := by
  obtain ⟨text, ht, hs⟩ := h
  obtain ⟨text', ht', hs'⟩ := h'
  rw [ht] at ht'
  cases ht'
  rw [hs] at hs'
  exact Except.ok.inj hs'

theorem Holds.unique {entry : Entry} {secret secret' : Bls.SecretKey} (h : Holds entry secret)
    (h' : Holds entry secret') : secret = secret' := by
  obtain ⟨digits, hd, hs⟩ := h
  obtain ⟨digits', hd', hs'⟩ := h'
  obtain rfl := KeySource.inline.inj (hd.unique hd')
  rw [hs] at hs'
  exact Except.ok.inj hs'

theorem exists_readSources_iff {sources : List KeySource} :
    (∃ pairs, readSources directory listing = .ok pairs ∧ pairs.map (·.2) = sources) ↔
      List.Forall₂ (fun file source => Describes file.2 source) (descriptions listing) sources := by
  simp only [readSources_ok_iff]
  constructor
  · rintro ⟨pairs, hall, rfl⟩
    exact List.forall₂_map_right_iff.mpr (hall.imp fun _ _ h => h.2)
  · generalize descriptions listing = files
    intro h
    induction h with
    | nil => exact ⟨[], .nil, rfl⟩
    | @cons file source files sources hd _ ih =>
      obtain ⟨pairs, hall, rfl⟩ := ih
      exact ⟨(join directory file.1, source) :: pairs, .cons ⟨rfl, hd⟩ hall, rfl⟩

/-- Files with sources of which signers can be made are files that hold keys. -/
theorem holds_iff {files : List (String × Entry)} {signers : List Signer} :
    (∃ sources, List.Forall₂ (fun file source => Describes file.2 source) files sources ∧
      List.Forall₂ (fun source signer => source.signer none = .ok signer) sources signers) ↔
    ∃ secrets, List.Forall₂ (fun file secret => Holds file.2 secret) files secrets ∧
      signers = secrets.map Signer.ofSecretKey := by
  induction files generalizing signers with
  | nil => simp
  | cons file files ih =>
    constructor
    · rintro ⟨_, hdescribes, hsigners⟩
      obtain ⟨source, sources, hd, hothers, rfl⟩ := List.forall₂_cons_left_iff.mp hdescribes
      obtain ⟨signer, others, hs, hmade, rfl⟩ := List.forall₂_cons_left_iff.mp hsigners
      obtain ⟨digits, secret, rfl, hsecret, rfl⟩ := signer_ok_iff.mp hs
      obtain ⟨secrets, hholds, rfl⟩ := ih.mp ⟨sources, hothers, hmade⟩
      exact ⟨secret :: secrets, .cons ⟨digits, hd, hsecret⟩ hholds, rfl⟩
    · rintro ⟨_, hholds, rfl⟩
      obtain ⟨secret, secrets, ⟨digits, hd, hsecret⟩, hothers, rfl⟩ := List.forall₂_cons_left_iff.mp hholds
      obtain ⟨sources, hdescribes, hsigners⟩ := ih.mpr ⟨secrets, hothers, rfl⟩
      exact ⟨.inline digits :: sources, .cons hd hdescribes,
        .cons (signer_ok_iff.mpr ⟨digits, secret, rfl, hsecret, rfl⟩) hsigners⟩

theorem ofListing_ok_iff :
    KeyRing.ofListing directory listing = .ok ring ↔
      ∃ secrets, List.Forall₂ (fun file secret => Holds file.2 secret) (descriptions listing) secrets ∧
        ring.signers = secrets.map Signer.ofSecretKey := by
  have hadded (sources : List KeySource) : ({} : KeyRing).addSources none sources = .ok ring ↔
      List.Forall₂ (fun source signer => source.signer none = .ok signer) sources ring.signers := by
    simp [addSources_ok_iff]
  have hsplit : KeyRing.ofListing directory listing = .ok ring ↔
      ∃ sources, (∃ pairs, readSources directory listing = .ok pairs ∧ pairs.map (·.2) = sources) ∧
        ({} : KeyRing).addSources none sources = .ok ring := by
    unfold KeyRing.ofListing
    cases readSources directory listing with
    | error fault => simp [bind, Except.bind]
    | ok pairs => simp [bind, Except.bind]
  rw [hsplit, ← holds_iff]
  simp only [exists_readSources_iff, hadded]

theorem addSource_unmade_iff {entry : Entry} {source : KeySource} (hd : Describes entry source) :
    addSource ring source = .error error ↔ Unmade (ring.signers.map (·.key)) entry error := by
  rw [addSource_error_iff, signer_error_iff]
  constructor
  · rintro ((⟨digits, fault, rfl, hf, rfl⟩ | ⟨request, rfl, rfl⟩) | ⟨signer, hs, hm, rfl⟩)
    · exact .invalid hd hf
    · exact .unavailable hd
    · obtain ⟨digits, secret, rfl, hsecret, rfl⟩ := signer_ok_iff.mp hs
      exact .duplicate ⟨digits, hd, hsecret⟩ hm
  · intro h
    cases h with
    | invalid hd' hf =>
      obtain rfl := hd.unique hd'
      exact .inl (.inl ⟨_, _, rfl, hf, rfl⟩)
    | unavailable hd' =>
      obtain rfl := hd.unique hd'
      exact .inl (.inr ⟨_, rfl, rfl⟩)
    | @duplicate secret hs hm =>
      obtain ⟨digits, hd', hsecret⟩ := hs
      obtain rfl := hd.unique hd'
      exact .inr ⟨.ofSecretKey secret, signer_ok_iff.mpr ⟨digits, secret, rfl, hsecret, rfl⟩, hm, rfl⟩

/-- A source that cannot be added comes from a file of which no signer can be made. -/
theorem fails_of_addSources_error {files : List (String × Entry)} {sources : List KeySource}
    (hd : List.Forall₂ (fun file source => Describes file.2 source) files sources)
    (h : ({} : KeyRing).addSources none sources = .error error) : Fails directory files error := by
  obtain ⟨before, source, after, ring, rfl, hbefore, hlast⟩ := addSources_error_iff.mp h
  have hread := exists_forall₂_iff.mp ⟨_, hd⟩
  have htake := List.forall₂_take_append _ _ _ hd
  obtain ⟨file, rest, hdescribes, -, hfile⟩ := List.forall₂_cons_right_iff.mp (List.forall₂_drop_append _ _ _ hd)
  have hfiles : files = files.take before.length ++ file :: rest := by
    rw [← hfile, List.take_append_drop]
  obtain ⟨signers, hsigners, hring⟩ := addSources_ok_iff.mp hbefore
  obtain ⟨secrets, hholds, rfl⟩ := holds_iff.mp ⟨before, htake, hsigners⟩
  have hkeys : ring.signers.map (·.key) = secrets.map (·.publicKey) := by
    rw [hring, List.nil_append, keys_ofSecretKey]
  refine .making hread hfiles hholds (hkeys ▸ ring.nodup) ?_
  rw [← hkeys]
  exact (addSource_unmade_iff hdescribes).mp hlast

/-- A file of which no signer can be made, behind files with keys of their own, has a source that cannot be added. -/
theorem exists_addSources_error {before after : List (String × Entry)} {file : String × Entry}
    {secrets : List Bls.SecretKey} (hread : ∀ other ∈ before ++ file :: after, ∃ source, Describes other.2 source)
    (hbefore : List.Forall₂ (fun other secret => Holds other.2 secret) before secrets)
    (hapart : (secrets.map (·.publicKey)).Nodup) (hunmade : Unmade (secrets.map (·.publicKey)) file.2 error) :
    ∃ sources, List.Forall₂ (fun file source => Describes file.2 source) (before ++ file :: after) sources ∧
      ({} : KeyRing).addSources none sources = .error error := by
  obtain ⟨sources, hdescribes, hsigners⟩ := holds_iff.mpr ⟨secrets, hbefore, rfl⟩
  obtain ⟨source, hd⟩ := hread file (by simp)
  obtain ⟨others, hothers⟩ := exists_forall₂_iff.mpr fun other ho =>
    hread other (List.mem_append_right before (List.mem_cons_of_mem file ho))
  rw [← keys_ofSecretKey] at hapart hunmade
  have hadded : ({} : KeyRing).addSources none sources = .ok ⟨secrets.map Signer.ofSecretKey, hapart⟩ :=
    addSources_ok_iff.mpr ⟨_, hsigners, rfl⟩
  have hlast : addSource ⟨secrets.map Signer.ofSecretKey, hapart⟩ source = .error error :=
    (addSource_unmade_iff hd).mpr hunmade
  exact ⟨sources ++ source :: others, List.rel_append hdescribes (.cons hd hothers),
    addSources_error_iff.mpr ⟨sources, source, others, _, rfl, hadded, hlast⟩⟩

theorem ofListing_error_iff :
    KeyRing.ofListing directory listing = .error error ↔ Fails directory (descriptions listing) error := by
  have hsplit : KeyRing.ofListing directory listing = .error error ↔
      readSources directory listing = .error error ∨
        ∃ sources, (∃ pairs, readSources directory listing = .ok pairs ∧ pairs.map (·.2) = sources) ∧
          ({} : KeyRing).addSources none sources = .error error := by
    unfold KeyRing.ofListing
    cases readSources directory listing with
    | error fault => simp [bind, Except.bind]
    | ok pairs => simp [bind, Except.bind]
  rw [hsplit]
  simp only [exists_readSources_iff]
  constructor
  · rintro (h | ⟨sources, hd, h⟩)
    · obtain ⟨before, file, after, hfiles, hbefore, hunread⟩ := readSources_error_iff.mp h
      exact .reading hfiles hbefore hunread
    · exact fails_of_addSources_error hd h
  · intro h
    cases h with
    | reading hfiles hbefore hunread => exact .inl (readSources_error_iff.mpr ⟨_, _, _, hfiles, hbefore, hunread⟩)
    | making hread hfiles hbefore hapart hunmade =>
      rw [hfiles] at hread ⊢
      exact .inr (exists_addSources_error hread hbefore hapart hunmade)

section Apart
variable {files : List (String × Entry)} {secrets : List Bls.SecretKey}

theorem mem_secrets_iff (h : List.Forall₂ (fun file secret => Holds file.2 secret) files secrets)
    {secret : Bls.SecretKey} : secret ∈ secrets ↔ ∃ file ∈ files, Holds file.2 secret := by
  induction h with
  | nil => simp
  | @cons file first files secrets hfile _ ih =>
    have hfirst : Holds file.2 secret ↔ secret = first := by
      constructor
      · intro h
        exact h.unique hfile
      · rintro rfl
        exact hfile
    rw [List.mem_cons, List.exists_mem_cons_iff, ih, hfirst]

theorem nodup_keys_iff (h : List.Forall₂ (fun file secret => Holds file.2 secret) files secrets) (hd : files.Nodup) :
    (secrets.map (·.publicKey)).Nodup ↔ Apart files := by
  induction h with
  | nil => simp [Apart]
  | @cons file first files secrets hfile hrest ih =>
    obtain ⟨hnew, hd⟩ := List.nodup_cons.mp hd
    rw [List.map_cons, List.nodup_cons, ih hd]
    constructor
    · rintro ⟨hfirst, hothers⟩ a ha b hb secret secret' hs hs' hkey
      have hother {c : String × Entry} {own : Bls.SecretKey} (hc : c ∈ files) (hown : Holds c.2 own) :
          own.publicKey ≠ first.publicKey := by
        intro hsame
        exact hfirst (List.mem_map.mpr ⟨own, (mem_secrets_iff hrest).mpr ⟨c, hc, hown⟩, hsame⟩)
      rcases List.mem_cons.mp ha with rfl | ha'
      · rcases List.mem_cons.mp hb with rfl | hb'
        · rfl
        · obtain rfl := hs.unique hfile
          exact absurd hkey.symm (hother hb' hs')
      · rcases List.mem_cons.mp hb with rfl | hb'
        · obtain rfl := hs'.unique hfile
          exact absurd hkey (hother ha' hs)
        · exact hothers a ha' b hb' secret secret' hs hs' hkey
    · intro hall
      refine ⟨fun hm => ?_, fun a ha b hb => hall a (List.mem_cons_of_mem _ ha) b (List.mem_cons_of_mem _ hb)⟩
      obtain ⟨secret, hsecret, hkey⟩ := List.mem_map.mp hm
      obtain ⟨other, hother, hholds⟩ := (mem_secrets_iff hrest).mp hsecret
      obtain rfl := hall file List.mem_cons_self other (List.mem_cons_of_mem _ hother) first secret hfile hholds hkey.symm
      exact hnew hother

end Apart

theorem ofListing_loads (hn : (listing.map (·.1)).Nodup) :
    Loads directory (descriptions listing) (KeyRing.ofListing directory listing) where
  succeeds := by
    have hd := (inOrder_descriptions hn).nodup
    constructor
    · rintro ⟨ring, h⟩
      obtain ⟨secrets, hholds, hring⟩ := ofListing_ok_iff.mp h
      have hnodup := ring.nodup
      rw [hring, keys_ofSecretKey] at hnodup
      exact ⟨exists_forall₂_iff.mp ⟨secrets, hholds⟩, (nodup_keys_iff hholds hd).mp hnodup⟩
    · rintro ⟨hall, hapart⟩
      obtain ⟨secrets, hholds⟩ := exists_forall₂_iff.mpr hall
      have hnodup := (nodup_keys_iff hholds hd).mpr hapart
      rw [← keys_ofSecretKey] at hnodup
      exact ⟨⟨secrets.map Signer.ofSecretKey, hnodup⟩, ofListing_ok_iff.mpr ⟨secrets, hholds, rfl⟩⟩
  signers ring h := by
    obtain ⟨secrets, hholds, hring⟩ := ofListing_ok_iff.mp h
    rw [hring]
    exact List.forall₂_map_right_iff.mpr (hholds.imp fun _ secret hs => ⟨secret, hs, rfl⟩)
  found ring _ signer hs := KeyRing.get?_eq_some_iff.mpr ⟨hs, rfl⟩
  fails _ := ofListing_error_iff

end Directories

/-- A directory of keys is loaded exactly as its files say, whatever order they are listed in and whatever else lies
there. -/
theorem keyRing_exact (disk : Disk) (directory : String) {listing : List (String × Entry)}
    (hl : disk.list directory = .ok listing) (hn : (listing.map (·.1)).Nodup) :
    ∃ files, InOrder files ∧ (∀ file, file ∈ files ↔ file ∈ listing ∧ Selected file) ∧
      Loads directory files (disk.keyRing directory) ∧
      ∀ (disk' : Disk) listing', disk'.list directory = .ok listing' → (listing'.map (·.1)).Nodup →
        (∀ file, Selected file → (file ∈ listing' ↔ file ∈ listing)) →
        disk'.keyRing directory = disk.keyRing directory := by
  have hring : disk.keyRing directory = KeyRing.ofListing directory listing := by
    simp only [Disk.keyRing, Disk.keyListing, hl]
    rfl
  refine ⟨descriptions listing, inOrder_descriptions hn, fun file => mem_descriptions, ?_, ?_⟩
  · rw [hring]
    exact ofListing_loads hn
  · intro disk' listing' hl' hn' hsame
    have hring' : disk'.keyRing directory = KeyRing.ofListing directory listing' := by
      simp only [Disk.keyRing, Disk.keyListing, hl']
      rfl
    rw [hring, hring', KeyRing.ofListing, KeyRing.ofListing, readSources_eq, readSources_eq,
      descriptions_eq hn hn' hsame]

def mixedDisk : Disk where
  entries := [(["keys"], .directory), (["keys", "b.yaml"], .file [0xff]), (["keys", "a.YML"], .database 0),
    (["keys", "c.yaml"], .directory), (["keys", ".yaml"], .file []), (["keys", "notes.txt"], .file [])]

def mixedListing : List (String × Entry) :=
  [("b.yaml", .file [0xff]), ("a.YML", .database 0), ("c.yaml", .directory), (".yaml", .file []),
    ("notes.txt", .file [])]

theorem keyRing_exact_mixed :
    mixedDisk.list "/keys" = .ok mixedListing ∧ (mixedListing.map (·.1)).Nodup ∧
      mixedDisk.keyRing "/keys" = .error (.unreadable "/keys/a.YML" .notText) := by
  have hl : mixedDisk.list "/keys" = .ok mixedListing := by
    have hparts : "/keys".splitOn "/" = ["", "keys"] := Text.splitOn_char "/keys" '/'
    have hlocate : mixedDisk.locate "/keys" = .ok (["keys"], .directory) := by
      unfold Disk.locate
      rw [hparts]
      cbv
    simp only [Disk.list, hlocate]
    rfl
  have hn : (mixedListing.map (·.1)).Nodup := by decide
  obtain ⟨files, horder, hfiles, hloads, -⟩ := keyRing_exact mixedDisk "/keys" hl hn
  refine ⟨hl, hn, (hloads.fails _).mpr ?_⟩
  have hselected : files = [("a.YML", .database 0), ("b.yaml", .file [0xff])] := by
    have hcapital : isDescription "a.YML" = true := isDescription_iff.mpr ⟨"a", "YML", rfl, by decide, .inr rfl⟩
    have hsmall : isDescription "b.yaml" = true := isDescription_iff.mpr ⟨"b", "yaml", rfl, by decide, .inl rfl⟩
    have hbare : extension? ".yaml" = none := @extension?_of_dot "" "yaml" (by decide)
    have hother : extension? "notes.txt" = some "txt" := @extension?_of_dot "notes" "txt" (by decide)
    have hbare : isDescription ".yaml" = false := by simp only [isDescription, hbare]
    have hother : isDescription "notes.txt" = false := by
      simp only [isDescription, hother]
      decide
    have hfilter : mixedListing.filter (fun file => isDescription file.1 && isFile file.2) =
        [("b.yaml", .file [0xff]), ("a.YML", .database 0)] := by
      simp [mixedListing, hcapital, hsmall, hbare, hother, isFile]
    apply horder.eq (List.pairwise_pair.mpr (by decide))
    intro file
    have hmem := @List.mem_filter _ (fun file => isDescription file.1 && isFile file.2) mixedListing file
    rw [hfilter, selected_iff] at hmem
    rw [hfiles, ← hmem]
    simp [or_comm]
  have hpath : join "/keys" "a.YML" = "/keys/a.YML" := by cbv
  rw [hselected, ← hpath]
  exact .reading (List.nil_append _).symm (fun _ h => absurd h List.not_mem_nil) (.unreadable rfl)

end ValidatorSigner.Keys
