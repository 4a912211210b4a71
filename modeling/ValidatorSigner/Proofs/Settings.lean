import ValidatorSigner.Proofs.Keys.Listing
import ValidatorSigner.Proofs.Sequence
import ValidatorSigner.Proofs.Text.Blank
import ValidatorSigner.Proofs.Text.Numeral
import ValidatorSigner.Settings

/-! # What settings are read as

Each setting is read from a variable of its own. The settings are read one after the other, and the first one that is
refused ends that. So what is read is described setting by setting, and the run over all of them is the run over a
list.
-/
namespace ValidatorSigner
namespace Setting

inductive Kind where
  | number (bits : Nat)
  | flag
deriving DecidableEq, Repr

def kind : Setting → Kind
  | poolSize | pruningPoolSize => .number 32
  | acquireTimeout | busyTimeout | epochsToKeep | slotsPerEpoch | pruningInterval | batchSize => .number 64
  | autoMigrate | protectionEnabled | requireGenesisRoot | pruningEnabled | pruningAtBoot => .flag

inductive Raw where
  | number (n : Nat)
  | flag (b : Bool)
deriving DecidableEq, Repr

def flagWords : Bool → List String
  | true => ["true", "1", "yes"]
  | false => ["false", "0", "no"]

inductive Kind.Reads : Kind → List Char → Raw → Prop
  | unsigned {bits : Nat} {digits : List Char} {n : Nat} (h : Text.Spells digits n) (hn : n < 2 ^ bits) :
      Reads (.number bits) digits (.number n)
  | plus {bits : Nat} {digits : List Char} {n : Nat} (h : Text.Spells digits n) (hn : n < 2 ^ bits) :
      Reads (.number bits) ('+' :: digits) (.number n)
  | flag {chars : List Char} {word : String} {b : Bool} (hw : word ∈ flagWords b)
      (h : Keys.SameLetters (.ofList chars) word) : Reads .flag chars (.flag b)

inductive Value where
  | count (n : Nat)
  | flag (b : Bool)
  | span (d : Duration)
deriving DecidableEq, Repr

/-- The value that a setting has from its variable. Spans are counted in units of their own. -/
def convert : Setting → Raw → Value
  | _, .flag b => .flag b
  | acquireTimeout, .number n => .span (.ofSeconds n)
  | busyTimeout, .number n => .span (.ofMilliseconds n)
  | pruningInterval, .number n => .span (.ofSeconds (n * 3600))
  | _, .number n => .count n

def inOrder : List Setting :=
  [poolSize, pruningPoolSize, acquireTimeout, busyTimeout, autoMigrate, protectionEnabled, requireGenesisRoot,
    pruningEnabled, epochsToKeep, slotsPerEpoch, pruningInterval, pruningAtBoot, batchSize]

theorem mem_inOrder (setting : Setting) : setting ∈ inOrder := by
  cases setting <;> decide

theorem name_injective : Function.Injective name := by
  have hnames : (inOrder.map name).Nodup := by decide
  intro a b h
  exact List.inj_on_of_nodup_map hnames (mem_inOrder a) (mem_inOrder b) h

end Setting

def Settings.value (s : Settings) : Setting → Setting.Value
  | .poolSize => .count s.poolSize
  | .pruningPoolSize => .count s.pruningPoolSize
  | .acquireTimeout => .span s.acquireTimeout
  | .busyTimeout => .span s.busyTimeout
  | .autoMigrate => .flag s.autoMigrate
  | .protectionEnabled => .flag s.protectionEnabled
  | .requireGenesisRoot => .flag s.requireGenesisRoot
  | .pruningEnabled => .flag s.pruning.enabled
  | .epochsToKeep => .count s.pruning.epochsToKeep
  | .slotsPerEpoch => .count s.pruning.slotsPerEpoch
  | .pruningInterval => .span s.pruning.interval
  | .pruningAtBoot => .flag s.pruning.atBoot
  | .batchSize => .count s.pruning.batchSize

namespace Settings

inductive Given (environment : Environment) (setting : Setting) : Setting.Value → Prop
  | unset (h : environment.lookup setting.name = none) : Given environment setting (({} : Settings).value setting)
  | set {text : String} {core : List Char} {raw : Setting.Raw} (h : environment.lookup setting.name = some text)
      (hcore : Text.Trimmed text.toList core) (hraw : setting.kind.Reads core raw) :
      Given environment setting (setting.convert raw)

/-- Why a setting is refused: its text is none of its kind, or it is a number of hours with too many seconds. -/
inductive Refusal (environment : Environment) : SettingsError → Prop
  | unreadable {setting : Setting} {text : String} {core : List Char}
      (h : environment.lookup setting.name = some text) (hcore : Text.Trimmed text.toList core)
      (hraw : ∀ raw, ¬ setting.kind.Reads core raw) : Refusal environment ⟨setting, text⟩
  | tooLong {text : String} {core : List Char} {hours : Nat}
      (h : environment.lookup Setting.pruningInterval.name = some text) (hcore : Text.Trimmed text.toList core)
      (hraw : Setting.pruningInterval.kind.Reads core (.number hours)) (hlong : 2 ^ 64 ≤ hours * 3600) :
      Refusal environment ⟨.pruningInterval, toString hours⟩

def Refused (environment : Environment) (setting : Setting) : Prop := ∃ told, Refusal environment ⟨setting, told⟩

end Settings

def Setting.Kind.read : Setting.Kind → List Char → Option Setting.Raw
  | .number bits, chars => (Text.readBounded (1 <<< bits) chars).map .number
  | .flag, chars => (readFlag chars).map .flag

section Texts
variable {chars : List Char} {b : Bool} {kind : Setting.Kind} {raw : Setting.Raw}

theorem readFlag_eq_some_iff : readFlag chars = some b ↔ lowerCase (.ofList chars) ∈ Setting.flagWords b := by
  unfold readFlag Setting.flagWords
  cases b with
  | true => split <;> simp_all
  | false => split <;> simp_all

theorem sameLetters_flagWord {word : String} (hw : word ∈ Setting.flagWords b) :
    Keys.SameLetters (.ofList chars) word ↔ lowerCase (.ofList chars) = word := by
  have hlower : ∀ word ∈ Setting.flagWords b, word.toList.map Char.toLower = word.toList := by
    cases b <;> decide
  exact Keys.sameLetters_iff (hlower word hw)

theorem Setting.Kind.read_eq_some_iff : kind.read chars = some raw ↔ kind.Reads chars raw := by
  cases kind with
  | number bits =>
    simp only [Kind.read, Option.map_eq_some_iff, Text.readBounded_eq_some_iff, Nat.one_shiftLeft]
    constructor
    · rintro ⟨n, ⟨hn, h | ⟨digits, rfl, h⟩⟩, rfl⟩
      · exact .unsigned h hn
      · exact .plus h hn
    · intro h
      cases h with
      | unsigned h hn => exact ⟨_, ⟨hn, .inl h⟩, rfl⟩
      | plus h hn => exact ⟨_, ⟨hn, .inr ⟨_, rfl, h⟩⟩, rfl⟩
  | flag =>
    simp only [Kind.read, Option.map_eq_some_iff, readFlag_eq_some_iff]
    constructor
    · rintro ⟨b, hw, rfl⟩
      exact .flag hw ((sameLetters_flagWord hw).mpr rfl)
    · intro h
      cases h with
      | flag hw h =>
        obtain rfl := (sameLetters_flagWord hw).mp h
        exact ⟨_, hw, rfl⟩

theorem Setting.Kind.Reads.unique {raw' : Setting.Raw} (h : kind.Reads chars raw) (h' : kind.Reads chars raw') :
    raw = raw' := by
  rw [← Setting.Kind.read_eq_some_iff] at h h'
  exact Option.some.inj (h.symm.trans h')

end Texts

def Setting.fallback : Setting → Setting.Raw
  | poolSize | pruningPoolSize => .number 1
  | acquireTimeout => .number 10
  | busyTimeout => .number 5000
  | epochsToKeep => .number 250
  | slotsPerEpoch => .number 32
  | pruningInterval => .number 24
  | batchSize => .number 10000
  | protectionEnabled => .flag true
  | autoMigrate | requireGenesisRoot | pruningEnabled | pruningAtBoot => .flag false

theorem Setting.convert_fallback (setting : Setting) :
    setting.convert setting.fallback = ({} : Settings).value setting := by
  cases setting <;> rfl

def Setting.settle : Setting → Setting.Raw → Except SettingsError Setting.Value
  | .pruningInterval, .number hours =>
    if hours * 3600 < 1 <<< 64 then .ok (Setting.pruningInterval.convert (.number hours))
    else .error ⟨.pruningInterval, toString hours⟩
  | setting, raw => .ok (setting.convert raw)

def Environment.valueOf (environment : Environment) (setting : Setting) : Except SettingsError Setting.Value :=
  environment.readWith setting.kind.read setting setting.fallback >>= setting.settle

section One
variable {α β : Type} {environment other : Environment} {setting : Setting} {read : List Char → Option α}
  {fallback a : α} {error : SettingsError} {raw : Setting.Raw} {value : Setting.Value}

theorem readWith_ok_iff :
    environment.readWith read setting fallback = .ok a ↔
      (environment.lookup setting.name = none ∧ a = fallback) ∨
        ∃ text, environment.lookup setting.name = some text ∧ read (Text.trimBlanks text.toList) = some a := by
  unfold Environment.readWith
  split
  · rename_i h
    simp [h, eq_comm]
  · rename_i text h
    split
    · rename_i b hread
      simp [h, hread]
    · rename_i hread
      simp [h, hread]

theorem readWith_error_iff :
    environment.readWith read setting fallback = .error error ↔
      ∃ text, environment.lookup setting.name = some text ∧ read (Text.trimBlanks text.toList) = none ∧
        error = ⟨setting, text⟩ := by
  unfold Environment.readWith
  split
  · rename_i h
    simp [h]
  · rename_i text h
    split
    · rename_i b hread
      simp [h, hread]
    · rename_i hread
      simp [h, hread, eq_comm]

theorem readWith_map (f : α → β) :
    (environment.readWith read setting fallback).map f =
      environment.readWith (fun chars => (read chars).map f) setting (f fallback) := by
  unfold Environment.readWith
  split
  · rfl
  · rename_i text h
    cases hread : read (Text.trimBlanks text.toList) with
    | none => simp [hread, Except.map]
    | some a => simp [hread, Except.map]

theorem Setting.settle_ok (h : setting.settle raw = .ok value) : value = setting.convert raw := by
  unfold settle at h
  split at h
  · split at h <;> cases h
    rfl
  · cases h
    rfl

theorem Setting.settle_error_iff :
    setting.settle raw = .error error ↔
      setting = .pruningInterval ∧ ∃ hours, raw = .number hours ∧ 2 ^ 64 ≤ hours * 3600 ∧
        error = ⟨.pruningInterval, toString hours⟩ := by
  unfold settle
  split
  · rename_i hours
    rw [Nat.one_shiftLeft]
    split
    · rename_i hfit
      simp only [reduceCtorEq, true_and, Raw.number.injEq, false_iff, not_exists, not_and]
      rintro _ rfl hlong
      omega
    · rename_i hlong
      simp [Nat.le_of_not_lt hlong, eq_comm]
  · rename_i hother
    simp only [reduceCtorEq, false_iff, not_and, not_exists]
    rintro rfl hours rfl
    exact absurd rfl (hother hours rfl)

theorem valueOf_error_iff :
    environment.valueOf setting = .error error ↔ Settings.Refusal environment error ∧ error.setting = setting := by
  simp only [Environment.valueOf, bind_error_iff, readWith_ok_iff, readWith_error_iff, Setting.settle_error_iff]
  constructor
  · rintro (⟨text, h, hread, rfl⟩ | ⟨raw, hraw, rfl, hours, rfl, hlong, rfl⟩)
    · refine ⟨.unreadable h (Text.trimmed_trimBlanks _) fun raw hraw => ?_, rfl⟩
      rw [Setting.Kind.read_eq_some_iff.mpr hraw] at hread
      cases hread
    · rcases hraw with ⟨-, hdefault⟩ | ⟨text, h, hread⟩
      · -- The default is a day, and that is not too long.
        cases hdefault
        omega
      · exact ⟨.tooLong h (Text.trimmed_trimBlanks _) (Setting.Kind.read_eq_some_iff.mp hread) hlong, rfl⟩
  · rintro ⟨h, rfl⟩
    cases h with
    | @unreadable setting text core h hcore hraw =>
      refine .inl ⟨text, h, ?_, rfl⟩
      rw [← hcore.eq, Option.eq_none_iff_forall_ne_some]
      intro raw hread
      exact hraw raw (Setting.Kind.read_eq_some_iff.mp hread)
    | @tooLong text core hours h hcore hraw hlong =>
      refine .inr ⟨.number hours, .inr ⟨text, h, ?_⟩, rfl, hours, rfl, hlong, rfl⟩
      rw [← hcore.eq]
      exact Setting.Kind.read_eq_some_iff.mpr hraw

theorem given_of_valueOf (h : environment.valueOf setting = .ok value) : Settings.Given environment setting value := by
  simp only [Environment.valueOf, bind_ok_iff, readWith_ok_iff] at h
  obtain ⟨raw, hraw, hvalue⟩ := h
  obtain rfl := Setting.settle_ok hvalue
  rcases hraw with ⟨h, rfl⟩ | ⟨text, h, hread⟩
  · rw [Setting.convert_fallback]
    exact .unset h
  · exact .set h (Text.trimmed_trimBlanks _) (Setting.Kind.read_eq_some_iff.mp hread)

/-- A variable gives its setting one value at most. -/
theorem Settings.Given.unique {value' : Setting.Value} (h : Settings.Given environment setting value)
    (h' : Settings.Given environment setting value') : value = value' := by
  cases h with
  | unset hnone =>
    cases h' with
    | unset => rfl
    | set hsome => cases hnone.symm.trans hsome
  | set hsome hcore hraw =>
    cases h' with
    | unset hnone => cases hnone.symm.trans hsome
    | set hsome' hcore' hraw' =>
      obtain rfl := Option.some.inj (hsome.symm.trans hsome')
      obtain rfl := hcore.eq.trans hcore'.eq.symm
      rw [hraw.unique hraw']

/-- Nothing else has an influence on a setting than its own variable. -/
theorem valueOf_congr (h : environment.lookup setting.name = other.lookup setting.name) :
    environment.valueOf setting = other.valueOf setting := by
  simp only [Environment.valueOf, Environment.readWith, h]

theorem refused_iff :
    Settings.Refused environment setting ↔ ∃ error, environment.valueOf setting = .error error := by
  simp only [valueOf_error_iff]
  constructor
  · rintro ⟨told, h⟩
    exact ⟨_, h, rfl⟩
  · rintro ⟨error, h, rfl⟩
    exact ⟨error.value, h⟩

theorem not_refused_iff :
    ¬ Settings.Refused environment setting ↔ ∃ value, environment.valueOf setting = .ok value := by
  rw [refused_iff]
  cases environment.valueOf setting with
  | error error => simp
  | ok value => simp

/-- The readers of the settings differ in what they return. As values, all but the hours are read alike. -/
theorem map_readWith {wrap : α → Setting.Raw} (hs : setting ≠ .pruningInterval)
    (hread : setting.kind.read = fun chars => (read chars).map wrap) (hd : setting.fallback = wrap fallback) :
    (environment.readWith read setting fallback).map (fun a => setting.convert (wrap a)) =
      environment.valueOf setting := by
  have hsettle (raw : Setting.Raw) : setting.settle raw = .ok (setting.convert raw) := by
    unfold Setting.settle
    split
    · exact absurd rfl hs
    · rfl
  rw [Environment.valueOf, hread, hd, ← readWith_map]
  cases environment.readWith read setting fallback with
  | error error => rfl
  | ok a => exact (hsettle (wrap a)).symm

theorem map_number {bits n : Nat} (hs : setting ≠ .pruningInterval) (hk : setting.kind = .number bits)
    (hd : setting.fallback = .number n) :
    (environment.readWith (Text.readBounded (1 <<< bits)) setting n).map (fun n => setting.convert (.number n)) =
      environment.valueOf setting :=
  map_readWith hs (by rw [hk]; rfl) hd

theorem map_flag {b : Bool} (hs : setting ≠ .pruningInterval) (hk : setting.kind = .flag)
    (hd : setting.fallback = .flag b) :
    (environment.flag setting b).map (fun b => setting.convert (.flag b)) = environment.valueOf setting :=
  map_readWith hs (by rw [hk]; rfl) hd

theorem map_hours (environment : Environment) :
    (environment.hours .pruningInterval 24).map .span = environment.valueOf .pruningInterval := by
  have hread : environment.readWith Setting.pruningInterval.kind.read .pruningInterval (.number 24) =
      (environment.long .pruningInterval 24).map .number := (readWith_map Setting.Raw.number).symm
  rw [Environment.valueOf, Setting.fallback, hread, Environment.hours]
  cases environment.long .pruningInterval 24 with
  | error error => rfl
  | ok hours =>
    change Except.map _ (if _ then _ else _) = (if _ then _ else _)
    split
    · rfl
    · rfl

end One

structure Settings.Reads (environment : Environment) (s : Settings) (values : List Setting.Value) : Prop where
  values_eq : values = Setting.inOrder.map s.value
  url : s.url = (environment.lookup "SIGNER_DB_URL").getD ({} : Settings).url
  keysPath : s.keysPath = (environment.lookup "SIGNER_KEY_CONFIG_PATH").getD ({} : Settings).keysPath

/-- All settings are read as the list of them is. -/
theorem alike_read (environment : Environment) :
    Alike (Settings.Reads environment) (Settings.read environment) (Setting.inOrder.mapM environment.valueOf) := by
  unfold Settings.read Setting.inOrder
  -- Each step takes the next setting off the list. The last one leaves the record and the values to compare.
  refine .bind_mapM (map_number (by decide) rfl rfl) fun poolSize => ?_
  refine .bind_mapM (map_number (by decide) rfl rfl) fun pruningPoolSize => ?_
  refine .bind_mapM (map_number (by decide) rfl rfl) fun acquireTimeout => ?_
  refine .bind_mapM (map_number (by decide) rfl rfl) fun busyTimeout => ?_
  refine .bind_mapM (map_flag (by decide) rfl rfl) fun autoMigrate => ?_
  refine .bind_mapM (map_flag (by decide) rfl rfl) fun protectionEnabled => ?_
  refine .bind_mapM (map_flag (by decide) rfl rfl) fun requireGenesisRoot => ?_
  refine .bind_mapM (map_flag (by decide) rfl rfl) fun enabled => ?_
  refine .bind_mapM (map_number (by decide) rfl rfl) fun epochsToKeep => ?_
  refine .bind_mapM (map_number (by decide) rfl rfl) fun slotsPerEpoch => ?_
  refine .bind_mapM (map_hours environment) fun interval => ?_
  refine .bind_mapM (map_flag (by decide) rfl rfl) fun atBoot => ?_
  refine .bind_mapM (map_number (by decide) rfl rfl) fun batchSize => ?_
  exact .ok ⟨rfl, rfl, rfl⟩

namespace Settings
variable {environment other : Environment} {s s' : Settings} {error : SettingsError}

theorem reads_of_read (h : read environment = .ok s) :
    Reads environment s (Setting.inOrder.map s.value) ∧
      ∀ setting, environment.valueOf setting = .ok (s.value setting) := by
  obtain ⟨values, hall, hreads⟩ := (alike_read environment).exists_of_ok h
  obtain rfl := hreads.values_eq
  rw [mapM_ok_iff, List.forall₂_map_right_iff, List.forall₂_same] at hall
  exact ⟨hreads, fun setting => hall setting setting.mem_inOrder⟩

structure ReadFrom (environment : Environment) : Prop where
  fails : (∃ error, read environment = .error error) ↔ ∃ setting, Refused environment setting
  /-- The first setting that is refused is told. -/
  first : ∀ error, read environment = .error error ↔
    Refusal environment error ∧ ∃ before after, Setting.inOrder = before ++ error.setting :: after ∧
      ∀ setting ∈ before, ¬ Refused environment setting
  given : ∀ s, read environment = .ok s → ∀ setting value, Given environment setting value ↔ value = s.value setting
  url : ∀ s, read environment = .ok s →
    s.url = (environment.lookup "SIGNER_DB_URL").getD ({} : Settings).url
  keysPath : ∀ s, read environment = .ok s →
    s.keysPath = (environment.lookup "SIGNER_KEY_CONFIG_PATH").getD ({} : Settings).keysPath
  /-- Whatever else the variables are, a setting has the same value if its own is the same. -/
  alone : ∀ other s s', read environment = .ok s → read other = .ok s' →
    (∀ setting, environment.lookup setting.name = other.lookup setting.name → s.value setting = s'.value setting) ∧
    (environment.lookup "SIGNER_DB_URL" = other.lookup "SIGNER_DB_URL" → s.url = s'.url) ∧
    (environment.lookup "SIGNER_KEY_CONFIG_PATH" = other.lookup "SIGNER_KEY_CONFIG_PATH" → s.keysPath = s'.keysPath)

theorem first_refused_iff :
    read environment = .error error ↔
      Refusal environment error ∧ ∃ before after, Setting.inOrder = before ++ error.setting :: after ∧
        ∀ setting ∈ before, ¬ Refused environment setting := by
  rw [(alike_read environment).error_iff, mapM_error_iff]
  simp only [valueOf_error_iff, not_refused_iff]
  constructor
  · rintro ⟨before, _, after, horder, hbefore, hrefusal, rfl⟩
    exact ⟨hrefusal, before, after, horder, hbefore⟩
  · rintro ⟨hrefusal, before, after, horder, hbefore⟩
    exact ⟨before, error.setting, after, horder, hbefore, hrefusal, rfl⟩

theorem fails_iff : (∃ error, read environment = .error error) ↔ ∃ setting, Refused environment setting := by
  constructor
  · rintro ⟨error, h⟩
    exact ⟨error.setting, error.value, (first_refused_iff.mp h).1⟩
  · rintro ⟨setting, h⟩
    obtain ⟨error, herror⟩ := refused_iff.mp h
    cases hread : read environment with
    | error error => exact ⟨error, rfl⟩
    | ok s =>
      rw [(reads_of_read hread).2 setting] at herror
      cases herror

theorem given_iff (h : read environment = .ok s) {setting : Setting} {value : Setting.Value} :
    Given environment setting value ↔ value = s.value setting := by
  have hgiven := given_of_valueOf ((reads_of_read h).2 setting)
  constructor
  · intro hvalue
    exact hvalue.unique hgiven
  · rintro rfl
    exact hgiven

theorem value_congr (h : read environment = .ok s) (h' : read other = .ok s') {setting : Setting}
    (hown : environment.lookup setting.name = other.lookup setting.name) : s.value setting = s'.value setting := by
  have hvalue := valueOf_congr hown
  rw [(reads_of_read h).2 setting, (reads_of_read h').2 setting] at hvalue
  exact Except.ok.inj hvalue

theorem url_congr (h : read environment = .ok s) (h' : read other = .ok s')
    (hown : environment.lookup "SIGNER_DB_URL" = other.lookup "SIGNER_DB_URL") : s.url = s'.url := by
  rw [(reads_of_read h).1.url, (reads_of_read h').1.url, hown]

theorem keysPath_congr (h : read environment = .ok s) (h' : read other = .ok s')
    (hown : environment.lookup "SIGNER_KEY_CONFIG_PATH" = other.lookup "SIGNER_KEY_CONFIG_PATH") :
    s.keysPath = s'.keysPath := by
  rw [(reads_of_read h).1.keysPath, (reads_of_read h').1.keysPath, hown]

/-- Each setting has a variable of its own. The settings are read unless one of them is refused, and then each of them
has the value that its own variable gives it. -/
theorem read_exact :
    Function.Injective Setting.name ∧
      (∀ setting : Setting, setting.name ≠ "SIGNER_DB_URL" ∧ setting.name ≠ "SIGNER_KEY_CONFIG_PATH") ∧
      ∀ environment, ReadFrom environment := by
  refine ⟨Setting.name_injective, fun setting => ?_, fun environment => ?_⟩
  · cases setting <;> decide
  · exact {
      fails := fails_iff
      first := fun _ => first_refused_iff
      given := fun _ h _ _ => given_iff h
      url := fun _ h => (reads_of_read h).1.url
      keysPath := fun _ h => (reads_of_read h).1.keysPath
      alone := fun _ _ _ h h' => ⟨fun _ => value_congr h h', url_congr h h', keysPath_congr h h'⟩ }

/-- One hour more than fits 64 bits of seconds. It is told as the number that it is. -/
example : read ⟨fun name => if name = Setting.pruningInterval.name then some " +5124095576030432" else none⟩ =
    .error ⟨.pruningInterval, "5124095576030432"⟩ := by
  cbv

end Settings
end ValidatorSigner
