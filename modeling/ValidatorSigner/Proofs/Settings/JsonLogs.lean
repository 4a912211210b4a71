import ValidatorSigner.Proofs.Settings
import ValidatorSigner.Proofs.Text.Hex

/-! # The flag for JSON logs

JSON logs are asked for by a flag of their own kind. It is on for two words, without blanks around them, and off for
every other text. So it is never refused, and some texts that switch other flags on leave it off.
-/
namespace ValidatorSigner
open Telemetry

def Environment.set (environment : Environment) (name text : String) : Environment where
  lookup other := if other = name then some text else environment.lookup other

def jsonLogsName : String := "SIGNER_JSON_LOGS"

def AsksForJson (text : String) : Prop := Keys.SameLetters text "true" ∨ text = "1"

instance (text : String) : Decidable (AsksForJson text) :=
  inferInstanceAs (Decidable (text.toList.map Char.toLower = "true".toList.map Char.toLower ∨ text = "1"))

/-- The texts that other flags are read from. -/
def IsFlag (text : String) (b : Bool) : Prop :=
  ∃ core, Text.Trimmed text.toList core ∧ Setting.Kind.flag.Reads core (.flag b)

/-- A text that has the same outcome for a flag and for JSON logs: they are both on, both off or both refused. -/
inductive TreatedAlike (environment : Environment) (setting : Setting) (text : String) : Prop
  | read {b : Bool} {s s' : Settings} (hs : Settings.read (environment.set setting.name text) = .ok s)
      (hb : s.value setting = .flag b) (hs' : Settings.read (environment.set jsonLogsName text) = .ok s')
      (hb' : s'.telemetry.jsonLogs = b) : TreatedAlike environment setting text
  | refused {e e' : SettingsError} (he : Settings.read (environment.set setting.name text) = .error e)
      (he' : Settings.read (environment.set jsonLogsName text) = .error e') : TreatedAlike environment setting text

section Texts
variable {c : Char} {text : String} {b b' : Bool}

theorem isBlank_toLower (c : Char) : Text.isBlank c.toLower = Text.isBlank c := by
  have hcode := Text.Hex.toNat_toLower c
  rw [Bool.eq_iff_iff]
  simp only [Text.isBlank, Bool.or_eq_true, Bool.and_eq_true, decide_eq_true_eq, beq_iff_eq]
  split at hcode
  · omega
  · rw [hcode]

theorem isFlag_iff : IsFlag text b ↔ readFlag (Text.trimBlanks text.toList) = some b := by
  have hread (chars : List Char) : Setting.Kind.flag.Reads chars (.flag b) ↔ readFlag chars = some b := by
    rw [← Setting.Kind.read_eq_some_iff]
    simp [Setting.Kind.read]
  simp only [IsFlag, Text.trimmed_iff, hread, exists_eq_left]

theorem IsFlag.unique (h : IsFlag text b) (h' : IsFlag text b') : b = b' := by
  rw [isFlag_iff] at h h'
  exact Option.some.inj (h.symm.trans h')

/-- A text in the letters of a word has no blanks to lose. -/
theorem isFlag_of_sameLetters {word : String} (hw : word ∈ Setting.flagWords b)
    (hword : word.toList.any Text.isBlank = false) (h : Keys.SameLetters text word) : IsFlag text b := by
  rw [← String.ofList_toList (s := text)] at h
  have hlower : text.toList.map Char.toLower = word.toList := by
    rw [← (sameLetters_flagWord hw).mp h, lowerCase, String.toList_ofList, String.toList_ofList]
  have hnonblank : ∀ c ∈ text.toList, Text.isBlank c = false := by
    intro c hc
    rw [← isBlank_toLower]
    have hmem : c.toLower ∈ word.toList := hlower ▸ List.mem_map_of_mem hc
    exact Bool.eq_false_iff.mpr (List.any_eq_false.mp hword _ hmem)
  have htrimmed := @Text.Trimmed.of_nonblank text.toList [] [] nofun nofun hnonblank
  exact ⟨text.toList, by simpa using htrimmed, .flag hw h⟩

theorem AsksForJson.isFlag (h : AsksForJson text) : IsFlag text true := by
  rcases h with h | rfl
  · exact isFlag_of_sameLetters (by decide) (by decide) h
  · exact isFlag_of_sameLetters (b := true) (by decide) (by decide) rfl

end Texts

namespace Settings
variable {environment : Environment} {name other text : String} {setting setting' : Setting} {s : Settings} {b : Bool}

theorem lookup_set_self : (environment.set name text).lookup name = some text := if_pos rfl

theorem lookup_set_ne (h : other ≠ name) : (environment.set name text).lookup other = environment.lookup other :=
  if_neg h

theorem readWith_set {α : Type} {read : List Char → Option α} {fallback : α} (h : setting.name ≠ name) :
    (environment.set name text).readWith read setting fallback = environment.readWith read setting fallback := by
  simp only [Environment.readWith, lookup_set_ne h]

theorem telemetry_set_jsonLogs (environment : Environment) (text : String) :
    TelemetrySettings.read (environment.set jsonLogsName text) =
      { TelemetrySettings.read environment with jsonLogs := decide (AsksForJson text) } := by
  have hasks : (decide (lowerCase text = "true") || decide (text = "1")) = decide (AsksForJson text) := by
    rw [Bool.eq_iff_iff, Bool.or_eq_true, decide_eq_true_eq, decide_eq_true_eq, decide_eq_true_eq, AsksForJson,
      Keys.sameLetters_iff (by decide)]
    rfl
  have hself : (environment.set jsonLogsName text).lookup "SIGNER_JSON_LOGS" = some text := lookup_set_self
  simp only [TelemetrySettings.read, hself, hasks, lookup_set_ne (show "SIGNER_SERVICE_NAME" ≠ jsonLogsName by decide),
    lookup_set_ne (show "SIGNER_LOG_LEVEL" ≠ jsonLogsName by decide),
    lookup_set_ne (show "RUST_LOG" ≠ jsonLogsName by decide)]

/-- Whatever the variable for JSON logs is set to, the settings are read as they are without it, and the flag with
them. -/
theorem read_set_jsonLogs (environment : Environment) (text : String) :
    read (environment.set jsonLogsName text) =
      (read environment).map fun s =>
        { s with telemetry := { s.telemetry with jsonLogs := decide (AsksForJson text) } } := by
  have hname (setting : Setting) : setting.name ≠ jsonLogsName := by
    cases setting <;> decide
  have hurl := @lookup_set_ne environment jsonLogsName "SIGNER_DB_URL" text (by decide)
  have hkeys := @lookup_set_ne environment jsonLogsName "SIGNER_KEY_CONFIG_PATH" text (by decide)
  change _ = (fun s : Settings =>
    { s with telemetry := { s.telemetry with jsonLogs := decide (AsksForJson text) } }) <$> read environment
  simp only [read, map_bind, map_pure, Environment.word, Environment.long, Environment.flag, Environment.hours,
    readWith_set (hname _), hurl, hkeys, telemetry_set_jsonLogs]

theorem not_refused_set (h : read environment = .ok s) (hne : setting' ≠ setting) :
    ¬ Refused (environment.set setting.name text) setting' := by
  have hvalue := valueOf_congr (@lookup_set_ne environment _ _ text (Setting.name_injective.ne hne))
  rw [not_refused_iff, hvalue, (reads_of_read h).2 setting']
  exact ⟨_, rfl⟩

theorem read_set_flag (hk : setting.kind = .flag) (h : read environment = .ok s) (hb : IsFlag text b) :
    ∃ s', read (environment.set setting.name text) = .ok s' ∧ s'.value setting = .flag b := by
  obtain ⟨core, hcore, hreads⟩ := hb
  rw [← hk] at hreads
  cases hread : read (environment.set setting.name text) with
  | ok s' =>
    have hgiven : Given (environment.set setting.name text) setting _ := .set lookup_set_self hcore hreads
    refine ⟨s', rfl, ?_⟩
    rw [← (given_iff hread).mp hgiven]
    cases setting <;> rfl
  | error e =>
    -- The only setting that could be refused is the flag itself, and its text is one of its kind.
    obtain ⟨setting', hrefused⟩ := fails_iff.mp ⟨e, hread⟩
    by_cases hne : setting' = setting
    · subst hne
      obtain ⟨told, hrefusal⟩ := hrefused
      cases hrefusal with
      | unreadable hlookup hcore' hraw =>
        obtain rfl := Option.some.inj (lookup_set_self.symm.trans hlookup)
        rw [hcore'.eq, ← hcore.eq] at hraw
        exact absurd hreads (hraw _)
      | tooLong => cases hk
    · exact absurd hrefused (not_refused_set h hne)

theorem read_set_unreadable (hk : setting.kind = .flag) (h : read environment = .ok s) (hno : ∀ b, ¬ IsFlag text b) :
    read (environment.set setting.name text) = .error ⟨setting, text⟩ := by
  obtain ⟨before, after, horder, hbefore⟩ := List.eq_append_cons_of_mem setting.mem_inOrder
  refine first_refused_iff.mpr ⟨.unreadable lookup_set_self (Text.trimmed_trimBlanks _) ?_, before, after, horder, ?_⟩
  · intro raw hraw
    rw [hk] at hraw
    cases hraw with
    | flag hw hletters => exact hno _ ⟨_, Text.trimmed_trimBlanks _, .flag hw hletters⟩
  · intro setting' hmem
    apply not_refused_set h
    rintro rfl
    exact hbefore hmem

theorem treatedAlike_iff (hk : setting.kind = .flag) (h : read environment = .ok s) :
    TreatedAlike environment setting text ↔ IsFlag text false ∨ AsksForJson text := by
  have hjson := read_set_jsonLogs environment text
  rw [h] at hjson
  constructor
  · intro halike
    cases halike with
    | @read b s₁ s₂ hs₁ hb hs₂ hb' =>
      cases hjson.symm.trans hs₂
      by_cases hflag : ∃ b, IsFlag text b
      · obtain ⟨b', hb''⟩ := hflag
        obtain ⟨s₃, hs₃, hvalue⟩ := read_set_flag hk h hb''
        cases hs₁.symm.trans hs₃
        cases hb.symm.trans hvalue
        cases b with
        | false => exact .inl hb''
        | true => exact .inr (of_decide_eq_true hb')
      · have hrefused := read_set_unreadable hk h (not_exists.mp hflag)
        cases hs₁.symm.trans hrefused
    | refused _ he' => cases hjson.symm.trans he'
  · rintro (hoff | hon)
    · obtain ⟨s₁, hs₁, hb⟩ := read_set_flag hk h hoff
      refine .read hs₁ hb hjson (decide_eq_false fun hasks => ?_)
      cases hoff.unique hasks.isFlag
    · obtain ⟨s₁, hs₁, hb⟩ := read_set_flag hk h hon.isFlag
      exact .read hs₁ hb hjson (decide_eq_true hon)

/-- The flag for JSON logs is on for two words as they stand and off for any other text, and nothing else depends on
it. A text is treated like one of another flag only if it turns that off, or asks for JSON logs. What is refused as
another flag is off here. -/
theorem json_logs_exact (environment : Environment) :
    (∀ text, read (environment.set jsonLogsName text) = (read environment).map fun s =>
      { s with telemetry := { s.telemetry with jsonLogs := decide (AsksForJson text) } }) ∧
    ∀ (s : Settings) (setting : Setting), read environment = .ok s → setting.kind = .flag → ∀ text,
      (TreatedAlike environment setting text ↔ IsFlag text false ∨ AsksForJson text) ∧
      ((∀ b, ¬ IsFlag text b) → read (environment.set setting.name text) = .error ⟨setting, text⟩ ∧
        ¬ AsksForJson text) := by
  refine ⟨read_set_jsonLogs environment, fun s setting h hk text => ⟨treatedAlike_iff hk h, fun hno => ?_⟩⟩
  exact ⟨read_set_unreadable hk h hno, fun hasks => hno true hasks.isFlag⟩

theorem not_isFlag_maybe (b : Bool) : ¬ IsFlag "maybe" b := by
  have hread : readFlag (Text.trimBlanks "maybe".toList) = none := by cbv
  rw [isFlag_iff, hread]
  intro h
  cases h

/-- Where nothing else is set, capital letters ask for JSON logs as they turn on a flag, and `maybe` is refused as a
flag alone. -/
theorem json_logs_exact_capital :
    let nothing : Environment := ⟨fun _ => none⟩
    (read nothing = .ok {} ∧ Setting.autoMigrate.kind = .flag ∧ ∀ b, ¬ IsFlag "maybe" b) ∧
    TreatedAlike nothing .autoMigrate "TRUE" ∧
    read (nothing.set "SIGNER_DB_AUTO_MIGRATE" "maybe") = .error ⟨.autoMigrate, "maybe"⟩ ∧
    read (nothing.set jsonLogsName "maybe") = .ok {} := by
  intro nothing
  have hnothing : read nothing = .ok {} := by cbv
  obtain ⟨hjson, hflag⟩ := json_logs_exact nothing
  have hmaybe := (hflag {} .autoMigrate hnothing rfl "maybe").2 not_isFlag_maybe
  refine ⟨⟨hnothing, rfl, not_isFlag_maybe⟩, ?_, hmaybe.1, ?_⟩
  · exact (hflag {} .autoMigrate hnothing rfl "TRUE").1.mpr (.inr (by decide))
  · rw [hjson, hnothing, decide_eq_false hmaybe.2]
    rfl

/-- One text turns on a flag and not JSON logs, another one does so with blanks around it only, and a third one is
refused as a flag and means nothing for JSON logs. -/
theorem json_logs_misread :
    let nothing : Environment := ⟨fun _ => none⟩
    (read (nothing.set "SIGNER_DB_AUTO_MIGRATE" "yes") = .ok { autoMigrate := true } ∧
      read (nothing.set jsonLogsName "yes") = .ok {}) ∧
    (read (nothing.set "SIGNER_DB_AUTO_MIGRATE" " true ") = .ok { autoMigrate := true } ∧
      read (nothing.set jsonLogsName " true ") = .ok {}) ∧
    (read (nothing.set "SIGNER_DB_AUTO_MIGRATE" "maybe") = .error ⟨.autoMigrate, "maybe"⟩ ∧
      read (nothing.set jsonLogsName "maybe") = .ok {}) ∧
    ¬ TreatedAlike nothing .autoMigrate "yes" ∧ ¬ TreatedAlike nothing .autoMigrate " true " ∧
    ¬ TreatedAlike nothing .autoMigrate "maybe" := by
  intro nothing
  have hnothing : read nothing = .ok {} := by cbv
  have halike (text : String) := @treatedAlike_iff nothing text .autoMigrate {} rfl hnothing
  refine ⟨⟨by cbv, by cbv⟩, ⟨by cbv, by cbv⟩, ⟨by cbv, by cbv⟩, ?_, ?_, ?_⟩
  · have hread : readFlag (Text.trimBlanks "yes".toList) = some true := by cbv
    have hasks : ¬ AsksForJson "yes" := by decide
    rw [halike, isFlag_iff, hread]
    simp [hasks]
  · have hread : readFlag (Text.trimBlanks " true ".toList) = some true := by cbv
    have hasks : ¬ AsksForJson " true " := by decide
    rw [halike, isFlag_iff, hread]
    simp [hasks]
  · have hasks : ¬ AsksForJson "maybe" := by decide
    rw [halike]
    simp [hasks, not_isFlag_maybe]

end Settings
end ValidatorSigner
