import ProcessLaunch.Proofs.Settings.Policy

/-!
# Warnings about integers

What is noted when the three integers of the settings are read.  A bound of the pool that cannot be
used is warned of once, with the number that takes its place.  Of the time limit this is not so: one
that is no integer is warned of with another number, and one that is not positive is passed over.
-/

namespace ProcessLaunch

def ConfigEvent.key? : ConfigEvent → Option String
  | invalidInteger (.invalidNumber key _) _ => some key
  | invalidInteger _ _ => none
  | negativePoolBound key _ _ => some key
  | fileMissing _ _ => none

/-- An integer among the settings: its key, the least number that it accepts, its default, and where
it is. -/
structure IntegerSetting where
  key : String
  least : Int
  default : Nat
  value : EngineSettings → Nat

namespace IntegerSetting

def poolMax : IntegerSetting :=
  ⟨SettingKey.poolMax, 0, EngineSettings.defaultPoolMax, (·.dataSource.maxConnections)⟩

def poolMin : IntegerSetting :=
  ⟨SettingKey.poolMin, 0, EngineSettings.defaultPoolMin, (·.dataSource.minIdle)⟩

def restTimeout : IntegerSetting :=
  ⟨SettingKey.restTimeoutSeconds, 1, EngineSettings.defaultRestTimeoutSeconds,
    (·.restTimeoutSeconds)⟩

def warnings (setting : IntegerSetting) (config : Config) : List ConfigEvent :=
  (EngineSettings.read config).notes.filter fun event => event.key? == some setting.key

/-- Nothing is noted about a setting that is absent or accepted.  Of any other value there is one
warning, and the default in it is the number that the setting gets. -/
structure WarnsTruthfully (setting : IntegerSetting) (config : Config)
    (settings : EngineSettings) : Prop where
  absent : config.get? setting.key = none →
    setting.warnings config = [] ∧ setting.value settings = setting.default
  accepted : ∀ n, config.HasInteger setting.key n → setting.least ≤ n →
    setting.warnings config = [] ∧ (setting.value settings : Int) = n
  rejected : ∀ text, config.get? setting.key = some text →
    (∀ n, config.HasInteger setting.key n → n < setting.least) →
      ∃ warning, setting.warnings config = [warning] ∧ warning.record.level = .warn ∧
        warning.record.fields.lookup "default" = some (.integer (setting.value settings))

end IntegerSetting

namespace EngineSettings

open Config (invalidInteger)

variable {config : Config} {key : String}

/-! ## 1. Bounds of the pool -/

theorem poolBound_of_none (default : Nat) (h : config.get? key = none) :
    poolBound config key default = ⟨default, []⟩ := by
  rw [poolBound, Config.getInteger_of_none _ h, Noted.mk_bind, if_neg (by omega)]
  rfl

theorem poolBound_of_accepted (default : Nat) {n : Int} (h : config.HasInteger key n)
    (hn : 0 ≤ n) : poolBound config key default = ⟨n.toNat, []⟩ := by
  rw [poolBound, h.getInteger_eq, Noted.mk_bind, if_neg (by omega)]
  rfl

theorem poolBound_of_negative (default : Nat) {n : Int} (h : config.HasInteger key n)
    (hn : n < 0) :
    poolBound config key default = ⟨default, [.negativePoolBound key n default]⟩ := by
  rw [poolBound, h.getInteger_eq, Noted.mk_bind, if_pos hn]
  rfl

theorem poolBound_of_invalid (default : Nat) {value : String}
    (hvalue : config.get? key = some value) (h : ∀ n, ¬config.HasInteger key n) :
    poolBound config key default = ⟨default, [invalidInteger key value default]⟩ := by
  -- the default that takes the place of the value is not negative, so there is no second warning
  rw [poolBound, Config.getInteger_of_invalid _ hvalue h, Noted.mk_bind, if_neg (by omega)]
  rfl

/-- What is noted about a bound names the key of that bound. -/
theorem key?_of_mem_poolBound {default : Nat} {event : ConfigEvent}
    (h : event ∈ (poolBound config key default).notes) : event.key? = some key := by
  -- the key is absent, holds an integer or holds something else
  obtain hnone | ⟨n, hn⟩ | ⟨value, hvalue, hinvalid⟩ := Config.integer_cases config key
  · rw [poolBound_of_none default hnone] at h
    cases h
  · by_cases hsign : 0 ≤ n
    · rw [poolBound_of_accepted default hn hsign] at h
      cases h
    · rw [poolBound_of_negative default hn (by omega), List.mem_singleton] at h
      rw [h]
      rfl
  · rw [poolBound_of_invalid default hvalue hinvalid, List.mem_singleton] at h
    rw [h]
    rfl

/-! ## 2. The time limit -/

theorem restTimeout_of_none (h : config.get? SettingKey.restTimeoutSeconds = none) :
    restTimeout config = ⟨30, []⟩ := by
  rw [restTimeout, Config.getInteger_of_none _ h, Noted.mk_bind]
  rfl

theorem restTimeout_of_accepted {n : Int} (h : config.HasInteger SettingKey.restTimeoutSeconds n)
    (hn : 1 ≤ n) : restTimeout config = ⟨n.toNat, []⟩ := by
  rw [restTimeout, h.getInteger_eq, Noted.mk_bind, if_pos (by omega)]
  rfl

/-- A time limit that is not positive gives way to the default without a word. -/
theorem restTimeout_of_low {n : Int} (h : config.HasInteger SettingKey.restTimeoutSeconds n)
    (hn : n < 1) : restTimeout config = ⟨30, []⟩ := by
  rw [restTimeout, h.getInteger_eq, Noted.mk_bind, if_neg (by omega)]
  rfl

/-- A time limit that is no integer is warned of with -1, and the default is another number. -/
theorem restTimeout_of_invalid {value : String}
    (hvalue : config.get? SettingKey.restTimeoutSeconds = some value)
    (h : ∀ n, ¬config.HasInteger SettingKey.restTimeoutSeconds n) :
    restTimeout config = ⟨30, [invalidInteger SettingKey.restTimeoutSeconds value (-1)]⟩ := by
  -- the warning has the number that stands for a missing one, not the one that is put in its place
  rw [restTimeout, Config.getInteger_of_invalid _ hvalue h, Noted.mk_bind]
  rfl

theorem key?_of_mem_restTimeout {event : ConfigEvent} (h : event ∈ (restTimeout config).notes) :
    event.key? = some SettingKey.restTimeoutSeconds := by
  obtain hnone | ⟨n, hn⟩ | ⟨value, hvalue, hinvalid⟩ :=
    Config.integer_cases config SettingKey.restTimeoutSeconds
  · rw [restTimeout_of_none hnone] at h
    cases h
  · by_cases hpositive : 1 ≤ n
    · rw [restTimeout_of_accepted hn hpositive] at h
      cases h
    · rw [restTimeout_of_low hn (by omega)] at h
      cases h
  · rw [restTimeout_of_invalid hvalue hinvalid, List.mem_singleton] at h
    rw [h]
    rfl

end EngineSettings

/-! ## 3. Warnings of a reading -/

theorem filter_key?_self {key : String} {events : List ConfigEvent}
    (h : ∀ event ∈ events, event.key? = some key) :
    events.filter (fun event => event.key? == some key) = events :=
  List.filter_eq_self.mpr fun event hevent => by rw [h event hevent, beq_self_eq_true]

theorem filter_key?_of_ne {key other : String} {events : List ConfigEvent}
    (h : ∀ event ∈ events, event.key? = some other) (hne : other ≠ key) :
    events.filter (fun event => event.key? == some key) = [] := by
  rw [List.filter_eq_nil_iff]
  intro event hevent
  rw [h event hevent, beq_iff_eq, Option.some.injEq]
  exact hne

namespace EngineSettings

variable {config : Config} {settings : EngineSettings}

/-- A reading that gives settings notes what it notes about the two bounds and then about the time
limit. -/
theorem notes_of_read (h : (read config).value = .ok settings) :
    (read config).notes =
      (poolBound config SettingKey.poolMax defaultPoolMax).notes ++
        (poolBound config SettingKey.poolMin defaultPoolMin).notes ++
          (restTimeout config).notes := by
  obtain ⟨hgives, -⟩ := (read_value_eq_ok_iff config settings).mp h
  have hsource := requireDataSource_eq config
  rw [(config.unlessMissing_eq_ok_iff _ _ _).mpr ⟨fun key hkey => hgives key
    (List.mem_append_left [SettingKey.processDefinitionKey, SettingKey.processResource] hkey), rfl⟩]
    at hsource
  rw [read_notes, hsource]

end EngineSettings

namespace IntegerSetting

open EngineSettings (poolBound sampleWith)
open Config (invalidInteger)

variable {config : Config} {settings : EngineSettings}

def result (setting : IntegerSetting) (config : Config) (settings : EngineSettings) :
    Noted ConfigEvent Nat := ⟨setting.value settings, setting.warnings config⟩

/-- What is noted about each of the integers can be told from the notes of the whole reading,
because the events name their keys. -/
theorem results_of_read (h : (EngineSettings.read config).value = .ok settings) :
    poolMax.result config settings = poolBound config poolMax.key poolMax.default ∧
      poolMin.result config settings = poolBound config poolMin.key poolMin.default ∧
      restTimeout.result config settings = EngineSettings.restTimeout config := by
  have hnotes : (EngineSettings.read config).notes =
      (poolBound config poolMax.key poolMax.default).notes ++
        (poolBound config poolMin.key poolMin.default).notes ++
          (EngineSettings.restTimeout config).notes := EngineSettings.notes_of_read h
  have hmost : ∀ event ∈ (poolBound config poolMax.key poolMax.default).notes,
      event.key? = some poolMax.key := fun _ => EngineSettings.key?_of_mem_poolBound
  have hleast : ∀ event ∈ (poolBound config poolMin.key poolMin.default).notes,
      event.key? = some poolMin.key := fun _ => EngineSettings.key?_of_mem_poolBound
  have htimeout : ∀ event ∈ (EngineSettings.restTimeout config).notes,
      event.key? = some restTimeout.key := fun _ => EngineSettings.key?_of_mem_restTimeout
  obtain rfl := ((EngineSettings.read_value_eq_ok_iff config settings).mp h).2.eq_ofConfig
  unfold result warnings
  rw [hnotes]
  simp only [List.filter_append]
  -- the three keys differ, so that each setting is left with its own notes
  refine ⟨?_, ?_, ?_⟩
  · rw [filter_key?_self hmost, filter_key?_of_ne hleast (by decide),
      filter_key?_of_ne htimeout (by decide), List.append_nil, List.append_nil]
    show (⟨EngineSettings.boundInEffect config _ _, _⟩ : Noted ConfigEvent Nat) = _
    rw [← EngineSettings.poolBound_value]
    rfl
  · rw [filter_key?_of_ne hmost (by decide), filter_key?_self hleast,
      filter_key?_of_ne htimeout (by decide), List.nil_append, List.append_nil]
    show (⟨EngineSettings.boundInEffect config _ _, _⟩ : Noted ConfigEvent Nat) = _
    rw [← EngineSettings.poolBound_value]
    rfl
  · rw [filter_key?_of_ne hmost (by decide), filter_key?_of_ne hleast (by decide),
      filter_key?_self htimeout, List.nil_append, List.nil_append]
    show (⟨EngineSettings.timeoutInEffect config, _⟩ : Noted ConfigEvent Nat) = _
    rw [← EngineSettings.restTimeout_value]

theorem result_eq_iff (setting : IntegerSetting) (number : Nat) (events : List ConfigEvent) :
    setting.result config settings = ⟨number, events⟩ ↔
      setting.warnings config = events ∧ setting.value settings = number := by
  rw [result, Noted.mk.injEq]
  exact and_comm

/-- The two bounds of the pool are warned of truthfully. -/
theorem warnsTruthfully_of_poolBound {setting : IntegerSetting} (hleast : setting.least = 0)
    (h : setting.result config settings = poolBound config setting.key setting.default) :
    setting.WarnsTruthfully config settings where
  absent hnone := by
    rwa [EngineSettings.poolBound_of_none _ hnone, result_eq_iff] at h
  accepted n hn hle := by
    rw [hleast] at hle
    rw [EngineSettings.poolBound_of_accepted _ hn hle, result_eq_iff] at h
    obtain ⟨hwarnings, hvalue⟩ := h
    exact ⟨hwarnings, by omega⟩
  rejected text htext hlow := by
    rw [hleast] at hlow
    -- a value is refused because it is negative or because it is no integer
    by_cases hinteger : ∃ n, config.HasInteger setting.key n
    · obtain ⟨n, hn⟩ := hinteger
      rw [EngineSettings.poolBound_of_negative _ hn (hlow n hn), result_eq_iff] at h
      obtain ⟨hwarnings, hvalue⟩ := h
      refine ⟨_, hwarnings, rfl, ?_⟩
      rw [hvalue]
      rfl
    · rw [EngineSettings.poolBound_of_invalid _ htext (not_exists.mp hinteger), result_eq_iff] at h
      obtain ⟨hwarnings, hvalue⟩ := h
      refine ⟨_, hwarnings, rfl, ?_⟩
      rw [hvalue]
      rfl

/-- The time limit is warned of truthfully only where there is nothing to warn of. -/
theorem restTimeout_warnsTruthfully_iff
    (h : restTimeout.result config settings = EngineSettings.restTimeout config) :
    restTimeout.WarnsTruthfully config settings ↔
      config.get? restTimeout.key = none ∨ ∃ n, config.HasInteger restTimeout.key n ∧ 1 ≤ n := by
  constructor
  · intro htruthful
    obtain hnone | ⟨n, hn⟩ | ⟨text, htext, hinvalid⟩ :=
      Config.integer_cases config restTimeout.key
    · exact .inl hnone
    · by_cases hpositive : 1 ≤ n
      · exact .inr ⟨n, hn, hpositive⟩
      · -- there would have to be a warning, and there is none
        rw [EngineSettings.restTimeout_of_low hn (by omega), result_eq_iff] at h
        obtain ⟨text, htext, -⟩ := id hn
        have hlow : ∀ m, config.HasInteger restTimeout.key m → m < restTimeout.least := by
          intro m hm
          rw [hm.unique hn]
          show n < 1
          omega
        obtain ⟨warning, hwarning, -⟩ := htruthful.rejected text htext hlow
        rw [h.1] at hwarning
        cases hwarning
    · -- there is one, with -1 for its default and not 30
      rw [EngineSettings.restTimeout_of_invalid htext hinvalid, result_eq_iff] at h
      obtain ⟨warning, hwarning, -, hdefault⟩ :=
        htruthful.rejected text htext fun n hn => absurd hn (hinvalid n)
      rw [h.1, List.cons.injEq] at hwarning
      obtain ⟨rfl, -⟩ := hwarning
      have hvalue : (some (.integer (-1)) : Option FieldValue) =
          some (.integer (restTimeout.value settings)) := hdefault
      rw [h.2] at hvalue
      cases hvalue
  · rintro (hnone | ⟨n, hn, hpositive⟩)
    · rw [EngineSettings.restTimeout_of_none hnone, result_eq_iff] at h
      have hsome {text : String} : config.get? restTimeout.key ≠ some text := by
        rw [hnone]
        exact nofun
      exact ⟨fun _ => h, fun n ⟨text, htext, _⟩ => absurd htext hsome,
        fun text htext => absurd htext hsome⟩
    · rw [EngineSettings.restTimeout_of_accepted hn hpositive, result_eq_iff] at h
      refine ⟨fun hnone => ?_, fun m hm _ => ⟨h.1, ?_⟩, fun text _ hlow => ?_⟩
      · obtain ⟨text, htext, -⟩ := hn
        rw [hnone] at htext
        cases htext
      · rw [h.2, hm.unique hn]
        omega
      · have hn' : n < 1 := hlow n hn
        omega

/-! ## 4. What the warnings say -/

/-- Both bounds of the pool are warned of truthfully.  The time limit is only where there is nothing
to warn of: a value that is no integer is warned of with -1 as the default, and an integer that is
not positive is not warned of, while the setting gets 30 in both cases. -/
theorem warnings_of_integers (config : Config) (settings : EngineSettings)
    (h : (EngineSettings.read config).value = .ok settings) :
    (EngineSettings.read config).notes =
        poolMax.warnings config ++ poolMin.warnings config ++ restTimeout.warnings config ∧
      poolMax.WarnsTruthfully config settings ∧ poolMin.WarnsTruthfully config settings ∧
      (restTimeout.WarnsTruthfully config settings ↔
        config.get? restTimeout.key = none ∨ ∃ n, config.HasInteger restTimeout.key n ∧ 1 ≤ n) ∧
      (∀ n, config.HasInteger restTimeout.key n → n < 1 →
        restTimeout.warnings config = [] ∧ settings.restTimeoutSeconds = 30) ∧
      ∀ text, config.get? restTimeout.key = some text →
        (∀ n, ¬config.HasInteger restTimeout.key n) →
          restTimeout.warnings config = [invalidInteger restTimeout.key text (-1)] ∧
            settings.restTimeoutSeconds = 30 := by
  obtain ⟨hmost, hleast, htimeout⟩ := results_of_read h
  -- the parts of the notes are the warnings of the three settings
  have hnotes {setting : IntegerSetting} {result : Noted ConfigEvent Nat}
      (hresult : setting.result config settings = result) :
      result.notes = setting.warnings config := by
    rw [← hresult]
    rfl
  refine ⟨?_, warnsTruthfully_of_poolBound rfl hmost, warnsTruthfully_of_poolBound rfl hleast,
    restTimeout_warnsTruthfully_iff htimeout, fun n hn hlow => ?_, fun text htext hinvalid => ?_⟩
  · rw [EngineSettings.notes_of_read h, ← hnotes hmost, ← hnotes hleast, ← hnotes htimeout]
    rfl
  · rwa [EngineSettings.restTimeout_of_low hn hlow, result_eq_iff] at htimeout
  · rwa [EngineSettings.restTimeout_of_invalid htext hinvalid, result_eq_iff] at htimeout

theorem warnings_of_integers_negative :
    ∃ settings, (EngineSettings.read (sampleWith [(poolMin.key, "-3")])).value = .ok settings ∧
      poolMin.WarnsTruthfully (sampleWith [(poolMin.key, "-3")]) settings ∧
      restTimeout.WarnsTruthfully (sampleWith [(poolMin.key, "-3")]) settings := by
  have hread := EngineSettings.read_sampleWith "-3"
    (show poolMin.key ∉ SettingKey.required by decide)
  obtain ⟨-, -, hleast, htimeout, -⟩ := warnings_of_integers _ _ hread
  refine ⟨_, hread, hleast, htimeout.mpr (.inl ?_)⟩
  rw [EngineSettings.get?_sampleWith]
  decide +kernel

def sampleLimit (text : String) : Config := sampleWith [(restTimeout.key, text)]

/-- A time limit that is no integer is warned of with a default that it does not get, and one that
is not positive is not warned of. -/
theorem time_limit_warns_falsely :
    (∃ settings, (EngineSettings.read (sampleLimit "abc")).value = .ok settings ∧
      settings.restTimeoutSeconds = 30 ∧
      restTimeout.warnings (sampleLimit "abc") = [invalidInteger restTimeout.key "abc" (-1)] ∧
      ¬restTimeout.WarnsTruthfully (sampleLimit "abc") settings) ∧
    ∃ settings, (EngineSettings.read (sampleLimit "0")).value = .ok settings ∧
      settings.restTimeoutSeconds = 30 ∧ restTimeout.warnings (sampleLimit "0") = [] ∧
      ¬restTimeout.WarnsTruthfully (sampleLimit "0") settings := by
  have hread (text : String) : (EngineSettings.read (sampleLimit text)).value =
      .ok (.ofConfig (sampleLimit text)) := EngineSettings.read_sampleWith text (by decide)
  have htext (text : String) : (sampleLimit text).get? restTimeout.key = some text := by
    rw [sampleLimit, EngineSettings.get?_sampleWith]
    rfl
  have hinvalid : ∀ n, ¬(sampleLimit "abc").HasInteger restTimeout.key n := by
    rintro n ⟨value, hvalue, hn⟩
    rw [htext, Option.some.injEq] at hvalue
    subst hvalue
    exact (Text.integer32?_eq_none_iff _).mp (by decide +kernel) ⟨n, hn⟩
  have hzero : (sampleLimit "0").HasInteger restTimeout.key 0 :=
    ⟨"0", htext "0", (Text.integer32?_eq_some_iff _ _).mp (by decide +kernel)⟩
  -- no integer, and then an integer that is too small
  constructor
  · obtain ⟨-, -, hresult⟩ := results_of_read (hread "abc")
    have hfalse := (restTimeout_warnsTruthfully_iff hresult).not.mpr (by
      rintro (hnone | ⟨n, hn, -⟩)
      · rw [htext] at hnone
        cases hnone
      · exact hinvalid n hn)
    rw [EngineSettings.restTimeout_of_invalid (htext "abc") hinvalid, result_eq_iff] at hresult
    exact ⟨_, hread "abc", hresult.2, hresult.1, hfalse⟩
  · obtain ⟨-, -, hresult⟩ := results_of_read (hread "0")
    have hfalse := (restTimeout_warnsTruthfully_iff hresult).not.mpr (by
      rintro (hnone | ⟨n, hn, hpositive⟩)
      · rw [htext] at hnone
        cases hnone
      · rw [hn.unique hzero] at hpositive
        omega)
    rw [EngineSettings.restTimeout_of_low hzero (by omega), result_eq_iff] at hresult
    exact ⟨_, hread "0", hresult.2, hresult.1, hfalse⟩

end IntegerSetting

end ProcessLaunch
