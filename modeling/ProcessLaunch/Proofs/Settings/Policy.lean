import Mathlib.Data.List.DropRight
import ProcessLaunch.Proofs.Config.Integer
import ProcessLaunch.Proofs.Config.Secrets

/-!
# The policy of the settings

What each setting is, told by the entry at its key alone, and which configurations give settings.
-/

namespace ProcessLaunch

open Text (trim)

namespace Config

/-- A number is the integer at a key if that is not less than a bound, and otherwise the default. -/
def ReadsNumber (config : Config) (key : String) (least : Int) (default number : Nat) : Prop :=
  (∃ n, config.HasInteger key n ∧ least ≤ n ∧ (number : Int) = n) ∨
    (∀ n, config.HasInteger key n → n < least) ∧ number = default

/-- A flag is off if there is a value at its key other than `true`, in any case. -/
def ReadsFlag (config : Config) (key : String) (flag : Bool) : Prop :=
  flag = true ↔
    ∀ value, config.get? key = some value → (trim value.toList).map Char.toLower = "true".toList

/-- An address is what is left of a value without the blanks around it and then the slashes behind
it, and there is none if nothing is left. -/
inductive ReadsAddress (config : Config) (key : String) : Option String → Prop
  | absent (h : config.get? key = none) : ReadsAddress config key none
  | nothing {value : String} {n : Nat} (h : config.get? key = some value)
      (hvalue : trim value.toList = List.replicate n '/') : ReadsAddress config key none
  | address {value address : String} {n : Nat} (h : config.get? key = some value)
      (hvalue : trim value.toList = address.toList ++ List.replicate n '/') (hne : address ≠ "")
      (hlast : address.toList.getLast? ≠ some '/') : ReadsAddress config key (some address)

def FirstMissing (config : Config) (keys : List String) (key : String) : Prop :=
  ∃ before after, keys = before ++ key :: after ∧ (∀ k ∈ before, config.gives k = true) ∧
    config.gives key = false

end Config

namespace SchemaUpdate

theorem decide_ofBool (flag : Bool) : decide (ofBool flag = enabled) = flag := by
  cases flag <;> rfl

theorem ofBool_decide (update : SchemaUpdate) : ofBool (decide (update = enabled)) = update := by
  cases update <;> rfl

end SchemaUpdate

def SettingKey.recognised : List String := SettingKey.required ++ EngineSettings.optionalKeys

/-- The settings that a configuration describes. -/
structure Config.Describes (config : Config) (settings : EngineSettings) : Prop where
  url : config.get? SettingKey.jdbcUrl = some settings.dataSource.url
  username : config.get? SettingKey.jdbcUsername = some settings.dataSource.username
  password : config.get? SettingKey.jdbcPassword = some settings.dataSource.password
  driver : config.get? SettingKey.jdbcDriver = some settings.dataSource.driver
  maxConnections : config.ReadsNumber SettingKey.poolMax 0 10 settings.dataSource.maxConnections
  minIdle : config.ReadsNumber SettingKey.poolMin 0 2 settings.dataSource.minIdle
  schemaUpdate :
    config.ReadsFlag SettingKey.schemaUpdate (settings.schemaUpdate = .enabled)
  jobExecutorActivate :
    config.ReadsFlag SettingKey.jobExecutorActivate settings.jobExecutorActivate
  processDefinitionKey : ∃ value, config.get? SettingKey.processDefinitionKey = some value ∧
    settings.processDefinitionKey = trimmed value
  processResource : ∃ value, config.get? SettingKey.processResource = some value ∧
    settings.processResource = trimmed value
  restUrl : config.ReadsAddress SettingKey.restUrl settings.restUrl
  restTimeoutSeconds :
    config.ReadsNumber SettingKey.restTimeoutSeconds 1 30 settings.restTimeoutSeconds

namespace Config

variable (config : Config)

/-! ## 1. Single settings -/

theorem hasInteger_iff (key : String) (n : Int) :
    config.HasInteger key n ↔ config.integer? key = some n := by
  rw [HasInteger, integer?, Option.bind_eq_some_iff]
  simp only [Text.integer32?_eq_some_iff]

theorem gives_getD {key : String} (h : config.gives key = true) :
    config.get? key = some (config.getD key "") ∧ isBlankText (config.getD key "") = false := by
  obtain ⟨value, hvalue, hblank⟩ := (config.gives_iff key).mp h
  rw [getD, hvalue]
  exact ⟨rfl, hblank⟩

theorem readsNumber_iff {key : String} {least : Int} (hleast : 0 ≤ least) (default number : Nat) :
    config.ReadsNumber key least default number ↔
      number = match config.integer? key with
        | some n => if least ≤ n then n.toNat else default
        | none => default := by
  unfold ReadsNumber
  simp only [hasInteger_iff]
  cases config.integer? key with
  | none => simp
  | some n =>
      simp only [Option.some.injEq, exists_eq_left', forall_eq']
      by_cases hn : least ≤ n
      · rw [if_pos hn]
        omega
      · rw [if_neg hn]
        omega

theorem readsFlag_iff (key : String) (flag : Bool) :
    config.ReadsFlag key flag ↔ flag = config.getFlag key true := by
  unfold ReadsFlag getFlag
  cases config.get? key with
  | none => simp
  | some value =>
      have htrue : flag = (lowered (trim value.toList) == "true".toList) ↔
          (flag = true ↔ (trim value.toList).map Char.toLower = "true".toList) := by
        rw [Bool.eq_iff_iff, beq_iff_eq]
        rfl
      simp only [Option.some.injEq, forall_eq']
      exact htrue.symm

/-- What is left when slashes go away at the end: a text that ends in none, with slashes behind it
in the original. -/
theorem stripped_eq_iff (s t : List Char) :
    s.rdropWhile (· == '/') = t ↔
      t.getLast? ≠ some '/' ∧ ∃ n, s = t ++ List.replicate n '/' := by
  rw [Text.rdropWhile_eq_iff]
  constructor
  · rintro ⟨hlast, run, hrun, rfl⟩
    refine ⟨fun h => absurd (hlast '/' h) (by decide), run.length, ?_⟩
    have hslashes : run = List.replicate run.length '/' :=
      List.eq_replicate_iff.mpr ⟨rfl, fun c hc => beq_iff_eq.mp (hrun c hc)⟩
    rw [← hslashes]
  · rintro ⟨hlast, n, rfl⟩
    refine ⟨fun c hc => ?_, _, fun c hc => beq_iff_eq.mpr (List.eq_of_mem_replicate hc), rfl⟩
    rw [beq_eq_false_iff_ne]
    rintro rfl
    exact hlast hc

theorem restAddress?_of_some {value : String} {left : List Char}
    (h : config.get? SettingKey.restUrl = some value)
    (hleft : (trim value.toList).rdropWhile (· == '/') = left) :
    EngineSettings.restAddress? config = if left = [] then none else some (String.ofList left) := by
  unfold EngineSettings.restAddress?
  simp only [h]
  rw [List.rdropWhile] at hleft
  rw [hleft]
  cases left with
  | nil => rfl
  | cons c left => rfl

/-- The policy of the address fixes the address. -/
theorem readsAddress_iff (address : Option String) :
    config.ReadsAddress SettingKey.restUrl address ↔
      address = EngineSettings.restAddress? config := by
  constructor
  · intro h
    cases h with
    | absent h => rw [EngineSettings.restAddress?, h]
    | nothing h hvalue =>
        have hleft := (stripped_eq_iff _ []).mpr ⟨by simp, _, hvalue⟩
        rw [config.restAddress?_of_some h hleft, if_pos rfl]
    | @address value address n h hvalue hne hlast =>
        have hleft := (stripped_eq_iff _ address.toList).mpr ⟨hlast, n, hvalue⟩
        have hnil : address.toList ≠ [] := fun hnil => hne (String.toList_eq_nil_iff.mp hnil)
        rw [config.restAddress?_of_some h hleft, if_neg hnil, String.ofList_toList]
  · rintro rfl
    cases h : config.get? SettingKey.restUrl with
    | none =>
        rw [EngineSettings.restAddress?, h]
        exact .absent h
    | some value =>
        obtain ⟨hlast, n, hn⟩ := (stripped_eq_iff (trim value.toList) _).mp rfl
        rw [config.restAddress?_of_some h rfl]
        generalize (trim value.toList).rdropWhile (· == '/') = left at *
        -- the value may have been slashes and blanks alone
        by_cases hnil : left = []
        · rw [if_pos hnil]
          subst hnil
          exact .nothing h hn
        · rw [if_neg hnil]
          refine .address h (by rwa [String.toList_ofList]) ?_ (by rwa [String.toList_ofList])
          rwa [ne_eq, ← String.toList_eq_nil_iff, String.toList_ofList]

/-- A number that is read lies between its least value and the greatest integer of 32 bits. -/
theorem ReadsNumber.bounds {config : Config} {key : String} {least : Int} {default number : Nat}
    (h : config.ReadsNumber key least default number) (hleast : least ≤ default)
    (hdefault : Text.Fits32 default) : least ≤ number ∧ number ≤ 2147483647 := by
  unfold Text.Fits32 at hdefault
  rcases h with ⟨n, ⟨value, -, -, -, hmost⟩, hn, hnumber⟩ | ⟨-, rfl⟩
  · omega
  · omega

/-! ## 2. All settings -/

theorem firstMissing_iff (keys : List String) (key : String) :
    config.FirstMissing keys key ↔ keys.find? (fun key => !config.gives key) = some key := by
  rw [List.find?_eq_some_iff_append, FirstMissing]
  simp only [Bool.not_not, Bool.not_eq_true']
  constructor
  · rintro ⟨before, after, hkeys, hbefore, hkey⟩
    exact ⟨hkey, before, after, hkeys, hbefore⟩
  · rintro ⟨hkey, before, after, hkeys, hbefore⟩
    exact ⟨before, after, hkeys, hbefore, hkey⟩

/-- The only error is a missing key, and it is the first that is missing. -/
theorem unlessMissing_eq_error_iff {α : Type} (keys : List String) (value : α) (e : ConfigError) :
    config.unlessMissing keys value = .error e ↔
      ∃ key, config.FirstMissing keys key ∧ e = .missingProperty key := by
  simp only [firstMissing_iff]
  unfold unlessMissing
  cases keys.find? fun key => !config.gives key with
  | none => simp
  | some key => simp [eq_comm]

/-- Where all required keys are given, the settings are as the configuration describes them. -/
theorem describes_ofConfig (h : ∀ key ∈ SettingKey.required, config.gives key = true) :
    config.Describes (.ofConfig config) where
  url := (config.gives_getD (h _ (by decide))).1
  username := (config.gives_getD (h _ (by decide))).1
  password := (config.gives_getD (h _ (by decide))).1
  driver := (config.gives_getD (h _ (by decide))).1
  maxConnections := (config.readsNumber_iff (by decide) _ _).mpr rfl
  minIdle := (config.readsNumber_iff (by decide) _ _).mpr rfl
  schemaUpdate := (config.readsFlag_iff _ _).mpr (SchemaUpdate.decide_ofBool _)
  jobExecutorActivate := (config.readsFlag_iff _ _).mpr rfl
  processDefinitionKey := ⟨_, (config.gives_getD (h _ (by decide))).1, rfl⟩
  processResource := ⟨_, (config.gives_getD (h _ (by decide))).1, rfl⟩
  restUrl := (config.readsAddress_iff _).mpr rfl
  restTimeoutSeconds := (config.readsNumber_iff (by decide) _ _).mpr rfl

variable {config}

/-- No two settings are described by the same configuration. -/
theorem Describes.eq_ofConfig {settings : EngineSettings} (h : config.Describes settings) :
    settings = .ofConfig config := by
  have hraw {key value : String} (hvalue : config.get? key = some value) :
      value = config.getD key "" := by
    rw [getD, hvalue, Option.getD_some]
  have htrimmed {key text : String} (htext : ∃ value, config.get? key = some value ∧
      text = trimmed value) : text = trimmed (config.getD key "") := by
    obtain ⟨value, hvalue, rfl⟩ := htext
    rw [← hraw hvalue]
  have hschema : settings.schemaUpdate = .ofBool (config.getFlag SettingKey.schemaUpdate true) := by
    rw [← (config.readsFlag_iff _ _).mp h.schemaUpdate, SchemaUpdate.ofBool_decide]
  -- each field is fixed by the policy of its key
  have hmost := (config.readsNumber_iff (by decide) _ _).mp h.maxConnections
  have hleast := (config.readsNumber_iff (by decide) _ _).mp h.minIdle
  have htimeout := (config.readsNumber_iff (by decide) _ _).mp h.restTimeoutSeconds
  obtain ⟨⟨url, username, password, driver, most, least⟩, schema, job, definition, resource, rest,
    timeout⟩ := settings
  simp only [EngineSettings.ofConfig, EngineSettings.mk.injEq, DataSource.mk.injEq]
  exact ⟨⟨hraw h.url, hraw h.username, hraw h.password, hraw h.driver, hmost, hleast⟩, hschema,
    (config.readsFlag_iff _ _).mp h.jobExecutorActivate, htrimmed h.processDefinitionKey,
    htrimmed h.processResource, (config.readsAddress_iff _).mp h.restUrl, htimeout⟩

/-- No number of the settings is beyond 32 bits, and the time limit is positive. -/
theorem Describes.bounds {settings : EngineSettings} (h : config.Describes settings) :
    settings.dataSource.maxConnections ≤ 2 ^ 31 - 1 ∧
      settings.dataSource.minIdle ≤ 2 ^ 31 - 1 ∧
      1 ≤ settings.restTimeoutSeconds ∧ settings.restTimeoutSeconds ≤ 2 ^ 31 - 1 := by
  have hmost := h.maxConnections.bounds (by decide) (by decide)
  have hleast := h.minIdle.bounds (by decide) (by decide)
  have htimeout := h.restTimeoutSeconds.bounds (by decide) (by decide)
  omega

end Config

namespace EngineSettings

open Config (FirstMissing)

/-- Settings are read exactly when all required keys are given, and then they are the ones that the
configuration describes. -/
theorem read_value_eq_ok_iff (config : Config) (settings : EngineSettings) :
    (read config).value = .ok settings ↔
      (∀ key ∈ SettingKey.required, config.gives key = true) ∧ config.Describes settings := by
  rw [read_value, Config.unlessMissing_eq_ok_iff]
  constructor
  · rintro ⟨h, rfl⟩
    exact ⟨h, config.describes_ofConfig h⟩
  · rintro ⟨h, hdescribes⟩
    exact ⟨h, hdescribes.eq_ofConfig.symm⟩

theorem read_value_of_gives {config : Config}
    (h : ∀ key ∈ SettingKey.required, config.gives key = true) :
    (read config).value = .ok (ofConfig config) :=
  (read_value_eq_ok_iff config _).mpr ⟨h, config.describes_ofConfig h⟩

/-- What is read depends on no other entry, and not on the name. -/
theorem read_congr {a b : Config} (h : ∀ key ∈ SettingKey.recognised, a.get? key = b.get? key) :
    read a = read b := by
  have hrequire {key : String} (hkey : key ∈ SettingKey.recognised) :
      a.require key = b.require key := by
    rw [Config.require, Config.require, h key hkey]
  have hbound {key : String} (hkey : key ∈ SettingKey.recognised) (default : Nat) :
      poolBound a key default = poolBound b key default := by
    rw [poolBound, poolBound, Config.getInteger, Config.getInteger, h key hkey]
  have htimeout : restTimeout a = restTimeout b := by
    rw [restTimeout, restTimeout, Config.getInteger, Config.getInteger, h _ (by decide)]
  have hflag {key : String} (hkey : key ∈ SettingKey.recognised) :
      a.getFlag key true = b.getFlag key true := by
    rw [Config.getFlag, Config.getFlag, h key hkey]
  have haddress : restAddress? a = restAddress? b := by
    rw [restAddress?, restAddress?, h _ (by decide)]
  -- with the same values at these keys every part of the reading is the same
  have hsource : requireDataSource a = requireDataSource b := by
    unfold requireDataSource
    rw [hrequire (by decide), hrequire (by decide), hrequire (by decide), hrequire (by decide)]
  unfold read
  rw [hsource, hbound (by decide), hbound (by decide), htimeout, hrequire (by decide),
    hrequire (by decide), hflag (by decide), hflag (by decide), haddress]

/-- A configuration gives settings exactly if every required key has a value that is not blank, and
else the first such key is reported.  Each setting is what the entry at its key says and within the
bounds of its kind; no other entry counts. -/
theorem read_follows_policy (config : Config) :
    ((∃ settings, (read config).value = .ok settings) ↔
        ∀ key ∈ SettingKey.required, config.gives key = true) ∧
      (∀ e, (read config).value = .error e ↔
        ∃ key, FirstMissing config SettingKey.required key ∧ e = .missingProperty key) ∧
      (∀ settings, (read config).value = .ok settings ↔
        (∀ key ∈ SettingKey.required, config.gives key = true) ∧ config.Describes settings) ∧
      (∀ settings, (read config).value = .ok settings →
        settings.processDefinitionKey ≠ "" ∧ settings.processResource ≠ "" ∧
          settings.dataSource.maxConnections ≤ 2 ^ 31 - 1 ∧
          settings.dataSource.minIdle ≤ 2 ^ 31 - 1 ∧
          1 ≤ settings.restTimeoutSeconds ∧ settings.restTimeoutSeconds ≤ 2 ^ 31 - 1) ∧
      ∀ other : Config, (∀ key ∈ SettingKey.recognised, other.get? key = config.get? key) →
        read other = read config := by
  refine ⟨?_, fun e => ?_, read_value_eq_ok_iff config, fun settings h => ?_,
    fun other h => read_congr h⟩
  -- there are settings when no required key is missing
  · constructor
    · rintro ⟨settings, h⟩
      exact ((read_value_eq_ok_iff config settings).mp h).1
    · intro h
      exact ⟨_, read_value_of_gives h⟩
  · rw [read_value, Config.unlessMissing_eq_error_iff]
  · obtain ⟨hgives, hdescribes⟩ := (read_value_eq_ok_iff config settings).mp h
    have htrimmed {key : String} (hkey : key ∈ SettingKey.required) :
        trimmed (config.getD key "") ≠ "" := by
      rw [ne_eq, trimmed_eq_empty_iff, (config.gives_getD (hgives key hkey)).2]
      decide
    have hbounds := hdescribes.bounds
    rw [hdescribes.eq_ofConfig] at hbounds ⊢
    exact ⟨htrimmed (by decide), htrimmed (by decide), hbounds⟩

def sampleEntries : List (String × String) :=
  [(SettingKey.jdbcUrl, "jdbc:postgresql://db "), (SettingKey.jdbcUsername, "u"),
    (SettingKey.jdbcPassword, " p"), (SettingKey.jdbcDriver, "d"),
    (SettingKey.processDefinitionKey, " k\t"), (SettingKey.processResource, "k.bpmn")]

def sampleWith (more : List (String × String)) : Config :=
  ⟨"inline", Table.ofList (sampleEntries ++ more)⟩

theorem get?_sampleWith (more : List (String × String)) (key : String) :
    (sampleWith more).get? key =
      (more.reverse.lookup key).or (sampleEntries.reverse.lookup key) := by
  simp only [sampleWith, Config.get?, Table.get?_ofList, List.reverse_append, List.lookup_append]

/-- Optional entries take none of the required ones away. -/
theorem gives_sampleWith {more : List (String × String)}
    (h : ∀ entry ∈ more, entry.1 ∉ SettingKey.required) :
    ∀ key ∈ SettingKey.required, (sampleWith more).gives key = true := by
  have hsample : ∀ key ∈ SettingKey.required,
      (sampleEntries.reverse.lookup key).any (fun value => !isBlankText value) = true := by
    decide +kernel
  intro key hkey
  have hmore : more.reverse.lookup key = none := by
    rw [List.lookup_eq_none_iff]
    intro entry hentry
    rw [bne_iff_ne]
    rintro rfl
    exact h entry (List.mem_reverse.mp hentry) hkey
  rw [Config.gives, get?_sampleWith, hmore, Option.none_or]
  exact hsample key hkey

theorem read_sampleWith {key : String} (value : String) (h : key ∉ SettingKey.required) :
    (read (sampleWith [(key, value)])).value = .ok (ofConfig (sampleWith [(key, value)])) :=
  read_value_of_gives (gives_sampleWith (by simpa using h))

def sampleOptions : List (String × String) :=
  [(SettingKey.poolMax, "+008"), (SettingKey.poolMin, "-1"), (SettingKey.schemaUpdate, " TRUE "),
    (SettingKey.jobExecutorActivate, "yes"), (SettingKey.restUrl, " / "),
    (SettingKey.restTimeoutSeconds, "0")]

theorem read_follows_policy_sample :
    ∃ settings, (read (sampleWith sampleOptions)).value = .ok settings ∧
      (sampleWith sampleOptions).Describes settings ∧
      settings.processDefinitionKey ≠ "" ∧ 1 ≤ settings.restTimeoutSeconds ∧
      read ⟨"other", (sampleWith sampleOptions).entries⟩ = read (sampleWith sampleOptions) := by
  obtain ⟨hok, -, hiff, hbounds, hcongr⟩ := read_follows_policy (sampleWith sampleOptions)
  obtain ⟨settings, hsettings⟩ := hok.mpr (gives_sampleWith (by decide +kernel))
  obtain ⟨hkey, -, -, -, htimeout, -⟩ := hbounds settings hsettings
  exact ⟨settings, hsettings, ((hiff settings).mp hsettings).2, hkey, htimeout,
    hcongr _ fun key _ => rfl⟩

end EngineSettings

end ProcessLaunch
