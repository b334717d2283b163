import ProcessLaunch.Settings

/-!
# The settings of a configuration

Which configurations give settings, and which settings they give.
-/

namespace ProcessLaunch

namespace Config

variable (config : Config)

/-- Whether a key is present with a value that is not blank. -/
def gives (key : String) : Bool := (config.get? key).any fun value => !isBlankText value

/-- The integer of 32 bits that is written at a key, with or without blanks around it. -/
def integer? (key : String) : Option Int :=
  (config.get? key).bind fun value => Text.integer32? (Text.trim value.toList)

/-! ## 1. Single entries -/

theorem gives_iff (key : String) :
    config.gives key = true ↔
      ∃ value, config.get? key = some value ∧ isBlankText value = false := by
  unfold gives
  cases config.get? key with
  | none => simp
  | some value => simp

theorem require_eq (key : String) :
    config.require key =
      if config.gives key then .ok (config.getD key "") else .error (.missingProperty key) := by
  unfold require gives getD
  cases config.get? key with
  | none => rfl
  | some value => cases hblank : isBlankText value <;> simp [hblank]

theorem require_bind {α : Type} (key : String) (next : String → Except ConfigError α) :
    (config.require key >>= next) =
      if config.gives key then next (config.getD key "") else .error (.missingProperty key) := by
  rw [require_eq]
  split
  · rfl
  · rfl

/-- A value, unless one of some keys is not given: then the first of them is reported. -/
def unlessMissing {α : Type} (keys : List String) (value : α) : Except ConfigError α :=
  match keys.find? fun key => !config.gives key with
  | some key => .error (.missingProperty key)
  | none => .ok value

@[simp] theorem unlessMissing_nil {α : Type} (value : α) :
    config.unlessMissing [] value = .ok value := rfl

theorem unlessMissing_cons {α : Type} (key : String) (keys : List String) (value : α) :
    config.unlessMissing (key :: keys) value =
      if config.gives key then config.unlessMissing keys value
      else .error (.missingProperty key) := by
  unfold unlessMissing
  rw [List.find?_cons]
  cases config.gives key with
  | true => rfl
  | false => rfl

theorem unlessMissing_eq_ok_iff {α : Type} (keys : List String) (value other : α) :
    config.unlessMissing keys value = .ok other ↔
      (∀ key ∈ keys, config.gives key = true) ∧ value = other := by
  induction keys with
  | nil => simp
  | cons key keys ih =>
      rw [unlessMissing_cons, List.forall_mem_cons]
      cases hgives : config.gives key with
      | true => simpa using ih
      | false => simp

/-- Keys are looked for in their order, whichever way they are split into two lists. -/
theorem unlessMissing_append {α β : Type} (first rest : List String) (value : α) (other : β) :
    config.unlessMissing (first ++ rest) value =
      config.unlessMissing first other >>= fun _ => config.unlessMissing rest value := by
  induction first with
  | nil => rfl
  | cons key first ih =>
      rw [List.cons_append, unlessMissing_cons, unlessMissing_cons, ih]
      cases config.gives key with
      | true => rfl
      | false => rfl

/-- The value that is read does not depend on what is noted about it. -/
theorem getInteger_value (key : String) (default : Int) :
    (config.getInteger key default).value = (config.integer? key).getD default := by
  unfold getInteger integer?
  cases config.get? key with
  | none => rfl
  | some value =>
      cases h : Text.integer32? (Text.trim value.toList) with
      | none => simp [h]
      | some n => simp [h]

end Config

def SettingKey.required : List String :=
  [jdbcUrl, jdbcUsername, jdbcPassword, jdbcDriver, processDefinitionKey, processResource]

namespace EngineSettings

variable (config : Config)

/-! ## 2. All settings -/

/-- The bound of the connection pool that is in effect: an integer that is not negative, or the
default. -/
def boundInEffect (key : String) (default : Nat) : Nat :=
  match config.integer? key with
  | some n => if 0 ≤ n then n.toNat else default
  | none => default

/-- The time limit that is in effect: a positive integer, or the default. -/
def timeoutInEffect : Nat :=
  match config.integer? SettingKey.restTimeoutSeconds with
  | some n => if 0 < n then n.toNat else defaultRestTimeoutSeconds
  | none => defaultRestTimeoutSeconds

/-- The settings that a configuration gives, with nothing in place of required values that are
missing. -/
def ofConfig : EngineSettings where
  dataSource := {
    url := config.getD SettingKey.jdbcUrl ""
    username := config.getD SettingKey.jdbcUsername ""
    password := config.getD SettingKey.jdbcPassword ""
    driver := config.getD SettingKey.jdbcDriver ""
    maxConnections := boundInEffect config SettingKey.poolMax defaultPoolMax
    minIdle := boundInEffect config SettingKey.poolMin defaultPoolMin }
  schemaUpdate := .ofBool (config.getFlag SettingKey.schemaUpdate true)
  jobExecutorActivate := config.getFlag SettingKey.jobExecutorActivate true
  processDefinitionKey := trimmed (config.getD SettingKey.processDefinitionKey "")
  processResource := trimmed (config.getD SettingKey.processResource "")
  restUrl := restAddress? config
  restTimeoutSeconds := timeoutInEffect config

/-- A bound that is read from the configuration is the one in effect. -/
theorem poolBound_value (key : String) (default : Nat) :
    (poolBound config key default).value = boundInEffect config key default := by
  rw [poolBound, Noted.value_bind, Config.getInteger_value, boundInEffect]
  -- the default is no negative number, so only a written one can be refused
  cases config.integer? key with
  | none =>
      show (if (default : Int) < 0 then _ else _ : Noted ConfigEvent Nat).value = default
      rw [if_neg (by omega)]
      rfl
  | some n =>
      show (if n < 0 then _ else _ : Noted ConfigEvent Nat).value = if 0 ≤ n then _ else _
      by_cases hn : 0 ≤ n
      · rw [if_neg (by omega), if_pos hn]
        rfl
      · rw [if_pos (by omega), if_neg hn]

theorem restTimeout_value : (restTimeout config).value = timeoutInEffect config := by
  rw [restTimeout, Noted.value_bind, Config.getInteger_value, timeoutInEffect]
  cases config.integer? SettingKey.restTimeoutSeconds with
  | none => rfl
  | some n => rfl

/-- The data source with the default bounds of its pool, unless one of its keys is not given. -/
theorem requireDataSource_eq :
    requireDataSource config =
      config.unlessMissing
        [SettingKey.jdbcUrl, SettingKey.jdbcUsername, SettingKey.jdbcPassword,
          SettingKey.jdbcDriver]
        { (ofConfig config).dataSource with
          maxConnections := defaultPoolMax, minIdle := defaultPoolMin } := by
  unfold requireDataSource
  simp only [Config.require_bind, Config.unlessMissing_cons, Config.unlessMissing_nil]
  rfl

/-- Reading gives the settings of a configuration that gives every required key, and otherwise
reports the first key that it does not give. -/
theorem read_value :
    (read config).value = config.unlessMissing SettingKey.required (ofConfig config) := by
  unfold read
  -- the keys of the data source come first, and the integers are read between the two groups
  show _ = config.unlessMissing ([_, _, _, _] ++ [_, _]) _
  rw [requireDataSource_eq, Config.unlessMissing_append _ _ _ _ { (ofConfig config).dataSource with
    maxConnections := defaultPoolMax, minIdle := defaultPoolMin }]
  generalize hsource : config.unlessMissing _ _ = source
  cases source with
  | error e => rfl
  | ok dataSource =>
      obtain ⟨-, rfl⟩ := (config.unlessMissing_eq_ok_iff _ _ _).mp hsource
      simp only [Noted.value_bind, poolBound_value, restTimeout_value, Noted.value_pure,
        Config.require_bind]
      show _ = config.unlessMissing [_, _] _
      rw [Config.unlessMissing_cons, Config.unlessMissing_cons, Config.unlessMissing_nil]
      rfl

end EngineSettings

end ProcessLaunch
