import ProcessLaunch.Proofs.Settings
import ProcessLaunch.Proofs.Table
import ProcessLaunch.Settings.Debug

/-!
# Secrets of a configuration

Two configurations may have the same keys and differ only in the values whose keys name a password.
Then they are reported alike, and read alike up to the password of the settings.
-/

namespace ProcessLaunch

namespace Config

/-! ## 1. Secrets -/

/-- A key has the word that marks secrets in it, in any case. -/
def NamesSecret (key : String) : Prop := "password".toList <:+: lowered key.toList

instance (key : String) : Decidable (NamesSecret key) := inferInstanceAs (Decidable (_ <:+: _))

/-- Two configurations differ at most in their secrets.  The password of the data source is blank in
both or in neither, since a blank one counts as missing. -/
structure SameButSecrets (a b : Config) : Prop where
  name : a.name = b.name
  keys : a.keys = b.keys
  get? : ∀ key, ¬NamesSecret key → a.get? key = b.get? key
  blank : ∀ v w, a.get? SettingKey.jdbcPassword = some v → b.get? SettingKey.jdbcPassword = some w →
    isBlankText v = isBlankText w

theorem occursIn_iff (word s : List Char) : occursIn word s = true ↔ word <:+: s := by
  induction s with
  | nil => rw [occursIn, List.isEmpty_iff, List.infix_nil]
  | cons c rest ih =>
    rw [occursIn, Bool.or_eq_true, ih, List.isPrefixOf_iff_prefix, List.infix_cons_iff]

theorem isSensitive_iff (key : String) : isSensitive key = true ↔ NamesSecret key :=
  occursIn_iff _ _

/-! ## 2. Reports -/

/-- Lists with the same keys are shown alike if each key is. -/
theorem map_eq_of_keys {α β : Type} {f : String × α → β} {l l' : List (String × α)}
    (hkeys : l.map Prod.fst = l'.map Prod.fst)
    (h : ∀ key v w, (key, v) ∈ l → (key, w) ∈ l' → f (key, v) = f (key, w)) :
    l.map f = l'.map f := by
  induction l generalizing l' with
  | nil =>
      rw [List.map_nil, eq_comm, List.map_eq_nil_iff] at hkeys
      rw [hkeys]
  | cons entry l ih =>
      obtain ⟨key, v⟩ := entry
      cases l' with
      | nil => cases hkeys
      | cons entry' l' =>
          obtain ⟨key', w⟩ := entry'
          -- lists with the same keys run side by side
          obtain ⟨rfl, hrest⟩ : key = key' ∧ l.map Prod.fst = l'.map Prod.fst := by
            simpa using hkeys
          have hhead := h key v w List.mem_cons_self List.mem_cons_self
          have htail := ih hrest fun key v w hv hw =>
            h key v w (List.mem_cons_of_mem _ hv) (List.mem_cons_of_mem _ hw)
          rw [List.map_cons, List.map_cons, hhead, htail]

variable {a b : Config}

/-- What is shown at a key is the same: its value if that is no secret, and the placeholder
otherwise. -/
theorem SameButSecrets.shown_eq (h : a.SameButSecrets b) {key v w : String}
    (hv : (key, v) ∈ a.entries.toList) (hw : (key, w) ∈ b.entries.toList) :
    shown key v = shown key w := by
  unfold shown
  split
  · rfl
  next hpublic =>
    have hsame := h.get? key fun hsecret => hpublic ((isSensitive_iff key).mpr hsecret)
    rw [Config.get?, Config.get?, (Table.get?_eq_some_iff _ _ _).mpr hv,
      (Table.get?_eq_some_iff _ _ _).mpr hw] at hsame
    exact Option.some.inj hsame

/-- Configurations that show the same differ only in their secrets. -/
theorem SameButSecrets.of_shown (hname : a.name = b.name)
    (hshown : a.entries.toList.map (fun entry => (entry.1, shown entry.1 entry.2)) =
      b.entries.toList.map fun entry => (entry.1, shown entry.1 entry.2))
    (hblank : (a.get? SettingKey.jdbcPassword).map isBlankText =
      (b.get? SettingKey.jdbcPassword).map isBlankText) : a.SameButSecrets b where
  name := hname
  keys := by
    have hkeys := congrArg (List.map Prod.fst) hshown
    rwa [List.map_map, List.map_map] at hkeys
  get? key hkey := by
    have hpublic : isSensitive key = false := by
      rw [Bool.eq_false_iff, ne_eq, isSensitive_iff]
      exact hkey
    -- such an entry is among those that are shown just as it is
    have hmem (l : List (String × String)) (v : String) :
        (key, v) ∈ l.map (fun entry => (entry.1, shown entry.1 entry.2)) ↔ (key, v) ∈ l := by
      rw [List.mem_map]
      constructor
      · rintro ⟨⟨k, w⟩, hw, heq⟩
        obtain ⟨rfl, rfl⟩ := Prod.mk.inj heq
        rwa [shown, if_neg (by simp [hpublic])]
      · intro hv
        exact ⟨(key, v), hv, by rw [shown, if_neg (by simp [hpublic])]⟩
    refine Option.ext fun v => ?_
    rw [Config.get?, Config.get?, Table.get?_eq_some_iff, Table.get?_eq_some_iff, ← hmem, hshown,
      hmem]
  blank v w hv hw := by
    rw [hv, hw] at hblank
    exact Option.some.inj hblank

/-- A dump tells nothing of the secrets. -/
theorem SameButSecrets.dump_eq (h : a.SameButSecrets b) : a.dump = b.dump := by
  have hlines := map_eq_of_keys (f := fun entry => s!"  {entry.1} = {shown entry.1 entry.2}") h.keys
    fun key v w hv hw => by rw [h.shown_eq hv hw]
  rw [dump, dump, dumpLines, dumpLines]
  exact congrArg (fun lines => "\n".intercalate ([ruler '=', "Loaded Configuration:", ruler '='] ++
    lines ++ [ruler '='])) hlines

/-! ## 3. Values -/

theorem contains_iff (config : Config) (key : String) :
    (config.get? key).isSome = true ↔ key ∈ config.keys := by
  rw [Option.isSome_iff_exists]
  constructor
  · rintro ⟨v, hv⟩
    exact List.mem_map.mpr ⟨_, (Table.get?_eq_some_iff _ _ _).mp hv, rfl⟩
  · intro hkey
    obtain ⟨⟨_, v⟩, hv, rfl⟩ := List.mem_map.mp hkey
    exact ⟨v, (Table.get?_eq_some_iff _ _ _).mpr hv⟩

/-- Of the required keys only the one of the password names a secret. -/
theorem not_namesSecret_of_required : ∀ {key}, key ∈ SettingKey.required →
    key ≠ SettingKey.jdbcPassword → ¬NamesSecret key := by
  decide +kernel

/-- The same required keys are given, the one of the password included. -/
theorem SameButSecrets.gives_eq (h : a.SameButSecrets b) {key : String}
    (hkey : key ∈ SettingKey.required) : a.gives key = b.gives key := by
  by_cases hpassword : key = SettingKey.jdbcPassword
  · subst hpassword
    have hsome :
        (a.get? SettingKey.jdbcPassword).isSome = (b.get? SettingKey.jdbcPassword).isSome := by
      rw [Bool.eq_iff_iff, contains_iff, contains_iff, h.keys]
    unfold gives
    cases ha : a.get? SettingKey.jdbcPassword with
    | none =>
        rw [ha, Option.isSome_none, eq_comm, Option.isSome_eq_false_iff, Option.isNone_iff_eq_none]
          at hsome
        rw [hsome]
    | some v =>
        rw [ha, Option.isSome_some, eq_comm, Option.isSome_iff_exists] at hsome
        obtain ⟨w, hw⟩ := hsome
        rw [hw, Option.any_some, Option.any_some, h.blank v w ha hw]
  · rw [gives, gives, h.get? key (not_namesSecret_of_required hkey hpassword)]

/-- The first missing key does not depend on more than which keys are given. -/
theorem unlessMissing_congr {α β : Type} (f : α → β) {keys : List String}
    (h : ∀ key ∈ keys, a.gives key = b.gives key) (value : α) :
    b.unlessMissing keys (f value) = (a.unlessMissing keys value).map f := by
  induction keys with
  | nil => rfl
  | cons key keys ih =>
      rw [unlessMissing_cons, unlessMissing_cons, ← h key List.mem_cons_self,
        ih fun key hkey => h key (List.mem_cons_of_mem _ hkey)]
      cases a.gives key <;> rfl

end Config

/-! ## 4. Settings -/

namespace EngineSettings

variable {a b : Config}

def withPassword (settings : EngineSettings) (password : String) : EngineSettings :=
  { settings with dataSource := { settings.dataSource with password } }

def optionalKeys : List String :=
  [SettingKey.schemaUpdate, SettingKey.jobExecutorActivate, SettingKey.poolMax, SettingKey.poolMin,
    SettingKey.restUrl, SettingKey.restTimeoutSeconds]

theorem not_namesSecret_of_optional : ∀ {key}, key ∈ optionalKeys → ¬Config.NamesSecret key := by
  decide +kernel

/-- The settings are the same up to the password. -/
theorem ofConfig_eq (h : a.SameButSecrets b) :
    ofConfig b = (ofConfig a).withPassword (b.getD SettingKey.jdbcPassword "") := by
  have hrequired {key : String} (hkey : key ∈ SettingKey.required)
      (hne : key ≠ SettingKey.jdbcPassword) : b.getD key "" = a.getD key "" := by
    rw [Config.getD, Config.getD, h.get? key (Config.not_namesSecret_of_required hkey hne)]
  -- no key that may be missing names a secret
  have hoptional {key : String} (hkey : key ∈ optionalKeys) : b.get? key = a.get? key :=
    (h.get? key (not_namesSecret_of_optional hkey)).symm
  have hinteger {key : String} (hkey : key ∈ optionalKeys) : b.integer? key = a.integer? key := by
    rw [Config.integer?, Config.integer?, hoptional hkey]
  have hflag {key : String} (hkey : key ∈ optionalKeys) (default : Bool) :
      b.getFlag key default = a.getFlag key default := by
    rw [Config.getFlag, Config.getFlag, hoptional hkey]
  simp only [ofConfig, withPassword, EngineSettings.mk.injEq, DataSource.mk.injEq, true_and]
  refine ⟨⟨?_, ?_, ?_, ?_, ?_⟩, ?_, ?_, ?_, ?_, ?_, ?_⟩
  · exact hrequired (by decide) (by decide)
  · exact hrequired (by decide) (by decide)
  · exact hrequired (by decide) (by decide)
  · rw [boundInEffect, boundInEffect, hinteger (by decide)]
  · rw [boundInEffect, boundInEffect, hinteger (by decide)]
  · rw [hflag (by decide)]
  · exact hflag (by decide) true
  · rw [hrequired (by decide) (by decide)]
  · rw [hrequired (by decide) (by decide)]
  · rw [restAddress?, restAddress?, hoptional (by decide)]
  · rw [timeoutInEffect, timeoutInEffect, hinteger (by decide)]

/-- Both are read to the same settings up to the password, or refused for the same key. -/
theorem read_value_eq (h : a.SameButSecrets b) :
    (read b).value =
      (read a).value.map fun settings =>
        settings.withPassword (b.getD SettingKey.jdbcPassword "") := by
  rw [read_value, read_value, ofConfig_eq h]
  exact Config.unlessMissing_congr
    (fun settings => settings.withPassword (b.getD SettingKey.jdbcPassword ""))
    (fun key hkey => h.gives_eq hkey) (ofConfig a)

/-- The integers are noted behind a complete data source. -/
theorem read_notes (config : Config) :
    (read config).notes =
      match requireDataSource config with
      | .error _ => []
      | .ok _ =>
          (poolBound config SettingKey.poolMax defaultPoolMax).notes ++
            (poolBound config SettingKey.poolMin defaultPoolMin).notes ++
              (restTimeout config).notes := by
  unfold read
  cases requireDataSource config with
  | error e => rfl
  | ok dataSource =>
      simp only [Noted.notes_bind, Noted.notes_pure, List.append_nil, List.append_assoc]

/-- No note says anything of a secret: integers are read from keys that name none. -/
theorem read_notes_eq (h : a.SameButSecrets b) : (read b).notes = (read a).notes := by
  have hinteger {key : String} (hkey : key ∈ optionalKeys) (default : Int) :
      b.getInteger key default = a.getInteger key default := by
    rw [Config.getInteger, Config.getInteger, h.get? key (not_namesSecret_of_optional hkey)]
  have hbound {key : String} (hkey : key ∈ optionalKeys) (default : Nat) :
      poolBound b key default = poolBound a key default := by
    rw [poolBound, poolBound, hinteger hkey]
  have htimeout : restTimeout b = restTimeout a := by
    rw [restTimeout, restTimeout, hinteger (by decide)]
  have hsource : requireDataSource b = (requireDataSource a).map fun _ =>
      { (ofConfig b).dataSource with
        maxConnections := defaultPoolMax, minIdle := defaultPoolMin } := by
    rw [requireDataSource_eq, requireDataSource_eq]
    refine Config.unlessMissing_congr (fun _ => _) (fun key hkey => h.gives_eq ?_) _
    exact List.mem_append_left [SettingKey.processDefinitionKey, SettingKey.processResource] hkey
  rw [read_notes, read_notes, hsource, hbound (by decide), hbound (by decide), htimeout]
  cases requireDataSource a <;> rfl

end EngineSettings

end ProcessLaunch
