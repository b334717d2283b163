import ProcessLaunch.Proofs.Settings.Warning

/-!
# Reading settings again

Settings can be written back as the texts of their values and read again.  All of them come out as
they were, without a warning, but for the address of a remote engine: the slashes behind it may hide
a blank, which is at its end once they are gone, and goes away at the next reading.
-/

namespace ProcessLaunch

open Text (trim Trimmed isBlank)

namespace EngineSettings

/-- The texts of the settings at their keys.  Without an address there is no text of it. -/
def texts (settings : EngineSettings) : List (String × String) :=
  [(SettingKey.jdbcUrl, settings.dataSource.url),
    (SettingKey.jdbcUsername, settings.dataSource.username),
    (SettingKey.jdbcPassword, settings.dataSource.password),
    (SettingKey.jdbcDriver, settings.dataSource.driver),
    (SettingKey.schemaUpdate, settings.schemaUpdate.text),
    (SettingKey.jobExecutorActivate, if settings.jobExecutorActivate then "true" else "false"),
    (SettingKey.processDefinitionKey, settings.processDefinitionKey),
    (SettingKey.processResource, settings.processResource),
    (SettingKey.poolMax, toString settings.dataSource.maxConnections),
    (SettingKey.poolMin, toString settings.dataSource.minIdle),
    (SettingKey.restTimeoutSeconds, toString settings.restTimeoutSeconds)] ++
  settings.restUrl.toList.map fun address => (SettingKey.restUrl, address)

/-- A configuration holds at each key that has a meaning the text of the setting there. -/
def HeldBy (settings : EngineSettings) (held : Config) : Prop :=
  ∀ key ∈ SettingKey.recognised, held.get? key = settings.texts.lookup key

def written (name : String) (settings : EngineSettings) : Config :=
  ⟨name, Table.ofList settings.texts.reverse⟩

theorem heldBy_written (name : String) (settings : EngineSettings) :
    settings.HeldBy (settings.written name) := by
  intro key _
  show (Table.ofList settings.texts.reverse).get? key = _
  rw [Table.get?_ofList, List.reverse_reverse]

end EngineSettings

/-- A blank stands right before the slashes behind an address. -/
def Config.HidesBlank (config : Config) : Prop :=
  ∃ value left c n, config.get? SettingKey.restUrl = some value ∧ isBlank c = true ∧
    trim value.toList = left ++ c :: List.replicate (n + 1) '/'

/-! ## 1. Addresses -/

namespace Config

variable {config held : Config}

/-- An address without a slash at its end is read as itself exactly if no blank stands at either
end. -/
theorem readsAddress_self_iff {address : String}
    (h : held.get? SettingKey.restUrl = some address) (hne : address ≠ "")
    (hlast : address.toList.getLast? ≠ some '/') :
    held.ReadsAddress SettingKey.restUrl (some address) ↔ Trimmed address.toList := by
  constructor
  · intro hreads
    cases hreads with
    | @address value _ n hvalue hleft =>
        rw [h, Option.some.injEq] at hvalue
        subst hvalue
        -- trimming makes no text longer, so that there was nothing to be taken away
        obtain ⟨htrimmed, before, after, -, -, hall⟩ := (Text.trim_eq_iff _ _).mp hleft
        have hlength := congrArg List.length hall
        simp only [List.length_append, List.length_replicate] at hlength
        have hzero : n = 0 := by omega
        rw [hzero, List.replicate_zero, List.append_nil] at htrimmed
        exact htrimmed
  · intro htrimmed
    refine .address (n := 0) h ?_ hne hlast
    rw [htrimmed.trim_eq, List.replicate_zero, List.append_nil]

/-- Where no address is left there was no blank to hide. -/
theorem not_hidesBlank_of_none (h : config.ReadsAddress SettingKey.restUrl none) :
    ¬config.HidesBlank := by
  rintro ⟨value, left, c, n, hvalue, hblank, hleft⟩
  cases h with
  | absent h =>
      rw [h] at hvalue
      cases hvalue
  | nothing h hslashes =>
      rw [h, Option.some.injEq] at hvalue
      subst hvalue
      have hmem : c ∈ left ++ c :: List.replicate (n + 1) '/' := by simp
      rw [← hleft, hslashes] at hmem
      rw [List.eq_of_mem_replicate hmem] at hblank
      exact absurd hblank (by decide)

/-- A blank is hidden exactly if what was read has it at its end. -/
theorem not_hidesBlank_iff_trimmed {address : String}
    (h : config.ReadsAddress SettingKey.restUrl (some address)) :
    ¬config.HidesBlank ↔ Trimmed address.toList := by
  cases h with
  | @address value _ n hvalue hleft hne hlast =>
      have htrim := Text.trimmed_trim value.toList
      rw [hleft] at htrim
      constructor
      · intro hnot
        refine ⟨fun c hc => htrim.head c (by simp [List.head?_append, Option.mem_def.mp hc]),
          fun c hc => Bool.eq_false_iff.mpr fun hblank => ?_⟩
        obtain ⟨left, hconcat⟩ := List.getLast?_eq_some_iff.mp hc
        cases n with
        | zero =>
            -- no slash was taken away, and trimming left no blank at the end
            rw [List.replicate_zero, List.append_nil] at htrim
            rw [htrim.last c hc] at hblank
            cases hblank
        | succ n =>
            refine hnot ⟨value, left, c, n, hvalue, hblank, ?_⟩
            rw [hleft, hconcat, List.append_assoc, List.singleton_append]
      · rintro htrimmed ⟨value', left, c, m, hvalue', hblank, hleft'⟩
        rw [hvalue, Option.some.injEq] at hvalue'
        subst hvalue'
        have hc : c ≠ '/' := by
          rintro rfl
          exact absurd hblank (by decide)
        -- what is left without the slashes is told by the value, and so is its last character
        have haddress := (stripped_eq_iff _ address.toList).mpr ⟨hlast, n, hleft⟩
        have hconcat := (stripped_eq_iff (trim value.toList) (left ++ [c])).mpr
          ⟨by simpa using hc, m + 1, by rw [hleft', List.append_assoc, List.singleton_append]⟩
        rw [haddress] at hconcat
        rw [htrimmed.last c (by simp [hconcat])] at hblank
        cases hblank

/-- An address comes out of a second reading as it was exactly if no blank was hidden. -/
theorem readsAddress_again_iff {address : Option String}
    (h : config.ReadsAddress SettingKey.restUrl address)
    (hheld : held.get? SettingKey.restUrl = address) :
    held.ReadsAddress SettingKey.restUrl address ↔ ¬config.HidesBlank := by
  cases address with
  | none => exact iff_of_true (.absent hheld) (not_hidesBlank_of_none h)
  | some address =>
      rw [not_hidesBlank_iff_trimmed h]
      cases h with
      | address _ _ hne hlast => exact readsAddress_self_iff hheld hne hlast

/-! ## 2. Other values -/

theorem gives_of_get? {key text : String} (h : held.get? key = some text)
    (hblank : isBlankText text = false) : held.gives key = true :=
  (held.gives_iff key).mpr ⟨text, h, hblank⟩

theorem hasInteger_toString {key : String} {number : Nat} (hmost : number ≤ 2147483647)
    (h : held.get? key = some (toString number)) : held.HasInteger key number := by
  have hnone : Text.Blanks [] := by simp [Text.Blanks]
  have hfits : Text.Fits32 number := by
    unfold Text.Fits32
    omega
  refine hasInteger_of_decimal hfits hnone hnone ?_
  rw [h, List.nil_append, List.append_nil, String.ofList_toList]
  rfl

theorem readsFlag_of_text {key : String} {flag : Bool}
    (h : held.get? key = some (if flag then "true" else "false")) : held.ReadsFlag key flag := by
  rw [readsFlag_iff, getFlag, h]
  cases flag <;> decide +kernel

end Config

theorem isBlankText_trimmed {s : String} (h : isBlankText s = false) :
    isBlankText (trimmed s) = false := by
  rw [Bool.eq_false_iff, ne_eq, ← trimmed_eq_empty_iff, trimmed_trimmed, trimmed_eq_empty_iff, h]
  decide

/-! ## 3. Reading again -/

namespace EngineSettings

variable {config held : Config} {settings : EngineSettings}

theorem HeldBy.get?_restUrl (hheld : settings.HeldBy held) :
    held.get? SettingKey.restUrl = settings.restUrl := by
  rw [hheld SettingKey.restUrl (by decide), texts]
  cases settings.restUrl <;> rfl

/-- No required value is blank after a reading, so all of them are given again. -/
theorem HeldBy.gives (hheld : settings.HeldBy held) (h : (read config).value = .ok settings) :
    ∀ key ∈ SettingKey.required, held.gives key = true := by
  obtain ⟨hgives, hdescribes⟩ := (read_value_eq_ok_iff config settings).mp h
  obtain rfl := hdescribes.eq_ofConfig
  have hblank {key : String} (hkey : key ∈ SettingKey.required) :
      isBlankText (config.getD key "") = false := (config.gives_getD (hgives key hkey)).2
  simp only [SettingKey.required, List.forall_mem_cons, List.not_mem_nil, false_implies,
    implies_true, and_true]
  refine ⟨?_, ?_, ?_, ?_, ?_, ?_⟩
  · exact Config.gives_of_get? (hheld SettingKey.jdbcUrl (by decide)) (hblank (by decide))
  · exact Config.gives_of_get? (hheld SettingKey.jdbcUsername (by decide)) (hblank (by decide))
  · exact Config.gives_of_get? (hheld SettingKey.jdbcPassword (by decide)) (hblank (by decide))
  · exact Config.gives_of_get? (hheld SettingKey.jdbcDriver (by decide)) (hblank (by decide))
  -- these two are written back without the blanks around them
  · exact Config.gives_of_get? (hheld SettingKey.processDefinitionKey (by decide))
      (isBlankText_trimmed (hblank (by decide)))
  · exact Config.gives_of_get? (hheld SettingKey.processResource (by decide))
      (isBlankText_trimmed (hblank (by decide)))

/-- The numbers are within 32 bits, and are read back. -/
theorem HeldBy.integers (hheld : settings.HeldBy held) (h : config.Describes settings) :
    held.HasInteger SettingKey.poolMax settings.dataSource.maxConnections ∧
      held.HasInteger SettingKey.poolMin settings.dataSource.minIdle ∧
      held.HasInteger SettingKey.restTimeoutSeconds settings.restTimeoutSeconds := by
  obtain ⟨hmost, hleast, -, htimeout⟩ := h.bounds
  exact ⟨Config.hasInteger_toString hmost (hheld SettingKey.poolMax (by decide)),
    Config.hasInteger_toString hleast (hheld SettingKey.poolMin (by decide)),
    Config.hasInteger_toString htimeout (hheld SettingKey.restTimeoutSeconds (by decide))⟩

/-- All but the address is described as it was. -/
theorem HeldBy.describes (hheld : settings.HeldBy held) (h : config.Describes settings) :
    held.Describes { settings with restUrl := restAddress? held } where
  url := hheld SettingKey.jdbcUrl (by decide)
  username := hheld SettingKey.jdbcUsername (by decide)
  password := hheld SettingKey.jdbcPassword (by decide)
  driver := hheld SettingKey.jdbcDriver (by decide)
  maxConnections := .inl ⟨_, (hheld.integers h).1, by omega, rfl⟩
  minIdle := .inl ⟨_, (hheld.integers h).2.1, by omega, rfl⟩
  schemaUpdate := by
    refine Config.readsFlag_of_text ?_
    rw [hheld SettingKey.schemaUpdate (by decide)]
    show some settings.schemaUpdate.text = _
    cases settings.schemaUpdate <;> rfl
  jobExecutorActivate :=
    Config.readsFlag_of_text (hheld SettingKey.jobExecutorActivate (by decide))
  processDefinitionKey := by
    -- a trimmed value is trimmed to itself
    obtain ⟨value, -, hvalue⟩ := h.processDefinitionKey
    refine ⟨_, hheld SettingKey.processDefinitionKey (by decide), ?_⟩
    show settings.processDefinitionKey = trimmed settings.processDefinitionKey
    rw [hvalue, trimmed_trimmed]
  processResource := by
    obtain ⟨value, -, hvalue⟩ := h.processResource
    refine ⟨_, hheld SettingKey.processResource (by decide), ?_⟩
    show settings.processResource = trimmed settings.processResource
    rw [hvalue, trimmed_trimmed]
  restUrl := (held.readsAddress_iff _).mpr rfl
  restTimeoutSeconds := by
    have hpositive := h.bounds.2.2.1
    exact .inl ⟨_, (hheld.integers h).2.2, by omega, rfl⟩

/-- A second reading gives the settings back, up to the address, and notes nothing. -/
theorem HeldBy.read_eq (hheld : settings.HeldBy held) (h : (read config).value = .ok settings) :
    read held = ⟨.ok { settings with restUrl := restAddress? held }, []⟩ := by
  have hdescribes := ((read_value_eq_ok_iff config settings).mp h).2
  have hvalue := (read_value_eq_ok_iff held _).mpr ⟨hheld.gives h, hheld.describes hdescribes⟩
  obtain ⟨hmost, hleast, htimeout⟩ := hheld.integers hdescribes
  have hpositive := hdescribes.bounds.2.2.1
  -- each of the three numbers is one that its setting accepts
  have hnotes : (read held).notes = [] := by
    rw [notes_of_read hvalue, poolBound_of_accepted _ hmost (by omega),
      poolBound_of_accepted _ hleast (by omega), restTimeout_of_accepted htimeout (by omega)]
    rfl
  show (⟨(read held).value, (read held).notes⟩ : Noted _ _) = _
  rw [hvalue, hnotes]

/-- Settings that are written back are read again without a warning, as they were but for the
address.  It is as it was too unless a blank stands right before the slashes behind it. -/
theorem reread_iff (config held : Config) (settings : EngineSettings)
    (h : (read config).value = .ok settings) (hheld : settings.HeldBy held) :
    (∃ address, held.ReadsAddress SettingKey.restUrl address ∧
      read held = ⟨.ok { settings with restUrl := address }, []⟩) ∧
    (read held = ⟨.ok settings, []⟩ ↔ ¬config.HidesBlank) := by
  have hread := hheld.read_eq h
  have hdescribes := ((read_value_eq_ok_iff config settings).mp h).2
  refine ⟨⟨_, (held.readsAddress_iff _).mpr rfl, hread⟩, ?_⟩
  rw [← Config.readsAddress_again_iff hdescribes.restUrl hheld.get?_restUrl,
    Config.readsAddress_iff, hread]
  constructor
  · intro hsame
    rw [Noted.mk.injEq, Except.ok.injEq] at hsame
    exact (congrArg restUrl hsame.1).symm
  · intro haddress
    rw [← haddress]

def sampleAddress (text : String) : Config := sampleWith [(SettingKey.restUrl, text)]

theorem reread_iff_slashes :
    ∃ settings, (read (sampleAddress " http://h// ")).value = .ok settings ∧
      settings.restUrl = some "http://h" ∧
      read (settings.written "again") = ⟨.ok settings, []⟩ := by
  have hread : (read (sampleAddress " http://h// ")).value =
      .ok (ofConfig (sampleAddress " http://h// ")) := read_sampleWith _ (by decide)
  have haddress : some "http://h" = restAddress? (sampleAddress " http://h// ") := by decide +kernel
  have htrim : trim "http://h".toList = "http://h".toList := by decide +kernel
  have hnot : ¬(sampleAddress " http://h// ").HidesBlank :=
    (Config.not_hidesBlank_iff_trimmed ((Config.readsAddress_iff _ _).mpr haddress)).mpr
      ((Text.trim_eq_iff _ _).mp htrim).1
  exact ⟨_, hread, haddress.symm,
    (reread_iff _ _ _ hread (heldBy_written "again" _)).2.mpr hnot⟩

/-- A blank in front of the slashes is left over by the first reading, and not by the second. -/
theorem address_loses_blank :
    ∃ settings again, (read (sampleAddress "http://h /")).value = .ok settings ∧
      settings.restUrl = some "http://h " ∧ settings.HeldBy (settings.written "again") ∧
      (read (settings.written "again")).value = .ok again ∧
      again.restUrl = some "http://h" ∧ again ≠ settings := by
  have hread : (read (sampleAddress "http://h /")).value =
      .ok (ofConfig (sampleAddress "http://h /")) := read_sampleWith _ (by decide)
  have haddress : restAddress? (sampleAddress "http://h /") = some "http://h " := by
    decide +kernel
  have hheld := heldBy_written "again" (ofConfig (sampleAddress "http://h /"))
  have hagain : restAddress? ((ofConfig (sampleAddress "http://h /")).written "again") =
      some "http://h" := by
    decide +kernel
  refine ⟨_, _, hread, haddress, hheld, congrArg Noted.value (hheld.read_eq hread), hagain,
    fun hsame => ?_⟩
  -- the two settings would have the same address
  have hurl : restAddress? ((ofConfig (sampleAddress "http://h /")).written "again") =
      restAddress? (sampleAddress "http://h /") := congrArg restUrl hsame
  rw [hagain, haddress] at hurl
  revert hurl
  decide

end EngineSettings

end ProcessLaunch
