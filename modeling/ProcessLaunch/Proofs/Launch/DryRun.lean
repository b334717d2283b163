import ProcessLaunch.CommandLine.Program
import ProcessLaunch.Proofs.Engine.Refusal
import ProcessLaunch.Proofs.Engine.RegistryLog
import ProcessLaunch.Proofs.Launch.Protocol
import ProcessLaunch.Proofs.Settings

/-!
# Dry runs

A dry run deploys in memory what it finds under the root of its configuration.  How it ends is
decided by the files alone: it succeeds if six conditions hold, and otherwise reports the first of
them that does not.
-/

namespace ProcessLaunch

def dryRun (disk : Disk) (source : ConfigSource) (printConfig : Bool) : Launch InMemory.Store where
  disk := disk
  source := source
  printConfig := printConfig
  builder := InMemory.builder disk source.root

namespace DryRun

variable (disk : Disk) (source : ConfigSource)

/-! ## 1. Conditions -/

def config : Config :=
  match disk.read source.path with
  | .ok bytes => .parse source.name (latin1 bytes)
  | .error _ => ⟨source.name, ∅⟩

def settings : EngineSettings := .ofConfig (config disk source)

def resourceText : Except FileError String :=
  disk.readText (Path.under source.root (settings disk source).processResource)

def Readable : Prop := ∃ bytes, disk.read source.path = .ok bytes

def Complete : Prop := ∀ key ∈ SettingKey.required,
  ∃ value, (config disk source).get? key = some value ∧ isBlankText value = false

def HasScheme : Prop :=
  InMemory.urlScheme.toList <+: (settings disk source).dataSource.url.toList

def HasPool : Prop :=
  (settings disk source).dataSource.minIdle ≤ (settings disk source).dataSource.maxConnections

/-- The process resource is a file that can be read, and is UTF-8. -/
def HasResource : Prop := ∃ text, resourceText disk source = .ok text

/-- The process resource can be scanned, and the configured process is executable in it. -/
def Defines : Prop := ∃ text keys,
  resourceText disk source = .ok text ∧ Bpmn.executableProcessIds text = .ok keys ∧
    (settings disk source).processDefinitionKey ∈ keys

/-- The configuration can be read and is complete, and an engine accepts its data source. -/
structure Accepted : Prop where
  readable : Readable disk source
  complete : Complete disk source
  scheme : HasScheme disk source
  pool : HasPool disk source

structure Ready : Prop extends Accepted disk source where
  resource : HasResource disk source
  defined : Defines disk source

/-- The failure that belongs to the first condition that does not hold. -/
inductive FirstFault : WorkflowError → Prop
  | missing (h : disk.read source.path = .error .notFound) :
      FirstFault (.configurationLoad (.notFound source.name source.path))
  | unreadable {cause : FileError} (h : disk.read source.path = .error cause)
      (hcause : cause ≠ .notFound) :
      FirstFault (.configurationLoad (.unreadable source.name cause))
  | incomplete {key : String} (hreadable : Readable disk source)
      (h : SettingKey.required.find? (fun key => !(config disk source).gives key) = some key) :
      FirstFault (.configuration (.missingProperty key))
  | scheme (hreadable : Readable disk source) (hcomplete : Complete disk source)
      (h : ¬HasScheme disk source) :
      FirstFault (.engineConstruction (.invalidConfiguration
        s!"expected a jdbc:postgresql: URL, got '{(settings disk source).dataSource.url}'"))
  | pool (hreadable : Readable disk source) (hcomplete : Complete disk source)
      (hscheme : HasScheme disk source) (h : ¬HasPool disk source) :
      FirstFault (.engineConstruction (.invalidConfiguration
        s!"pool minimum {(settings disk source).dataSource.minIdle} exceeds maximum {
          (settings disk source).dataSource.maxConnections}"))
  | resourceMissing (haccepted : Accepted disk source)
      (h : resourceText disk source = .error .notFound) :
      FirstFault (.deployment (.resourceNotFound (settings disk source).processResource))
  | resourceUnreadable {cause : FileError} (haccepted : Accepted disk source)
      (h : resourceText disk source = .error cause) (hcause : cause ≠ .notFound) :
      FirstFault (.deployment (.unreadable cause))
  | unscannable {text : String} {e : Markup.Error} (haccepted : Accepted disk source)
      (htext : resourceText disk source = .ok text)
      (h : Bpmn.executableProcessIds text = .error e) :
      FirstFault (.deployment (.invalidDefinition (settings disk source).processResource e.message))
  | noProcess {text : String} (haccepted : Accepted disk source)
      (htext : resourceText disk source = .ok text) (h : Bpmn.executableProcessIds text = .ok []) :
      FirstFault (.deployment (.invalidDefinition (settings disk source).processResource
        "no executable process found"))
  | undefined {text : String} {keys : List String} (haccepted : Accepted disk source)
      (htext : resourceText disk source = .ok text) (h : Bpmn.executableProcessIds text = .ok keys)
      (hkeys : keys ≠ []) (hkey : (settings disk source).processDefinitionKey ∉ keys) :
      FirstFault (.instanceStart (.processDefinitionNotFound
        (settings disk source).processDefinitionKey))

/-- Either all conditions hold or there is a first fault. -/
theorem ready_or_fault : Ready disk source ∨ ∃ e, FirstFault disk source e := by
  -- the conditions are looked at in their order, each behind those that hold
  cases hread : disk.read source.path with
  | error cause =>
      by_cases hcause : cause = .notFound
      · subst hcause
        exact .inr ⟨_, .missing hread⟩
      · exact .inr ⟨_, .unreadable hread hcause⟩
  | ok bytes =>
      have hreadable : Readable disk source := ⟨bytes, hread⟩
      cases hfind : SettingKey.required.find? fun key => !(config disk source).gives key with
      | some key => exact .inr ⟨_, .incomplete hreadable hfind⟩
      | none =>
          have hcomplete : Complete disk source := by
            intro key hkey
            rw [← Config.gives_iff]
            simpa using List.find?_eq_none.mp hfind key hkey
          by_cases hscheme : HasScheme disk source
          swap
          · exact .inr ⟨_, .scheme hreadable hcomplete hscheme⟩
          by_cases hpool : HasPool disk source
          swap
          · exact .inr ⟨_, .pool hreadable hcomplete hscheme hpool⟩
          have haccepted : Accepted disk source := ⟨hreadable, hcomplete, hscheme, hpool⟩
          cases htext : resourceText disk source with
          | error cause =>
              by_cases hcause : cause = .notFound
              · subst hcause
                exact .inr ⟨_, .resourceMissing haccepted htext⟩
              · exact .inr ⟨_, .resourceUnreadable haccepted htext hcause⟩
          | ok text =>
              cases hkeys : Bpmn.executableProcessIds text with
              | error e => exact .inr ⟨_, .unscannable haccepted htext hkeys⟩
              | ok keys =>
                  by_cases hempty : keys = []
                  · subst hempty
                    exact .inr ⟨_, .noProcess haccepted htext hkeys⟩
                  by_cases hkey : (settings disk source).processDefinitionKey ∈ keys
                  · exact .inl ⟨haccepted, ⟨text, htext⟩, ⟨text, keys, htext, hkeys, hkey⟩⟩
                  · exact .inr ⟨_, .undefined haccepted htext hkeys hempty hkey⟩

variable {disk source}

/-! ## 2. Settings and engine -/

theorem load_value {bytes : ByteArray} (h : disk.read source.path = .ok bytes) :
    (Config.load disk source).value = .ok (config disk source) := by
  unfold Config.load config
  rw [h]

theorem hasSettings {printConfig : Bool} (hreadable : Readable disk source)
    (hcomplete : Complete disk source) :
    (dryRun disk source printConfig).HasSettings (settings disk source) := by
  obtain ⟨bytes, hbytes⟩ := hreadable
  refine ⟨config disk source, load_value hbytes, ?_⟩
  rw [EngineSettings.read_value, Config.unlessMissing_eq_ok_iff]
  refine ⟨fun key hkey => ?_, rfl⟩
  rw [Config.gives_iff]
  exact hcomplete key hkey

/-- A data source with another scheme is refused before its pool is looked at. -/
theorem rejection?_of_scheme {dataSource : DataSource}
    (h : ¬InMemory.urlScheme.toList <+: dataSource.url.toList) :
    InMemory.rejection? dataSource =
      some (.invalidConfiguration s!"expected a jdbc:postgresql: URL, got '{dataSource.url}'") := by
  unfold InMemory.rejection?
  have hfalse : InMemory.urlScheme.toList.isPrefixOf dataSource.url.toList = false := by
    rw [← Bool.not_eq_true, List.isPrefixOf_iff_prefix]
    exact h
  rw [hfalse, if_pos (by decide)]
  rfl

theorem rejection?_of_pool {dataSource : DataSource}
    (hscheme : InMemory.urlScheme.toList <+: dataSource.url.toList)
    (h : ¬dataSource.minIdle ≤ dataSource.maxConnections) :
    InMemory.rejection? dataSource = some (.invalidConfiguration
      s!"pool minimum {dataSource.minIdle} exceeds maximum {dataSource.maxConnections}") := by
  unfold InMemory.rejection?
  rw [List.isPrefixOf_iff_prefix.mpr hscheme, if_neg (by decide), if_pos (by omega)]

theorem rejection?_of_accepted {dataSource : DataSource}
    (hscheme : InMemory.urlScheme.toList <+: dataSource.url.toList)
    (hpool : dataSource.minIdle ≤ dataSource.maxConnections) :
    InMemory.rejection? dataSource = none := by
  unfold InMemory.rejection?
  rw [List.isPrefixOf_iff_prefix.mpr hscheme, if_neg (by decide), if_neg (by omega)]

theorem build_of_rejection {e : EngineError}
    (h : InMemory.rejection? (settings disk source).dataSource = some e)
    (store : InMemory.Store) :
    InMemory.build disk source.root (settings disk source) store = .error e store := by
  unfold InMemory.build
  rw [h]

/-- Where all is accepted, a new engine is built. -/
theorem build_of_accepted (h : Accepted disk source) (store : InMemory.Store) :
    InMemory.build disk source.root (settings disk source) store =
      ⟨.ok (InMemory.engine disk (InMemory.create source.root store).1),
        [InMemory.builtRecord (settings disk source)], (InMemory.create source.root store).2⟩ := by
  unfold InMemory.build
  rw [rejection?_of_accepted h.scheme h.pool]

theorem builds {printConfig : Bool} (h : Accepted disk source) (store : InMemory.Store) :
    (dryRun disk source printConfig).Builds store (settings disk source)
      (InMemory.engine disk (InMemory.create source.root store).1) :=
  ⟨hasSettings h.readable h.complete, congrArg Reply.result (build_of_accepted h store)⟩

/-- What the engine of a dry run replies: it refuses a resource without keys, and otherwise starts
its keys and no others. -/
theorem replies (h : Accepted disk source) (printConfig : Bool) (store : InMemory.Store) :
    let launch := dryRun disk source printConfig
    let engine := InMemory.engine disk (InMemory.create source.root store).1
    let key := (settings disk source).processDefinitionKey
    match Registry.readKeys disk source.root (settings disk source).processResource with
    | .error e => (launch.deployReply store (settings disk source) engine).result = .error e
    | .ok keys =>
        (∃ deployment, launch.Deploys store (settings disk source) engine deployment) ∧
        (key ∈ keys → ∃ started,
          (launch.startReply store (settings disk source) engine).result = .ok started) ∧
        (key ∉ keys → (launch.startReply store (settings disk source) engine).result =
          .error (.processDefinitionNotFound key)) := by
  intro launch engine key
  have hdeploy : launch.deployReply store (settings disk source) engine =
      InMemory.deploy disk (InMemory.create source.root store).1
        (.ofResource (settings disk source).processResource)
        (InMemory.create source.root store).2 := by
    unfold Launch.deployReply
    rw [show launch.builder.build _ store = _ from build_of_accepted h store]
    rfl
  have hcreate := InMemory.deploy_create disk source.root
    (.ofResource (settings disk source).processResource) store
  rw [DeploymentRequest.resource_ofResource] at hcreate
  unfold Launch.Deploys Launch.startReply
  rw [hdeploy]
  generalize Registry.readKeys disk source.root (settings disk source).processResource = read
    at hcreate ⊢
  -- the new engine holds nothing, so what the resource defines is all that can be started
  cases read with
  | error e => exact hcreate
  | ok keys =>
      obtain ⟨⟨deployment, hdeployment⟩, hstart⟩ := hcreate
      exact ⟨⟨deployment, builds h store, hdeployment⟩, hstart key⟩

/-! ## 3. Results -/

/-- A file that is there and cannot be read is reported with its cause. -/
theorem load_of_ne {cause : FileError} (h : disk.read source.path = .error cause)
    (hcause : cause ≠ .notFound) :
    (Config.load disk source).value = .error (.unreadable source.name cause) := by
  unfold Config.load
  rw [h]
  cases cause with
  | notFound => exact absurd rfl hcause
  | _ => rfl

/-- A refused data source is where the run fails. -/
theorem firstFailure_of_rejection {printConfig : Bool} {e : EngineError}
    (hreadable : Readable disk source) (hcomplete : Complete disk source)
    (h : InMemory.rejection? (settings disk source).dataSource = some e)
    (store : InMemory.Store) :
    (dryRun disk source printConfig).FirstFailure store (.engineConstruction e) := by
  apply Launch.FirstFailure.build (hasSettings hreadable hcomplete)
  exact congrArg Reply.result (build_of_rejection h store)

theorem firstFailure_of_refusal {printConfig : Bool} {e : EngineError}
    (haccepted : Accepted disk source)
    (h : Registry.readKeys disk source.root (settings disk source).processResource = .error e)
    (store : InMemory.Store) :
    (dryRun disk source printConfig).FirstFailure store (.deployment e) := by
  apply Launch.FirstFailure.deploy (builds haccepted store)
  have hreplies := replies haccepted printConfig store
  rw [h] at hreplies
  exact hreplies

/-- Every fault is the first failure of the launch. -/
theorem FirstFault.firstFailure {printConfig : Bool} {e : WorkflowError}
    (h : FirstFault disk source e) (store : InMemory.Store) :
    (dryRun disk source printConfig).FirstFailure store e := by
  -- one case for each fault: the step that it belongs to is the first that fails
  cases h with
  | missing h =>
      apply Launch.FirstFailure.load
      show (Config.load disk source).value = _
      unfold Config.load
      rw [h]
  | unreadable h hcause => exact .load (load_of_ne h hcause)
  | @incomplete key hreadable h =>
      obtain ⟨bytes, hbytes⟩ := hreadable
      have hread : (EngineSettings.read (config disk source)).value =
          .error (.missingProperty key) := by
        rw [EngineSettings.read_value, Config.unlessMissing, h]
      exact .settings (load_value hbytes) hread
  | scheme hreadable hcomplete h =>
      exact firstFailure_of_rejection hreadable hcomplete (rejection?_of_scheme h) store
  | pool hreadable hcomplete hscheme h =>
      exact firstFailure_of_rejection hreadable hcomplete (rejection?_of_pool hscheme h) store
  | resourceMissing haccepted h =>
      exact firstFailure_of_refusal haccepted (Registry.readKeys_of_unread h) store
  | resourceUnreadable haccepted h hcause =>
      apply firstFailure_of_refusal haccepted
      rw [Registry.readKeys_of_unread h, EngineError.ofResource_of_ne hcause]
  | unscannable haccepted htext h =>
      exact firstFailure_of_refusal haccepted (Registry.readKeys_of_error htext h) store
  | noProcess haccepted htext h =>
      exact firstFailure_of_refusal haccepted (Registry.readKeys_of_nil htext h) store
  | undefined haccepted htext h hkeys hkey =>
      have hread := Registry.readKeys_of_ok htext h hkeys
      have hreplies := replies haccepted printConfig store
      rw [hread] at hreplies
      obtain ⟨⟨deployment, hdeploys⟩, -, hrefused⟩ := hreplies
      exact .start hdeploys (hrefused hkey)

/-- A launch for which all is ready comes to its end. -/
theorem Ready.completes {printConfig : Bool} (h : Ready disk source) (store : InMemory.Store) :
    ∃ settings engine deployment started,
      (dryRun disk source printConfig).Deploys store settings engine deployment ∧
      ((dryRun disk source printConfig).startReply store settings engine).result =
        .ok started := by
  obtain ⟨text, keys, htext, hkeys, hkey⟩ := h.defined
  have hread := Registry.readKeys_of_ok htext hkeys (List.ne_nil_of_mem hkey)
  have hreplies := replies h.toAccepted printConfig store
  rw [hread] at hreplies
  obtain ⟨⟨deployment, hdeploys⟩, hstarts, -⟩ := hreplies
  obtain ⟨started, hstarted⟩ := hstarts hkey
  exact ⟨_, _, deployment, started, hdeploys, hstarted⟩

/-- A dry run succeeds exactly if everything is ready, and otherwise fails with the first fault. -/
theorem run_result (disk : Disk) (source : ConfigSource) (printConfig : Bool)
    (before : Lifecycle) (store : InMemory.Store) :
    ((∃ report, ((dryRun disk source printConfig).run before store).result = .ok report) ↔
      Ready disk source) ∧
    (∀ e, ((dryRun disk source printConfig).run before store).result = .error e ↔
      FirstFault disk source e) := by
  have hprotocol := (dryRun disk source printConfig).protocol_run before store
  have hok (h : Ready disk source) :
      ∃ report, ((dryRun disk source printConfig).run before store).result = .ok report := by
    obtain ⟨settings, engine, deployment, started, hdeploys, hstarted⟩ := h.completes store
    exact ⟨⟨deployment, started⟩, (hprotocol.result_ok_iff _).mpr
      ⟨settings, engine, hdeploys, hstarted⟩⟩
  have herror {e : WorkflowError} (h : FirstFault disk source e) :
      ((dryRun disk source printConfig).run before store).result = .error e :=
    (hprotocol.result_error_iff e).mpr (h.firstFailure store)
  -- a run has one result, and one of the two always applies
  rcases ready_or_fault disk source with hready | ⟨e, hfault⟩
  · obtain ⟨report, hreport⟩ := hok hready
    refine ⟨⟨fun _ => hready, fun _ => ⟨report, hreport⟩⟩, fun e => ⟨fun h => ?_, herror⟩⟩
    exact nomatch hreport.symm.trans h
  · have hresult := herror hfault
    refine ⟨⟨fun ⟨report, h⟩ => ?_, hok⟩, fun e' => ⟨fun h => ?_, herror⟩⟩
    · exact nomatch hresult.symm.trans h
    · obtain rfl := Except.error.inj (hresult.symm.trans h)
      exact hfault

open CommandLine in
/-- The status of the program tells whether its launch has succeeded. -/
theorem runLaunch_status (options : Options) (filter : LogFilter) (disk : Disk) (ids : IdSupply) :
    (runLaunch options filter disk ids).status =
      match ((dryRun disk options.source options.printConfig).run .initial (.empty ids)).result with
      | .ok _ => 0
      | .error _ => 1 := by
  unfold runLaunch
  show ProgramResult.status (match ((dryRun disk options.source options.printConfig).run .initial
    (.empty ids)).result with | .ok _ => _ | .error _ => _) = _
  cases ((dryRun disk options.source options.printConfig).run .initial (.empty ids)).result with
  | ok report => rfl
  | error e => rfl

/-- A dry run succeeds if all six conditions hold, and otherwise fails with what belongs to the
first that does not.  The program ends with status 0 in the one case and with status 1 in the
other. -/
theorem result_and_status (disk : Disk) :
    (∀ source printConfig before store,
      ((∃ report, ((dryRun disk source printConfig).run before store).result = .ok report) ↔
        Ready disk source) ∧
      ∀ e, ((dryRun disk source printConfig).run before store).result = .error e ↔
        FirstFault disk source e) ∧
    ∀ options filter ids,
      ((CommandLine.runLaunch options filter disk ids).status = 0 ↔
        Ready disk options.source) ∧
      ((CommandLine.runLaunch options filter disk ids).status = 1 ↔
        ¬Ready disk options.source) := by
  refine ⟨run_result disk, fun options filter ids => ?_⟩
  have hresult := run_result disk options.source options.printConfig .initial (.empty ids)
  rw [runLaunch_status]
  generalize ((dryRun disk options.source options.printConfig).run .initial (.empty ids)).result =
    result at hresult ⊢
  rw [← hresult.1]
  cases result with
  | ok report => simp
  | error e => simp

end DryRun

end ProcessLaunch
