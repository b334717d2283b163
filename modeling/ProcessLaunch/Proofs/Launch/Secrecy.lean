import ProcessLaunch.Engine.InMemory
import ProcessLaunch.Engine.Rest
import ProcessLaunch.Proofs.Config.Secrets
import ProcessLaunch.Proofs.File
import ProcessLaunch.Proofs.Launch.Course
import ProcessLaunch.Proofs.Launch.Trace

/-!
# Launches and passwords

A launch from one properties file and from another that differs only in its secrets cannot be told
apart by what is said, logged, asked of the engine and brought back.
-/

namespace ProcessLaunch

/-! ## 1. What can be observed -/

/-- What a run shows of itself: how it ended, the states that it went through, what it left behind
in its engine, what it said and logged, and what it asked for. -/
structure Observation (σ : Type) where
  result : Except WorkflowError LaunchReport
  lifecycle : Lifecycle
  engineState : σ
  lines : List String
  log : List LogRecord
  calls : List EngineCall

namespace Launch.Outcome

def observed {σ : Type} (outcome : Outcome σ) : Observation σ where
  result := outcome.result
  lifecycle := outcome.lifecycle
  engineState := outcome.engineState
  lines := outcome.trace.lines
  log := outcome.trace.log
  calls := outcome.trace.calls

end Launch.Outcome

def Launch.observations {σ : Type} (launch : Launch σ) (lifecycle : Lifecycle) (state : σ)
    (n : Nat) : List (Observation σ) :=
  (launch.runs lifecycle state n).map Launch.Outcome.observed

def InMemory.launch (tree : FileTree) (source : ConfigSource) (root : String) (printConfig : Bool) :
    Launch Store :=
  ⟨tree.disk, source, printConfig, builder tree.disk root⟩

def Rest.launch (tree : FileTree) (source : ConfigSource) (root : String) (printConfig : Bool) :
    Launch Http.Network :=
  ⟨tree.disk, source, printConfig, builder tree.disk root⟩

namespace TraceItem

def blinded : TraceItem → TraceItem
  | .said (.engineCreated engine settings) =>
      .said (.engineCreated engine (settings.withPassword ""))
  | item => item

end TraceItem

namespace Trace

def blinded (trace : Trace) : Trace := trace.map TraceItem.blinded

theorem blinded_append (t u : Trace) : blinded (t ++ u) = blinded t ++ blinded u :=
  List.map_append

theorem blinded_cons (item : TraceItem) (t : Trace) :
    blinded (item :: t) = item.blinded :: blinded t := rfl

/-- Nothing that is said, logged or asked for depends on a password. -/
theorem observe_blinded (t : Trace) :
    lines (blinded t) = lines t ∧ log (blinded t) = log t ∧ calls (blinded t) = calls t := by
  induction t with
  | nil => exact ⟨rfl, rfl, rfl⟩
  | cons item t ih =>
      obtain ⟨hlines, hlog, hcalls⟩ := ih
      have hitem : lines [item.blinded] = lines [item] ∧ log [item.blinded] = log [item] ∧
          calls [item.blinded] = calls [item] := by
        cases item with
        -- of a new engine the password is no part of what is said
        | said notice => cases notice <;> exact ⟨rfl, rfl, rfl⟩
        | _ => exact ⟨rfl, rfl, rfl⟩
      have hcons (item : TraceItem) (t : Trace) : item :: t = [item] ++ t := rfl
      rw [blinded_cons, hcons item.blinded, hcons item t, lines_append, lines_append, log_append,
        log_append, calls_append, calls_append, hlines, hlog, hcalls, hitem.1, hitem.2.1, hitem.2.2]
      exact ⟨rfl, rfl, rfl⟩

end Trace

/-! ## 2. Engines that answer alike -/

inductive ResultsAlike {ε α β : Type} (related : α → β → Prop) : Except ε α → Except ε β → Prop
  | error (e : ε) : ResultsAlike related (.error e) (.error e)
  | ok {a : α} {b : β} (h : related a b) : ResultsAlike related (.ok a) (.ok b)

variable {σ : Type}

/-- Engines that answer alike as long as no other resource is deployed. -/
structure Engine.AlikeFor (resource : String) (engine engine' : Engine σ) : Prop where
  name : engine.name = engine'.name
  deploy : ∀ s, engine.deploy (.ofResource resource) s = engine'.deploy (.ofResource resource) s
  start : engine.start = engine'.start
  close : engine.close = engine'.close

structure BuiltAlike (resource : String) (reply reply' : Reply σ (Engine σ)) : Prop where
  log : reply.log = reply'.log
  state : reply.state = reply'.state
  result : ResultsAlike (Engine.AlikeFor resource) reply.result reply'.result

namespace Launch

/-- Two launches with the same course of reading, whose settings are the same but for the password,
and whose engines answer alike for these. -/
structure Alike (password : String) (launch launch' : Launch σ) : Prop where
  loadTrace : launch.loadTrace = launch'.loadTrace
  settingsTrace : launch.settingsTrace = launch'.settingsTrace
  settings : launch'.settings = launch.settings.map fun settings => settings.withPassword password
  build : ∀ settings, launch.settings = .ok settings → ∀ s,
    BuiltAlike settings.processResource (launch.builder.build settings s)
      (launch'.builder.build (settings.withPassword password) s)

variable {launch launch' : Launch σ} {password : String}

/-- Building shows the settings without the password. -/
theorem buildTrace_alike (password : String) (settings : EngineSettings) {resource : String}
    {reply reply' : Reply σ (Engine σ)} (h : BuiltAlike resource reply reply') :
    (buildTrace (settings.withPassword password) reply').blinded =
      (buildTrace settings reply).blinded := by
  have hlog := h.log
  have hresult := h.result
  unfold buildTrace Reply.trace
  rw [← hlog]
  -- the results are related as a whole, so that both are errors or both are engines
  generalize reply.result = result at hresult ⊢
  generalize reply'.result = result' at hresult ⊢
  cases hresult with
  | error e => rfl
  | ok hengine =>
      simp only [Trace.blinded_append]
      show _ ++ [TraceItem.said (.engineCreated _ _)] = _ ++ [TraceItem.said (.engineCreated _ _)]
      rw [hengine.name]
      rfl

/-- Launches that are alike run alike, from any state of the lifecycle and of the engine. -/
theorem Alike.run_eq (h : launch.Alike password launch') (lifecycle : Lifecycle) (s : σ) :
    (launch'.run lifecycle s).result = (launch.run lifecycle s).result ∧
    (launch'.run lifecycle s).lifecycle = (launch.run lifecycle s).lifecycle ∧
    (launch'.run lifecycle s).engineState = (launch.run lifecycle s).engineState ∧
    (launch'.run lifecycle s).trace.blinded = (launch.run lifecycle s).trace.blinded := by
  simp only [run, runFrom, configure_eq, h.settings, ← h.loadTrace, ← h.settingsTrace]
  -- up to the builder both launches are the same, but for the password that it is given
  cases hsettings : launch.settings with
  | error e => exact ⟨rfl, rfl, rfl, rfl⟩
  | ok settings =>
      have hbuild := h.build settings hsettings s
      have htrace := buildTrace_alike password settings hbuild
      simp only [Except.map, build_eq, LaunchState.note, List.nil_append]
      generalize launch.builder.build settings s = built at hbuild htrace ⊢
      generalize launch'.builder.build (settings.withPassword password) s = built'
        at hbuild htrace ⊢
      obtain ⟨result, log, state⟩ := built
      obtain ⟨result', log', state'⟩ := built'
      obtain ⟨hlog, hstate, hresult⟩ := hbuild
      dsimp only at hlog hstate hresult
      subst hlog hstate
      cases hresult with
      | error e =>
          simp only [mapError_error, LaunchState.fail_eq, Trace.blinded_append, htrace]
          exact ⟨trivial, trivial, trivial, trivial⟩
      | @ok engine engine' hengine =>
          -- from here on both launches do the same behind what was said about the engine
          have hdeploy : engine'.deploy (.ofResource settings.processResource) =
              engine.deploy (.ofResource settings.processResource) :=
            funext fun s => (hengine.deploy s).symm
          have hsame : deployAndStart (settings.withPassword password) engine' =
              deployAndStart settings engine := by
            funext s
            simp only [deployAndStart, deploy_eq, start_eq, EngineSettings.withPassword]
            simp only [hdeploy, ← hengine.start]
            rfl
          simp only [mapError_ok, hsame]
          simp only [deployAndStart, deploy_eq, start_eq, close_eq, LaunchState.transition_eq,
            ← hengine.close]
          cases hdeployment :
            (engine.deploy (.ofResource settings.processResource) state).result with
          | error e =>
              simp only [mapError_error, LaunchState.fail_eq, Trace.blinded_append, htrace]
              exact ⟨trivial, trivial, trivial, trivial⟩
          | ok deployment =>
              simp only [mapError_ok]
              generalize (engine.deploy (.ofResource settings.processResource) state).state = state
              cases hstarted : (engine.start settings.processDefinitionKey state).result with
              | error e =>
                  simp only [mapError_error, LaunchState.fail_eq, Trace.blinded_append, htrace]
                  exact ⟨trivial, trivial, trivial, trivial⟩
              | ok started =>
                  simp only [mapError_ok, Trace.blinded_append, htrace]
                  exact ⟨trivial, trivial, trivial, trivial⟩

/-- Runs of alike launches cannot be told apart. -/
theorem Alike.observed_run (h : launch.Alike password launch') (lifecycle : Lifecycle) (s : σ) :
    (launch'.run lifecycle s).observed = (launch.run lifecycle s).observed := by
  obtain ⟨hresult, hlifecycle, hstate, htrace⟩ := h.run_eq lifecycle s
  have hobserve := Trace.observe_blinded (launch'.run lifecycle s).trace
  rw [htrace] at hobserve
  obtain ⟨hlines, hlog, hcalls⟩ := Trace.observe_blinded (launch.run lifecycle s).trace
  rw [hlines, hlog, hcalls] at hobserve
  unfold Outcome.observed
  rw [hresult, hlifecycle, hstate, ← hobserve.1, ← hobserve.2.1, ← hobserve.2.2]

theorem Alike.observations_eq (h : launch.Alike password launch') (lifecycle : Lifecycle) (s : σ)
    (n : Nat) : launch'.observations lifecycle s n = launch.observations lifecycle s n := by
  unfold observations
  induction n generalizing lifecycle s with
  | zero => rfl
  | succ n ih =>
      obtain ⟨-, hlifecycle, hstate, -⟩ := h.run_eq lifecycle s
      rw [runs, runs, List.map_cons, List.map_cons, h.observed_run, hlifecycle, hstate, ih]

end Launch

/-! ## 3. Builders -/

section

variable {disk disk' : Disk} {root resource : String}

theorem InMemory.alikeFor_engine
    (h : disk.read (Path.under root resource) = disk'.read (Path.under root resource))
    (registry : Nat) :
    Engine.AlikeFor resource (engine disk ⟨root, registry⟩) (engine disk' ⟨root, registry⟩) where
  name := rfl
  deploy store := by
    have hkeys : Registry.readKeys disk root resource = Registry.readKeys disk' root resource := by
      rw [Registry.readKeys, Registry.readKeys, Disk.readText, Disk.readText, h]
    simp only [engine, deploy, Registry.deploy, DeploymentRequest.resource_ofResource, hkeys]
  start := rfl
  close := rfl

/-- The data source is looked at without its password, so both are accepted or both refused. -/
theorem InMemory.builtAlike
    (h : disk.read (Path.under root resource) = disk'.read (Path.under root resource))
    (settings : EngineSettings) (password : String) (store : Store) :
    BuiltAlike resource ((builder disk root).build settings store)
      ((builder disk' root).build (settings.withPassword password) store) := by
  have hrejection : rejection? (settings.withPassword password).dataSource =
      rejection? settings.dataSource := rfl
  simp only [builder, build, hrejection]
  cases rejection? settings.dataSource with
  | some e => exact ⟨rfl, rfl, .error e⟩
  | none => exact ⟨rfl, rfl, .ok (alikeFor_engine h _)⟩

theorem Rest.alikeFor_engine
    (h : disk.read (Path.under root resource) = disk'.read (Path.under root resource))
    (baseUrl : String) :
    Engine.AlikeFor resource (engine disk ⟨baseUrl, root⟩) (engine disk' ⟨baseUrl, root⟩) where
  name := rfl
  deploy network := by
    simp only [engine, deploy, DeploymentRequest.resource_ofResource, h]
  start := rfl
  close := rfl

/-- A remote engine is asked for by its address alone. -/
theorem Rest.builtAlike
    (h : disk.read (Path.under root resource) = disk'.read (Path.under root resource))
    (settings : EngineSettings) (password : String) (network : Http.Network) :
    BuiltAlike resource ((builder disk root).build settings network)
      ((builder disk' root).build (settings.withPassword password) network) := by
  have hurl : (settings.withPassword password).restUrl = settings.restUrl := rfl
  simp only [builder, build, hurl]
  cases settings.restUrl with
  | none => exact ⟨rfl, rfl, .error _⟩
  | some baseUrl =>
      dsimp only
      generalize network.send .get s!"{baseUrl}/engine" none = sent
      obtain ⟨answer, network'⟩ := sent
      cases answer with
      | error e => exact ⟨rfl, rfl, .error _⟩
      | ok response =>
          dsimp only
          split
          · exact ⟨rfl, rfl, .ok (alikeFor_engine h baseUrl)⟩
          · exact ⟨rfl, rfl, .error _⟩

end

/-! ## 4. Launches from trees -/

section

variable {source : ConfigSource} {location : Location} {a b : ByteArray} {s t : FileTree}

def ConfigSource.config (source : ConfigSource) (content : ByteArray) : Config :=
  .parse source.name (latin1 content)

/-- The settings in a file name no resource that is the file itself. -/
def ResourceElsewhere (source : ConfigSource) (root : String) (location : Location)
    (content : ByteArray) (tree : FileTree) : Prop :=
  ∀ settings, (EngineSettings.read (source.config content)).value = .ok settings →
    tree.locate (Path.under root settings.processResource).toList ≠ .ok location

/-- Launches from two trees are alike where the builders make alike engines. -/
theorem alike_of_trees (htrees : FileTree.DifferAt location a b s t)
    (hsource : s.locate source.path.toList = .ok location)
    (hsecrets : (source.config a).SameButSecrets (source.config b)) (printConfig : Bool)
    {builder builder' : EngineBuilder σ}
    (hbuilders : ∀ settings, (EngineSettings.read (source.config a)).value = .ok settings →
      ∀ password state, BuiltAlike settings.processResource (builder.build settings state)
        (builder'.build (settings.withPassword password) state)) :
    Launch.Alike ((source.config b).getD SettingKey.jdbcPassword "")
      ⟨s.disk, source, printConfig, builder⟩ ⟨t.disk, source, printConfig, builder'⟩ := by
  have hload : Config.load s.disk source = ⟨.ok (source.config a), []⟩ := by
    rw [Config.load, FileTree.read_disk, htrees.read_left hsource]
    rfl
  have hload' : Config.load t.disk source = ⟨.ok (source.config b), []⟩ := by
    rw [Config.load, FileTree.read_disk, htrees.read_right hsource]
    rfl
  -- what is traced of the loading and of the settings, the settings themselves, and the engine that
  -- they get
  refine ⟨?_, ?_, ?_, ?_⟩
  · simp only [Launch.loadTrace, Launch.loaded, hload, hload', hsecrets.name, hsecrets.dump_eq]
  · simp only [Launch.settingsTrace, Launch.loaded, hload, hload',
      EngineSettings.read_notes_eq hsecrets]
  · simp only [Launch.settings, Launch.loaded, hload, hload', EngineSettings.read_value_eq hsecrets]
    cases (EngineSettings.read (source.config a)).value <;> rfl
  · intro settings hsettings state
    simp only [Launch.settings, Launch.loaded, hload] at hsettings
    cases hvalue : (EngineSettings.read (source.config a)).value with
    | error e =>
        rw [hvalue] at hsettings
        cases hsettings
    | ok settings' =>
        rw [hvalue] at hsettings
        cases hsettings
        exact hbuilders _ hvalue _ state

end

namespace Secrecy

/-- Two properties texts that differ only in their secrets are reported alike, give the same notes
and the same settings but for the password, and launches from files that hold them cannot be told
apart. -/
theorem passwords_unobservable {name text text' : String}
    (h : (Config.parse name text).SameButSecrets (Config.parse name text')) :
    (Config.parse name text).dump = (Config.parse name text').dump ∧
    (EngineSettings.read (.parse name text)).notes =
      (EngineSettings.read (.parse name text')).notes ∧
    (EngineSettings.read (.parse name text)).value.map (EngineSettings.withPassword · "") =
      (EngineSettings.read (.parse name text')).value.map (EngineSettings.withPassword · "") ∧
    (EngineSettings.read (.parse name text)).value.map EngineSettings.debugText =
      (EngineSettings.read (.parse name text')).value.map EngineSettings.debugText ∧
    ∀ dir root location a b s t, FileTree.DifferAt location a b s t → latin1 a = text →
      latin1 b = text' → s.locate (ConfigSource.path ⟨dir, name⟩).toList = .ok location →
      ResourceElsewhere ⟨dir, name⟩ root location a s →
        ∀ printConfig lifecycle n,
          (∀ store,
            (InMemory.launch s ⟨dir, name⟩ root printConfig).observations lifecycle store n =
              (InMemory.launch t ⟨dir, name⟩ root printConfig).observations lifecycle store n) ∧
          ∀ network,
            (Rest.launch s ⟨dir, name⟩ root printConfig).observations lifecycle network n =
              (Rest.launch t ⟨dir, name⟩ root printConfig).observations lifecycle network n := by
  have hvalue := EngineSettings.read_value_eq h
  refine ⟨h.dump_eq, (EngineSettings.read_notes_eq h).symm, ?_, ?_, ?_⟩
  · rw [hvalue]
    cases (EngineSettings.read (.parse name text)).value <;> rfl
  · rw [hvalue]
    cases (EngineSettings.read (.parse name text)).value <;> rfl
  · rintro dir root location a b s t htrees rfl rfl hsource hresource printConfig lifecycle n
    -- the resource is another file than the configuration, so both trees have it alike
    have hread (settings : EngineSettings)
        (hsettings :
          (EngineSettings.read (ConfigSource.config ⟨dir, name⟩ a)).value = .ok settings) :
        s.disk.read (Path.under root settings.processResource) =
          t.disk.read (Path.under root settings.processResource) := by
      rw [FileTree.read_disk, FileTree.read_disk, htrees.read_eq (hresource settings hsettings)]
    constructor
    · intro store
      have halike := alike_of_trees htrees hsource h printConfig fun settings hsettings password =>
        InMemory.builtAlike (hread settings hsettings) settings password
      exact (halike.observations_eq lifecycle store n).symm
    · intro network
      have halike := alike_of_trees htrees hsource h printConfig fun settings hsettings password =>
        Rest.builtAlike (hread settings hsettings) settings password
      exact (halike.observations_eq lifecycle network n).symm

def sampleBytes (password : String) : List UInt8 :=
  ("database.jdbc.username=u\ndatabase.jdbc.url=l\ndatabase.jdbc.password=".toList ++
    password.toList ++ "\ndatabase.jdbc.driver=d\ncamunda.process.resource=/p\n".toList ++
      "camunda.process.definition.key=k\nPassWord2=".toList ++ password.toList).map
        fun c => UInt8.ofNat c.toNat

def sampleEntries (password : String) : List (String × String) :=
  [("PassWord2", password), ("camunda.process.definition.key", "k"),
    ("camunda.process.resource", "/p"), ("database.jdbc.driver", "d"),
    ("database.jdbc.password", password), ("database.jdbc.url", "l"),
    ("database.jdbc.username", "u")]

def sampleTree (content : ByteArray) : FileTree where
  workingDirectory := []
  nodes := [([['a']], .file content), ([['p']], .file "<a/>".toUTF8)]

theorem differAt_sampleTree (a b : ByteArray) :
    FileTree.DifferAt [['a']] a b (sampleTree a) (sampleTree b) := by
  refine ⟨rfl, fun place hplace => ?_, rfl, rfl⟩
  have hlookup : (place == [['a']]) = false := by simpa using hplace
  simp only [FileTree.node?, sampleTree, List.lookup_cons, hlookup]

def sampleConfig (password : String) : Config :=
  ConfigSource.config ⟨".", "a"⟩ ⟨(sampleBytes password).toArray⟩

theorem entries_sampleConfig {password : String}
    (h : Properties.entries ((sampleBytes password).map fun byte => Char.ofNat byte.toNat) =
      (sampleEntries password).reverse)
    (htable : (Table.ofList (sampleEntries password).reverse).toList = sampleEntries password) :
    (sampleConfig password).entries.toList = sampleEntries password := by
  rw [← htable, ← h, sampleConfig, ConfigSource.config, Config.parse]
  simp only [Properties.parse, latin1, String.toList_ofList]

theorem passwords_unobservable_sample :
    (sampleConfig "sesame").SameButSecrets (sampleConfig "open") ∧
      (InMemory.launch (sampleTree ⟨(sampleBytes "sesame").toArray⟩) ⟨".", "a"⟩ "."
          true).observations .initial (.empty ⟨fun _ => "id", 0⟩) 2 =
        (InMemory.launch (sampleTree ⟨(sampleBytes "open").toArray⟩) ⟨".", "a"⟩ "."
          true).observations .initial (.empty ⟨fun _ => "id", 0⟩) 2 := by
  have ha : (sampleConfig "sesame").entries.toList = sampleEntries "sesame" :=
    entries_sampleConfig (by decide +kernel) (by decide +kernel)
  have hb : (sampleConfig "open").entries.toList = sampleEntries "open" :=
    entries_sampleConfig (by decide +kernel) (by decide +kernel)
  have hsecrets : (sampleConfig "sesame").SameButSecrets (sampleConfig "open") := by
    have hname (password : String) : (sampleConfig password).name = "a" := rfl
    refine .of_shown (by rw [hname, hname]) ?_ ?_
    · rw [ha, hb]
      decide +kernel
    · rw [Config.get?, Config.get?, Table.get?, Table.get?, ha, hb]
      decide +kernel
  have hresource : ResourceElsewhere ⟨".", "a"⟩ "." [['a']] ⟨(sampleBytes "sesame").toArray⟩
      (sampleTree ⟨(sampleBytes "sesame").toArray⟩) := by
    intro settings hsettings
    rw [EngineSettings.read_value] at hsettings
    obtain ⟨-, rfl⟩ := (Config.unlessMissing_eq_ok_iff _ _ _ _).mp hsettings
    -- the resource named in the file is `/p`, which is not the file itself
    have hvalue : (sampleConfig "sesame").getD SettingKey.processResource "" = "/p" := by
      rw [Config.getD, Config.get?, Table.get?, ha]
      decide +kernel
    have hresource (config : Config) : (EngineSettings.ofConfig config).processResource =
        trimmed (config.getD SettingKey.processResource "") := rfl
    rw [hresource, ← sampleConfig, hvalue]
    decide +kernel
  obtain ⟨-, -, -, -, hruns⟩ := passwords_unobservable hsecrets
  exact ⟨hsecrets, (hruns "." "." [['a']] _ _ _ _ (differAt_sampleTree _ _) rfl rfl
    (by decide +kernel) hresource true .initial 2).1 _⟩

end Secrecy

end ProcessLaunch
