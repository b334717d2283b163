import ProcessLaunch.Proofs.Launch.Course
import ProcessLaunch.Proofs.Launch.Trace

/-!
# The protocol of a launch

What a launch asks of its engine, which states it visits and how it ends, for every engine whose
operations may succeed or fail in any way, and for any number of runs one behind the other.
-/

namespace ProcessLaunch

/-! ## 1. The calls of one step -/

@[simp] theorem Reply.calls_trace {σ α : Type} (reply : Reply σ α) (call : EngineCall) :
    (reply.trace call).calls = [call] := by
  simp [Reply.trace]

@[simp] theorem calls_failureTrace (state : LifecycleState) (e : WorkflowError) :
    (failureTrace state e).calls = [] := rfl

@[simp] theorem calls_closeTrace {σ : Type} (reply : Reply σ Unit) :
    (closeTrace reply).calls = [.close] := by
  cases h : reply.result <;> simp [closeTrace, h]

/-- A history grows by the states that are visited. -/
theorem Lifecycle.history_foldl_advance (visited : List LifecycleState) (lifecycle : Lifecycle) :
    (visited.foldl Lifecycle.advance lifecycle).history = lifecycle.history ++ visited := by
  induction visited generalizing lifecycle with
  | nil => simp
  | cons next rest ih => simp [ih]

namespace Launch

variable {σ : Type} (launch : Launch σ)

@[simp] theorem calls_loadTrace : launch.loadTrace.calls = [] := by
  unfold loadTrace
  cases launch.loaded with
  | error e => simp
  | ok config => cases launch.printConfig <;> simp

@[simp] theorem calls_settingsTrace : launch.settingsTrace.calls = [] := by
  unfold settingsTrace
  cases launch.loaded <;> simp

@[simp] theorem calls_buildTrace (settings : EngineSettings) (reply : Reply σ (Engine σ)) :
    (buildTrace settings reply).calls = [.build] := by
  cases h : reply.result <;> simp [buildTrace, h]

@[simp] theorem calls_deployTrace (origin : LifecycleState) (settings : EngineSettings)
    (reply : Reply σ Deployment) :
    (deployTrace origin settings reply).calls =
      [.deploy (.ofResource settings.processResource)] := by
  cases h : reply.result <;> simp [deployTrace, h]

@[simp] theorem calls_startTrace (origin : LifecycleState) (settings : EngineSettings)
    (reply : Reply σ ProcessInstance) :
    (startTrace origin settings reply).calls = [.start settings.processDefinitionKey] := by
  cases h : reply.result <;> simp [startTrace, h]

/-! ## 2. Which steps succeed -/

def HasSettings (settings : EngineSettings) : Prop :=
  ∃ config, (Config.load launch.disk launch.source).value = .ok config ∧
    (EngineSettings.read config).value = .ok settings

/-- From a state of the engine, the settings are there and the builder returns this engine. -/
def Builds (s : σ) (settings : EngineSettings) (engine : Engine σ) : Prop :=
  launch.HasSettings settings ∧ (launch.builder.build settings s).result = .ok engine

def deployReply (s : σ) (settings : EngineSettings) (engine : Engine σ) : Reply σ Deployment :=
  engine.deploy (.ofResource settings.processResource) (launch.builder.build settings s).state

def Deploys (s : σ) (settings : EngineSettings) (engine : Engine σ) (deployment : Deployment) :
    Prop :=
  launch.Builds s settings engine ∧ (launch.deployReply s settings engine).result = .ok deployment

def startReply (s : σ) (settings : EngineSettings) (engine : Engine σ) : Reply σ ProcessInstance :=
  engine.start settings.processDefinitionKey (launch.deployReply s settings engine).state

/-- The state in which a built engine is asked to close: behind the deployment if that was refused,
and behind the start otherwise. -/
def stateAtClose (s : σ) (settings : EngineSettings) (engine : Engine σ) : σ :=
  match (launch.deployReply s settings engine).result with
  | .error _ => (launch.deployReply s settings engine).state
  | .ok _ => (launch.startReply s settings engine).state

/-- The first step that fails, with its cause. -/
inductive FirstFailure (s : σ) : WorkflowError → Prop
  | load {e : ConfigError} (h : (Config.load launch.disk launch.source).value = .error e) :
      FirstFailure s (.configurationLoad e)
  | settings {config : Config} {e : ConfigError}
      (hload : (Config.load launch.disk launch.source).value = .ok config)
      (h : (EngineSettings.read config).value = .error e) : FirstFailure s (.configuration e)
  | build {settings : EngineSettings} {e : EngineError} (hsettings : launch.HasSettings settings)
      (h : (launch.builder.build settings s).result = .error e) :
      FirstFailure s (.engineConstruction e)
  | deploy {settings : EngineSettings} {engine : Engine σ} {e : EngineError}
      (hengine : launch.Builds s settings engine)
      (h : (launch.deployReply s settings engine).result = .error e) :
      FirstFailure s (.deployment e)
  | start {settings : EngineSettings} {engine : Engine σ} {deployment : Deployment}
      {e : EngineError} (hdeployment : launch.Deploys s settings engine deployment)
      (h : (launch.startReply s settings engine).result = .error e) :
      FirstFailure s (.instanceStart e)

theorem hasSettings_iff (settings : EngineSettings) :
    launch.HasSettings settings ↔ launch.settings = .ok settings := by
  unfold HasSettings Launch.settings loaded
  cases (Config.load launch.disk launch.source).value with
  | error e => simp
  | ok config => cases h : (EngineSettings.read config).value <;> simp [h]

/-- There are no settings for one of two reasons: the configuration cannot be loaded, or cannot be
interpreted. -/
theorem settings_eq_error_iff (e : WorkflowError) :
    launch.settings = .error e ↔
      (∃ cause, (Config.load launch.disk launch.source).value = .error cause ∧
        WorkflowError.configurationLoad cause = e) ∨
      ∃ config cause, (Config.load launch.disk launch.source).value = .ok config ∧
        (EngineSettings.read config).value = .error cause ∧
        WorkflowError.configuration cause = e := by
  unfold settings loaded
  cases (Config.load launch.disk launch.source).value with
  | error cause => simp
  | ok config =>
      cases h : (EngineSettings.read config).value <;> simp [h]

/-- The first failure, step by step. -/
theorem firstFailure_iff (s : σ) (e : WorkflowError) :
    launch.FirstFailure s e ↔
      launch.settings = .error e ∨
      ∃ settings, launch.settings = .ok settings ∧
        ((∃ cause, (launch.builder.build settings s).result = .error cause ∧
          WorkflowError.engineConstruction cause = e) ∨
        ∃ engine, (launch.builder.build settings s).result = .ok engine ∧
          ((∃ cause, (launch.deployReply s settings engine).result = .error cause ∧
            WorkflowError.deployment cause = e) ∨
          ∃ deployment, (launch.deployReply s settings engine).result = .ok deployment ∧
            ∃ cause, (launch.startReply s settings engine).result = .error cause ∧
              WorkflowError.instanceStart cause = e)) := by
  rw [settings_eq_error_iff]
  -- the steps follow each other, and each is attempted only behind those before it
  constructor
  · intro h
    cases h with
    | load h => exact .inl (.inl ⟨_, h, rfl⟩)
    | settings hload h => exact .inl (.inr ⟨_, _, hload, h, rfl⟩)
    | build hsettings h =>
        exact .inr ⟨_, (launch.hasSettings_iff _).mp hsettings, .inl ⟨_, h, rfl⟩⟩
    | deploy hengine h =>
        exact .inr ⟨_, (launch.hasSettings_iff _).mp hengine.1,
          .inr ⟨_, hengine.2, .inl ⟨_, h, rfl⟩⟩⟩
    | start hdeployment h =>
        obtain ⟨⟨hsettings, hengine⟩, hdeployment⟩ := hdeployment
        exact .inr ⟨_, (launch.hasSettings_iff _).mp hsettings,
          .inr ⟨_, hengine, .inr ⟨_, hdeployment, _, h, rfl⟩⟩⟩
  · rintro ((⟨cause, h, rfl⟩ | ⟨config, cause, hload, h, rfl⟩) | ⟨settings, hsettings, h⟩)
    · exact .load h
    · exact .settings hload h
    · rw [← hasSettings_iff] at hsettings
      rcases h with ⟨cause, h, rfl⟩ | ⟨engine, hengine, h⟩
      · exact .build hsettings h
      · rcases h with ⟨cause, h, rfl⟩ | ⟨deployment, hdeployment, cause, h, rfl⟩
        · exact .deploy ⟨hsettings, hengine⟩ h
        · exact .start ⟨⟨hsettings, hengine⟩, hdeployment⟩ h

variable {launch} {s : σ} {settings : EngineSettings} {engine : Engine σ} {deployment : Deployment}

/-- There is at most one engine. -/
theorem Builds.unique {settings' : EngineSettings} {engine' : Engine σ}
    (h : launch.Builds s settings engine) (h' : launch.Builds s settings' engine') :
    settings = settings' ∧ engine = engine' := by
  obtain ⟨hsettings, hengine⟩ := h
  obtain ⟨hsettings', hengine'⟩ := h'
  rw [hasSettings_iff] at hsettings hsettings'
  obtain rfl := Except.ok.inj (hsettings.symm.trans hsettings')
  exact ⟨rfl, Except.ok.inj (hengine.symm.trans hengine')⟩

/-- A run has one engine and one deployment at most. -/
theorem Deploys.unique {settings' : EngineSettings} {engine' : Engine σ} {deployment' : Deployment}
    (h : launch.Deploys s settings engine deployment)
    (h' : launch.Deploys s settings' engine' deployment') :
    settings = settings' ∧ engine = engine' ∧ deployment = deployment' := by
  obtain ⟨rfl, rfl⟩ := h.1.unique h'.1
  exact ⟨rfl, rfl, Except.ok.inj (h.2.symm.trans h'.2)⟩

/-- Without settings no engine is built. -/
theorem not_builds_of_settings {e : WorkflowError} (h : launch.settings = .error e)
    (settings : EngineSettings) (engine : Engine σ) : ¬launch.Builds s settings engine := by
  rintro ⟨hsettings, -⟩
  rw [hasSettings_iff, h] at hsettings
  cases hsettings

theorem not_builds_of_refused {e : EngineError} (hsettings : launch.HasSettings settings)
    (h : (launch.builder.build settings s).result = .error e)
    (settings' : EngineSettings) (engine : Engine σ) : ¬launch.Builds s settings' engine := by
  rintro ⟨hsettings', hengine⟩
  rw [hasSettings_iff] at hsettings hsettings'
  obtain rfl := Except.ok.inj (hsettings.symm.trans hsettings')
  rw [h] at hengine
  cases hengine

theorem not_deploys_of_refused {e : EngineError} (hbuilds : launch.Builds s settings engine)
    (h : (launch.deployReply s settings engine).result = .error e)
    (settings' : EngineSettings) (engine' : Engine σ) (deployment : Deployment) :
    ¬launch.Deploys s settings' engine' deployment := by
  rintro ⟨hbuilds', hdeployment⟩
  obtain ⟨rfl, rfl⟩ := hbuilds.unique hbuilds'
  rw [h] at hdeployment
  cases hdeployment

variable (launch)

/-! ## 3. One run -/

/-- What holds of every run that begins behind a lifecycle and in a state of the engine. -/
structure Protocol (before : Lifecycle) (s : σ) (outcome : Outcome σ) : Prop where
  /-- The calls form one of four words, and the states that the history gains go with them. -/
  word :
    (outcome.trace.calls ∈ [[], [.build]] ∧
      outcome.lifecycle.history = before.history ++ [.failed]) ∨
    ∃ settings, launch.HasSettings settings ∧
      ((outcome.trace.calls =
          [.build, .deploy (.ofResource settings.processResource), .close] ∧
        outcome.lifecycle.history = before.history ++ [.configured, .failed]) ∨
      (outcome.trace.calls =
          [.build, .deploy (.ofResource settings.processResource),
            .start settings.processDefinitionKey, .close] ∧
        (outcome.lifecycle.history = before.history ++ [.configured, .deployed, .failed] ∨
          outcome.lifecycle.history =
            before.history ++ [.configured, .deployed, .started, .closed])))
  /-- The builder is asked unless there are no settings. -/
  build_iff : .build ∈ outcome.trace.calls ↔ ∃ settings, launch.HasSettings settings
  /-- The engine is asked to start only behind a deployment. -/
  start_iff : (∃ key, .start key ∈ outcome.trace.calls) ↔
    ∃ settings engine deployment, launch.Deploys s settings engine deployment
  /-- A built engine is closed once, behind everything else. -/
  close_of_built : (∃ settings engine, launch.Builds s settings engine) →
    outcome.trace.calls.count .close = 1 ∧ outcome.trace.calls.getLast? = some .close
  /-- Without an engine nothing is closed. -/
  built_of_close : .close ∈ outcome.trace.calls → ∃ settings engine, launch.Builds s settings engine
  /-- What is closed is the engine that was built, in the state in which it was left. -/
  engineState_eq : ∀ settings engine, launch.Builds s settings engine →
    outcome.engineState = (engine.close (launch.stateAtClose s settings engine)).state
  /-- The state is the last one of the history. -/
  state_last : outcome.lifecycle.history.getLast? = some outcome.lifecycle.state
  /-- A run succeeds with what was deployed and started, however the engine closes. -/
  result_ok_iff : ∀ report, outcome.result = .ok report ↔
    ∃ settings engine, launch.Deploys s settings engine report.deployment ∧
      (launch.startReply s settings engine).result = .ok report.started
  /-- A run fails with the cause of the first step that fails, however the engine closes. -/
  result_error_iff : ∀ e, outcome.result = .error e ↔ launch.FirstFailure s e

/-- The step lemma: one run keeps the protocol, whichever of its steps fails and however the engine
answers. -/
theorem protocol_run (before : Lifecycle) (s : σ) :
    launch.Protocol before s (launch.run before s) := by
  obtain ⟨visited, hlifecycle, hcourse⟩ := launch.exists_course before s
  have hhistory : (launch.run before s).lifecycle.history = before.history ++ visited := by
    rw [hlifecycle, Lifecycle.history_foldl_advance]
  have hlast := (launch.run before s).lifecycle.getLast?_history
  -- what is left to do speaks of the outcome alone, one course after the other
  generalize launch.run before s = outcome at *
  obtain ⟨result, lifecycle, engineState, trace⟩ := outcome
  simp only at hcourse hhistory hlast
  cases hcourse with
  | unset hsettings =>
      -- without settings nothing is built, so whatever speaks of an engine holds of none
      have hno := launch.not_builds_of_settings (s := s) hsettings
      exact {
        word := .inl ⟨by simp, hhistory⟩
        build_iff := by simp [hasSettings_iff, hsettings]
        start_iff := by simp [Deploys, hno]
        close_of_built := fun ⟨_, _, h⟩ => absurd h (hno _ _)
        built_of_close := by simp
        engineState_eq := fun _ _ h => absurd h (hno _ _)
        state_last := hlast
        result_ok_iff := by simp [Deploys, hno]
        result_error_iff := by simp [firstFailure_iff, hsettings] }
  | unbuilt hsettings hbuilt hresult =>
      subst hbuilt
      have hhas := (launch.hasSettings_iff _).mpr hsettings
      have hno := launch.not_builds_of_refused hhas hresult
      exact {
        word := .inl ⟨by simp, hhistory⟩
        build_iff := by simp [hasSettings_iff, hsettings]
        start_iff := by simp [Deploys, hno]
        close_of_built := fun ⟨_, _, h⟩ => absurd h (hno _ _)
        built_of_close := by simp
        engineState_eq := fun _ _ h => absurd h (hno _ _)
        state_last := hlast
        result_ok_iff := by simp [Deploys, hno]
        result_error_iff := by simp [firstFailure_iff, hsettings, hresult] }
  | undeployed hsettings hbuilt hengine hdeployed hresult =>
      subst hbuilt hdeployed
      have hbuilds : launch.Builds s _ _ := ⟨(launch.hasSettings_iff _).mpr hsettings, hengine⟩
      have hno := launch.not_deploys_of_refused hbuilds hresult
      exact {
        word := .inr ⟨_, hbuilds.1, .inl ⟨by simp, hhistory⟩⟩
        build_iff := by simp [hasSettings_iff, hsettings]
        start_iff := by simp [hno]
        close_of_built := fun _ => by simp
        built_of_close := fun _ => ⟨_, _, hbuilds⟩
        -- the refused deployment is the last thing that the engine was asked before its end
        engineState_eq := fun _ _ h => by
          obtain ⟨rfl, rfl⟩ := hbuilds.unique h
          simp [stateAtClose, deployReply, hresult]
        state_last := hlast
        result_ok_iff := by simp [hno]
        result_error_iff := by simp [firstFailure_iff, deployReply, hsettings, hengine, hresult] }
  | unstarted hsettings hbuilt hengine hdeployed hdeployment hanswered hresult =>
      subst hbuilt hdeployed hanswered
      have hbuilds : launch.Builds s _ _ := ⟨(launch.hasSettings_iff _).mpr hsettings, hengine⟩
      have hdeploys : launch.Deploys s _ _ _ := ⟨hbuilds, hdeployment⟩
      exact {
        word := .inr ⟨_, hbuilds.1, .inr ⟨by simp, .inl hhistory⟩⟩
        build_iff := by simp [hasSettings_iff, hsettings]
        start_iff := ⟨fun _ => ⟨_, _, _, hdeploys⟩, fun _ => by simp⟩
        close_of_built := fun _ => by simp
        built_of_close := fun _ => ⟨_, _, hbuilds⟩
        engineState_eq := fun _ _ h => by
          obtain ⟨rfl, rfl⟩ := hbuilds.unique h
          simp [stateAtClose, deployReply, startReply, hdeployment]
        state_last := hlast
        result_ok_iff := fun report => by
          -- the deployment is the only one there is, and its start was refused
          refine ⟨nofun, fun ⟨_, _, hdeploys', hstarted⟩ => ?_⟩
          obtain ⟨rfl, rfl, -⟩ := hdeploys.unique hdeploys'
          exact nomatch hresult.symm.trans hstarted
        result_error_iff := by
          simp [firstFailure_iff, deployReply, startReply, hsettings, hengine, hdeployment,
            hresult] }
  | completed hsettings hbuilt hengine hdeployed hdeployment hanswered hstarted =>
      subst hbuilt hdeployed hanswered
      have hbuilds : launch.Builds s _ _ := ⟨(launch.hasSettings_iff _).mpr hsettings, hengine⟩
      have hdeploys : launch.Deploys s _ _ _ := ⟨hbuilds, hdeployment⟩
      exact {
        word := .inr ⟨_, hbuilds.1, .inr ⟨by simp, .inr hhistory⟩⟩
        build_iff := by simp [hasSettings_iff, hsettings]
        start_iff := ⟨fun _ => ⟨_, _, _, hdeploys⟩, fun _ => by simp⟩
        close_of_built := fun _ => by simp
        built_of_close := fun _ => ⟨_, _, hbuilds⟩
        engineState_eq := fun _ _ h => by
          obtain ⟨rfl, rfl⟩ := hbuilds.unique h
          simp [stateAtClose, deployReply, startReply, hdeployment]
        state_last := hlast
        result_ok_iff := fun report => by
          constructor
          · intro h
            obtain rfl := Except.ok.inj h
            exact ⟨_, _, hdeploys, hstarted⟩
          · rintro ⟨_, _, hdeploys', hstarted'⟩
            obtain ⟨rfl, rfl, hdeployment⟩ := hdeploys.unique hdeploys'
            have hstarted := Except.ok.inj (hstarted.symm.trans hstarted')
            rw [hdeployment, hstarted]
        result_error_iff := by
          simp [firstFailure_iff, deployReply, startReply, hsettings, hengine, hdeployment,
            hstarted] }

/-! ## 4. Many runs -/

/-- Outcomes of runs one behind the other, each of which keeps the protocol from where the run
before it has left the lifecycle and the engine. -/
def Follows (before : Lifecycle) (s : σ) : List (Outcome σ) → Prop
  | [] => True
  | outcome :: rest =>
      launch.Protocol before s outcome ∧ Follows outcome.lifecycle outcome.engineState rest

theorem length_runs (before : Lifecycle) (s : σ) (n : Nat) :
    (launch.runs before s n).length = n := by
  induction n generalizing before s with
  | zero => rfl
  | succ n ih => simp [runs, ih]

/-- The run lemma: every run keeps the protocol from where the run before it has left off. -/
theorem follows_runs (before : Lifecycle) (s : σ) (n : Nat) :
    launch.Follows before s (launch.runs before s n) := by
  induction n generalizing before s with
  | zero => trivial
  -- the protocol of one run holds behind any lifecycle and any state, those of earlier runs too
  | succ n ih => exact ⟨launch.protocol_run before s, ih _ _⟩

/-- A run adds to the history and takes nothing away. -/
theorem Protocol.prefix_history {before : Lifecycle} {outcome : Outcome σ}
    (h : launch.Protocol before s outcome) : before.history <+: outcome.lifecycle.history := by
  rcases h.word with ⟨-, h⟩ | ⟨settings, -, ⟨-, h⟩ | ⟨-, h | h⟩⟩ <;>
    exact h ▸ List.prefix_append _ _

/-- No run takes anything back from the history. -/
theorem prefix_history_of_mem_runs {before : Lifecycle} {n : Nat} {outcome : Outcome σ}
    (h : outcome ∈ launch.runs before s n) : before.history <+: outcome.lifecycle.history := by
  induction n generalizing before s with
  | zero => cases h
  | succ n ih =>
      have hfirst := (launch.protocol_run before s).prefix_history
      rcases List.mem_cons.mp h with rfl | h
      · exact hfirst
      · exact hfirst.trans (ih h)

/-- Any number of runs of one launch: each keeps the protocol from where the one before it left
things, and the history of each begins with the state in which nothing has happened. -/
theorem runs_keep_protocol (launch : Launch σ) (s : σ) (n : Nat) :
    (launch.runs .initial s n).length = n ∧
      launch.Follows .initial s (launch.runs .initial s n) ∧
      ∀ outcome ∈ launch.runs .initial s n,
        outcome.lifecycle.history.head? = some .unstarted := by
  refine ⟨launch.length_runs _ _ _, launch.follows_runs _ _ _, fun outcome h => ?_⟩
  obtain ⟨added, hadded⟩ := launch.prefix_history_of_mem_runs h
  rw [← hadded, Lifecycle.history_initial]
  rfl

end Launch

end ProcessLaunch
