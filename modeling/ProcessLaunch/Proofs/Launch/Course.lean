import ProcessLaunch.Launch.Run

/-!
# Courses of a launch

A run goes one of six ways, told apart by the first of its steps that fails.  Each way fixes how the
run ends, which states it visits, which state it leaves its engine in, and all that happens in it.
-/

namespace ProcessLaunch

@[simp] theorem mapError_error {ε ε' α : Type} (f : ε → ε') (e : ε) :
    (Except.error e : Except ε α).mapError f = .error (f e) := rfl

@[simp] theorem mapError_ok {ε ε' α : Type} (f : ε → ε') (value : α) :
    (Except.ok value : Except ε α).mapError f = .ok value := rfl

/-! ## 1. What happens in one step -/

def Reply.trace {σ α : Type} (reply : Reply σ α) (call : EngineCall) : Trace :=
  .called call :: reply.log.map .engineRecord

def failureTrace (state : LifecycleState) (e : WorkflowError) : Trace :=
  [.launchEvent (.failed state e), .launchEvent (.transition state .failed)]

def closeTrace {σ : Type} (reply : Reply σ Unit) : Trace :=
  reply.trace .close ++
    match reply.result with
    | .error e => [.launchEvent (.closeFailed (.engineClose e))]
    | .ok () => [.said .engineClosed]

namespace LaunchState

variable {σ α : Type}

@[simp] theorem note_lifecycle (s : LaunchState σ) (items : Trace) :
    (s.note items).lifecycle = s.lifecycle := rfl

@[simp] theorem note_engineState (s : LaunchState σ) (items : Trace) :
    (s.note items).engineState = s.engineState := rfl

@[simp] theorem note_trace (s : LaunchState σ) (items : Trace) :
    (s.note items).trace = s.trace ++ items := rfl

/-- The state behind an answered operation. -/
theorem call_eq (s : LaunchState σ) (call : EngineCall) (ask : σ → Reply σ α) :
    s.call call ask = ((ask s.engineState).result,
      ⟨s.lifecycle, (ask s.engineState).state, s.trace ++ (ask s.engineState).trace call⟩) := rfl

theorem transition_eq (s : LaunchState σ) (next : LifecycleState) :
    s.transition next = ⟨s.lifecycle.advance next, s.engineState,
      s.trace ++ [.launchEvent (.transition s.lifecycle.state next)]⟩ := rfl

/-- A failure is logged, together with the way into the state of failure. -/
theorem fail_eq (s : LaunchState σ) (e : WorkflowError) :
    s.fail e = ⟨s.lifecycle.advance .failed, s.engineState,
      s.trace ++ failureTrace s.lifecycle.state e⟩ := by
  simp only [fail, transition_eq, note_lifecycle, note_engineState, note_trace, failureTrace,
    List.append_assoc, List.singleton_append]

theorem say_eq (s : LaunchState σ) (notice : Notice) :
    s.say notice = ⟨s.lifecycle, s.engineState, s.trace ++ [.said notice]⟩ := rfl

end LaunchState

namespace Launch

variable {σ : Type} (launch : Launch σ)

/-! ## 2. The settings of a launch -/

def loaded : Except ConfigError Config := (Config.load launch.disk launch.source).value

def loadTrace : Trace :=
  (Config.load launch.disk launch.source).notes.map .configEvent ++
    match launch.loaded with
    | .error _ => []
    | .ok config =>
        .said (.configurationLoaded config.name) ::
          if launch.printConfig then [.said (.configuration config.dump)] else []

def settingsTrace : Trace :=
  match launch.loaded with
  | .error _ => []
  | .ok config => (EngineSettings.read config).notes.map .configEvent

def settings : Except WorkflowError EngineSettings :=
  match launch.loaded with
  | .error e => .error (.configurationLoad e)
  | .ok config => (EngineSettings.read config).value.mapError .configuration

/-- Reading the configuration leaves the engine and the lifecycle alone. -/
theorem load_eq (s : LaunchState σ) :
    launch.load s = (launch.loaded.mapError .configurationLoad, s.note launch.loadTrace) := by
  unfold load loadTrace loaded
  obtain ⟨value, notes⟩ := Config.load launch.disk launch.source
  cases value with
  | error e => simp only [mapError_error, List.append_nil]
  | ok config =>
      cases launch.printConfig <;>
        simp [LaunchState.note, LaunchState.say]

/-! ## 3. What each step leaves -/

def buildTrace (settings : EngineSettings) (reply : Reply σ (Engine σ)) : Trace :=
  reply.trace .build ++
    match reply.result with
    | .error _ => []
    | .ok engine => [.said (.engineCreated engine.name settings)]

def deployTrace (origin : LifecycleState) (settings : EngineSettings) (reply : Reply σ Deployment) :
    Trace :=
  .said (.deploying settings.processResource) ::
    reply.trace (.deploy (.ofResource settings.processResource)) ++
    match reply.result with
    | .error _ => []
    | .ok _ => [.launchEvent (.transition origin .deployed), .said .deployed]

def startTrace (origin : LifecycleState) (settings : EngineSettings)
    (reply : Reply σ ProcessInstance) : Trace :=
  .said (.starting settings.processDefinitionKey) ::
    reply.trace (.start settings.processDefinitionKey) ++
    match reply.result with
    | .error _ => []
    | .ok started =>
        [.launchEvent (.transition origin .started), .said (.instanceStarted started)]

def advanceOn {ε α : Type} (result : Except ε α) (lifecycle : Lifecycle) (next : LifecycleState) :
    Lifecycle :=
  match result with
  | .error _ => lifecycle
  | .ok _ => lifecycle.advance next

/-- Building an engine is one call, and does not move the lifecycle. -/
theorem build_eq (settings : EngineSettings) (s : LaunchState σ) :
    launch.build settings s =
      let reply := launch.builder.build settings s.engineState
      (reply.result.mapError .engineConstruction,
        ⟨s.lifecycle, reply.state, s.trace ++ buildTrace settings reply⟩) := by
  simp only [build, LaunchState.call_eq, buildTrace]
  cases (launch.builder.build settings s.engineState).result <;>
    simp only [mapError_error, mapError_ok, LaunchState.say_eq, List.append_assoc, List.append_nil]

/-- The lifecycle moves on behind a deployment that succeeded. -/
theorem deploy_eq (settings : EngineSettings) (engine : Engine σ) (s : LaunchState σ) :
    deploy settings engine s =
      let reply := engine.deploy (.ofResource settings.processResource) s.engineState
      (reply.result.mapError .deployment,
        ⟨advanceOn reply.result s.lifecycle .deployed, reply.state,
          s.trace ++ deployTrace s.lifecycle.state settings reply⟩) := by
  simp only [deploy, LaunchState.call_eq, LaunchState.say_eq, deployTrace]
  cases (engine.deploy (.ofResource settings.processResource) s.engineState).result <;>
    simp [LaunchState.transition_eq, advanceOn]

/-- The lifecycle moves on behind a start that succeeded. -/
theorem start_eq (settings : EngineSettings) (engine : Engine σ) (s : LaunchState σ) :
    start settings engine s =
      let reply := engine.start settings.processDefinitionKey s.engineState
      (reply.result.mapError .instanceStart,
        ⟨advanceOn reply.result s.lifecycle .started, reply.state,
          s.trace ++ startTrace s.lifecycle.state settings reply⟩) := by
  simp only [start, LaunchState.call_eq, LaunchState.say_eq, startTrace]
  cases (engine.start settings.processDefinitionKey s.engineState).result <;>
    simp [LaunchState.transition_eq, advanceOn]

/-- Closing an engine changes nothing about how far the launch has come. -/
theorem close_eq (engine : Engine σ) (s : LaunchState σ) :
    close engine s = ⟨s.lifecycle, (engine.close s.engineState).state,
      s.trace ++ closeTrace (engine.close s.engineState)⟩ := by
  simp only [close, LaunchState.call_eq, closeTrace]
  cases (engine.close s.engineState).result <;>
    simp only [LaunchState.note, LaunchState.say_eq, List.append_assoc]

/-- Configuring is building with the settings, if there are any. -/
theorem configure_eq (s : LaunchState σ) :
    launch.configure s =
      match launch.settings with
      | .error e => (.error e, s.note (launch.loadTrace ++ launch.settingsTrace))
      | .ok settings =>
          match launch.build settings (s.note (launch.loadTrace ++ launch.settingsTrace)) with
          | (.error e, s) => (.error e, s)
          | (.ok engine, s) => (.ok (settings, engine), s) := by
  unfold configure settings settingsTrace
  rw [load_eq]
  cases launch.loaded with
  | error e => simp only [mapError_error, List.append_nil]
  | ok config =>
      have hnote (items : Trace) :
          (s.note launch.loadTrace).note items = s.note (launch.loadTrace ++ items) := by
        simp only [LaunchState.note, List.append_assoc]
      simp only [mapError_ok, readSettings, hnote]
      cases (EngineSettings.read config).value <;> rfl

/-! ## 4. The six courses -/

/-- The courses of a run that begins in a state of the lifecycle and a state of the engine: how it
ends, the states that it visits, the state that it leaves the engine in, and what happens in it.
The replies of the engine that was built are named, each asked for in the state that the one before
left. -/
inductive Course (origin : LifecycleState) (s : σ) :
    Except WorkflowError LaunchReport → List LifecycleState → σ → Trace → Prop
  | unset {e : WorkflowError} (hsettings : launch.settings = .error e) :
      Course origin s (.error e) [.failed] s
        (launch.loadTrace ++ launch.settingsTrace ++ failureTrace origin e)
  | unbuilt {settings : EngineSettings} {built : Reply σ (Engine σ)} {e : EngineError}
      (hsettings : launch.settings = .ok settings)
      (hbuilt : launch.builder.build settings s = built) (hresult : built.result = .error e) :
      Course origin s (.error (.engineConstruction e)) [.failed] built.state
        (launch.loadTrace ++ launch.settingsTrace ++ buildTrace settings built ++
          failureTrace origin (.engineConstruction e))
  | undeployed {settings : EngineSettings} {built : Reply σ (Engine σ)} {engine : Engine σ}
      {deployed : Reply σ Deployment} {e : EngineError}
      (hsettings : launch.settings = .ok settings)
      (hbuilt : launch.builder.build settings s = built) (hengine : built.result = .ok engine)
      (hdeployed : engine.deploy (.ofResource settings.processResource) built.state = deployed)
      (hresult : deployed.result = .error e) :
      Course origin s (.error (.deployment e)) [.configured, .failed]
        (engine.close deployed.state).state
        (launch.loadTrace ++ launch.settingsTrace ++ buildTrace settings built ++
          [.launchEvent (.transition origin .configured)] ++
          deployTrace .configured settings deployed ++
          closeTrace (engine.close deployed.state) ++ failureTrace .configured (.deployment e))
  | unstarted {settings : EngineSettings} {built : Reply σ (Engine σ)} {engine : Engine σ}
      {deployed : Reply σ Deployment} {deployment : Deployment}
      {answered : Reply σ ProcessInstance} {e : EngineError}
      (hsettings : launch.settings = .ok settings)
      (hbuilt : launch.builder.build settings s = built) (hengine : built.result = .ok engine)
      (hdeployed : engine.deploy (.ofResource settings.processResource) built.state = deployed)
      (hdeployment : deployed.result = .ok deployment)
      (hanswered : engine.start settings.processDefinitionKey deployed.state = answered)
      (hresult : answered.result = .error e) :
      Course origin s (.error (.instanceStart e)) [.configured, .deployed, .failed]
        (engine.close answered.state).state
        (launch.loadTrace ++ launch.settingsTrace ++ buildTrace settings built ++
          [.launchEvent (.transition origin .configured)] ++
          deployTrace .configured settings deployed ++ startTrace .deployed settings answered ++
          closeTrace (engine.close answered.state) ++ failureTrace .deployed (.instanceStart e))
  | completed {settings : EngineSettings} {built : Reply σ (Engine σ)} {engine : Engine σ}
      {deployed : Reply σ Deployment} {deployment : Deployment}
      {answered : Reply σ ProcessInstance} {started : ProcessInstance}
      (hsettings : launch.settings = .ok settings)
      (hbuilt : launch.builder.build settings s = built) (hengine : built.result = .ok engine)
      (hdeployed : engine.deploy (.ofResource settings.processResource) built.state = deployed)
      (hdeployment : deployed.result = .ok deployment)
      (hanswered : engine.start settings.processDefinitionKey deployed.state = answered)
      (hstarted : answered.result = .ok started) :
      Course origin s (.ok ⟨deployment, started⟩) [.configured, .deployed, .started, .closed]
        (engine.close answered.state).state
        (launch.loadTrace ++ launch.settingsTrace ++ buildTrace settings built ++
          [.launchEvent (.transition origin .configured)] ++
          deployTrace .configured settings deployed ++ startTrace .deployed settings answered ++
          closeTrace (engine.close answered.state) ++
          [.launchEvent (.transition .started .closed)])

/-- Every run takes a course, and its lifecycle goes through the states that the course visits. -/
theorem exists_course (lifecycle : Lifecycle) (s : σ) :
    ∃ visited,
      (launch.run lifecycle s).lifecycle = visited.foldl Lifecycle.advance lifecycle ∧
      launch.Course lifecycle.state s (launch.run lifecycle s).result visited
        (launch.run lifecycle s).engineState (launch.run lifecycle s).trace := by
  simp only [run, runFrom, configure_eq]
  -- the cases follow the order of the steps: each failure closes one course, and the next step is
  -- looked at only behind a success
  cases hsettings : launch.settings with
  | error e =>
      refine ⟨[.failed], ?_⟩
      simp only [LaunchState.fail_eq, LaunchState.note, List.nil_append]
      exact ⟨rfl, .unset hsettings⟩
  | ok settings =>
      simp only [build_eq, LaunchState.note, List.nil_append]
      -- a reply is named before its result is known: a course speaks of its state and log too
      generalize hbuilt : launch.builder.build settings s = built
      cases hengine : built.result with
      | error e =>
          refine ⟨[.failed], ?_⟩
          simp only [mapError_error, LaunchState.fail_eq]
          exact ⟨rfl, .unbuilt hsettings hbuilt hengine⟩
      | ok engine =>
          simp only [mapError_ok, deployAndStart, deploy_eq, LaunchState.transition_eq]
          generalize hdeployed :
            engine.deploy (.ofResource settings.processResource) built.state = deployed
          cases hdeployment : deployed.result with
          | error e =>
              -- from here on the engine is closed before the launch fails
              refine ⟨[.configured, .failed], ?_⟩
              simp only [advanceOn, close_eq, LaunchState.fail_eq]
              exact ⟨rfl, .undeployed hsettings hbuilt hengine hdeployed hdeployment⟩
          | ok deployment =>
              simp only [mapError_ok, start_eq]
              generalize hanswered :
                engine.start settings.processDefinitionKey deployed.state = answered
              cases hstarted : answered.result with
              | error e =>
                  refine ⟨[.configured, .deployed, .failed], ?_⟩
                  simp only [advanceOn, close_eq, LaunchState.fail_eq]
                  exact ⟨rfl, .unstarted hsettings hbuilt hengine hdeployed hdeployment hanswered
                    hstarted⟩
              | ok started =>
                  refine ⟨[.configured, .deployed, .started, .closed], ?_⟩
                  simp only [advanceOn, close_eq]
                  exact ⟨rfl, .completed hsettings hbuilt hengine hdeployed hdeployment hanswered
                    hstarted⟩

end Launch

end ProcessLaunch
