import Mathlib.Data.List.Chain
import ProcessLaunch.Proofs.Launch.Protocol

/-!
# The report of a launch

What a launch says to its user and what it logs, against the states that it went through and the way
it ended, for every engine whose operations may succeed or fail in any way.
-/

namespace ProcessLaunch

/-! ## 1. What is said and logged in one step -/

section Steps

variable {σ α : Type}

@[simp] theorem Reply.notices_trace (reply : Reply σ α) (call : EngineCall) :
    (reply.trace call).notices = [] := by
  simp [Reply.trace]

@[simp] theorem Reply.launchEvents_trace (reply : Reply σ α) (call : EngineCall) :
    (reply.trace call).launchEvents = [] := by
  simp [Reply.trace]

@[simp] theorem notices_failureTrace (state : LifecycleState) (e : WorkflowError) :
    (failureTrace state e).notices = [] := rfl

@[simp] theorem launchEvents_failureTrace (state : LifecycleState) (e : WorkflowError) :
    (failureTrace state e).launchEvents = [.failed state e, .transition state .failed] := rfl

def closeNotices (reply : Reply σ Unit) : List Notice :=
  match reply.result with
  | .error _ => []
  | .ok () => [.engineClosed]

def closeEvents (reply : Reply σ Unit) : List LaunchEvent :=
  match reply.result with
  | .error e => [.closeFailed (.engineClose e)]
  | .ok () => []

@[simp] theorem notices_closeTrace (reply : Reply σ Unit) :
    (closeTrace reply).notices = closeNotices reply := by
  cases h : reply.result <;> simp [closeTrace, closeNotices, h]

@[simp] theorem launchEvents_closeTrace (reply : Reply σ Unit) :
    (closeTrace reply).launchEvents = closeEvents reply := by
  cases h : reply.result <;> simp [closeTrace, closeEvents, h]

/-- Whether the engine closes makes no difference to the lifecycle. -/
theorem steps_closing (front back : List LaunchEvent) (reply : Reply σ Unit) :
    LaunchEvent.steps (front ++ closeEvents reply ++ back) =
      LaunchEvent.steps front ++ LaunchEvent.steps back := by
  cases h : reply.result <;> simp [LaunchEvent.steps, closeEvents, h]

theorem failures_closing (front back : List LaunchEvent) (reply : Reply σ Unit) :
    LaunchEvent.failures (front ++ closeEvents reply ++ back) =
      LaunchEvent.failures front ++ LaunchEvent.failures back := by
  cases h : reply.result <;> simp [LaunchEvent.failures, closeEvents, h]

end Steps

namespace Launch

variable {σ : Type} (launch : Launch σ)

def loadNotices : List Notice :=
  match launch.loaded with
  | .error _ => []
  | .ok config =>
      .configurationLoaded config.name ::
        if launch.printConfig then [.configuration config.dump] else []

@[simp] theorem notices_loadTrace : launch.loadTrace.notices = launch.loadNotices := by
  unfold loadTrace loadNotices
  cases launch.loaded with
  | error e => simp
  | ok config => cases launch.printConfig <;> simp

@[simp] theorem launchEvents_loadTrace : launch.loadTrace.launchEvents = [] := by
  unfold loadTrace
  cases launch.loaded with
  | error e => simp
  | ok config => cases launch.printConfig <;> simp

@[simp] theorem notices_settingsTrace : launch.settingsTrace.notices = [] := by
  unfold settingsTrace
  cases launch.loaded <;> simp

@[simp] theorem launchEvents_settingsTrace : launch.settingsTrace.launchEvents = [] := by
  unfold settingsTrace
  cases launch.loaded <;> simp

@[simp] theorem notices_buildTrace (settings : EngineSettings) (reply : Reply σ (Engine σ)) :
    (buildTrace settings reply).notices =
      match reply.result with
      | .error _ => []
      | .ok engine => [.engineCreated engine.name settings] := by
  cases h : reply.result <;> simp [buildTrace, h]

@[simp] theorem launchEvents_buildTrace (settings : EngineSettings) (reply : Reply σ (Engine σ)) :
    (buildTrace settings reply).launchEvents = [] := by
  cases h : reply.result <;> simp [buildTrace, h]

/-- A deployment is announced, and confirmed if it succeeded. -/
@[simp] theorem notices_deployTrace (origin : LifecycleState) (settings : EngineSettings)
    (reply : Reply σ Deployment) :
    (deployTrace origin settings reply).notices =
      .deploying settings.processResource ::
        match reply.result with
        | .error _ => []
        | .ok _ => [.deployed] := by
  cases h : reply.result <;> simp [deployTrace, h]

@[simp] theorem launchEvents_deployTrace (origin : LifecycleState) (settings : EngineSettings)
    (reply : Reply σ Deployment) :
    (deployTrace origin settings reply).launchEvents =
      match reply.result with
      | .error _ => []
      | .ok _ => [.transition origin .deployed] := by
  cases h : reply.result <;> simp [deployTrace, h]

/-- A start is announced, and the instance is shown if it succeeded. -/
@[simp] theorem notices_startTrace (origin : LifecycleState) (settings : EngineSettings)
    (reply : Reply σ ProcessInstance) :
    (startTrace origin settings reply).notices =
      .starting settings.processDefinitionKey ::
        match reply.result with
        | .error _ => []
        | .ok started => [.instanceStarted started] := by
  cases h : reply.result <;> simp [startTrace, h]

@[simp] theorem launchEvents_startTrace (origin : LifecycleState) (settings : EngineSettings)
    (reply : Reply σ ProcessInstance) :
    (startTrace origin settings reply).launchEvents =
      match reply.result with
      | .error _ => []
      | .ok _ => [.transition origin .started] := by
  cases h : reply.result <;> simp [startTrace, h]

end Launch

/-! ## 2. The report -/

inductive ReportItem where
  | loaded
  | dump
  | engine
  | deploying
  | deployed
  | starting
  | started
  | closed
deriving DecidableEq, Repr

def ReportItem.inOrder : List ReportItem :=
  [.loaded, .dump, .engine, .deploying, .deployed, .starting, .started, .closed]

namespace Launch

variable {σ : Type} (launch : Launch σ)

/-- When a part is due in the report of a run with this history. -/
def Due (s : σ) (history : List LifecycleState) : ReportItem → Prop
  | .loaded => ∃ config, launch.loaded = .ok config
  | .dump => (∃ config, launch.loaded = .ok config) ∧ launch.printConfig = true
  | .engine | .deploying => .configured ∈ history
  | .deployed | .starting => .deployed ∈ history
  | .started => .started ∈ history
  | .closed => ∃ settings engine, launch.Builds s settings engine ∧
      (engine.close (launch.stateAtClose s settings engine)).result = .ok ()

/-- The lines of a part, and what has come about when they are printed. -/
inductive Prints (s : σ) : ReportItem → List String → Prop
  | loaded {config : Config} (h : launch.loaded = .ok config) :
      Prints s .loaded [s!"Configuration loaded successfully from {config.name}"]
  | dump {config : Config} (h : launch.loaded = .ok config) : Prints s .dump [config.dump]
  | engine {settings : EngineSettings} {engine : Engine σ} (h : launch.Builds s settings engine) :
      Prints s .engine
        [String.ofList (List.replicate 80 '='),
          s!"Process Engine ({engine.name}) created successfully",
          String.ofList (List.replicate 80 '='),
          "Process Engine initialized with:",
          s!"  - Database URL: {settings.dataSource.url}",
          s!"  - Schema Update: {settings.schemaUpdate.text}",
          s!"  - Max Connections: {settings.dataSource.maxConnections}",
          s!"  - Min Idle Connections: {settings.dataSource.minIdle}",
          s!"  - Job Executor Active: {settings.jobExecutorActivate}"]
  | deploying {settings : EngineSettings} {engine : Engine σ}
      (h : launch.Builds s settings engine) :
      Prints s .deploying [s!"Deploying process from: {settings.processResource}"]
  | deployed {settings : EngineSettings} {engine : Engine σ} {deployment : Deployment}
      (h : launch.Deploys s settings engine deployment) :
      Prints s .deployed ["Process deployed successfully!"]
  | starting {settings : EngineSettings} {engine : Engine σ} {deployment : Deployment}
      (h : launch.Deploys s settings engine deployment) :
      Prints s .starting
        [s!"Starting process instance for key: {settings.processDefinitionKey}"]
  | started {settings : EngineSettings} {engine : Engine σ} {deployment : Deployment}
      {started : ProcessInstance} (h : launch.Deploys s settings engine deployment)
      (hstarted : (launch.startReply s settings engine).result = .ok started) :
      Prints s .started
        [String.ofList (List.replicate 80 '-'),
          "Process Instance Started:",
          s!"  Instance ID: {started.id}",
          s!"  Process Definition Key: {started.definitionKey}",
          s!"  Process Definition ID: {started.definitionId}",
          "  Business Key: " ++ started.businessKey.getD "null",
          s!"  Is Ended: {started.ended}",
          s!"  Is Suspended: {started.suspended}",
          String.ofList (List.replicate 80 '-')]
  | closed {settings : EngineSettings} {engine : Engine σ} (h : launch.Builds s settings engine)
      (hclosed : (engine.close (launch.stateAtClose s settings engine)).result = .ok ()) :
      Prints s .closed ["Process Engine closed successfully!"]

/-- What is printed for a part: its lines if it is due, and nothing if it is not. -/
inductive Printed (s : σ) (history : List LifecycleState) (item : ReportItem) : List String → Prop
  | due {lines : List String} (hdue : launch.Due s history item)
      (hlines : launch.Prints s item lines) : Printed s history item lines
  | skipped (hnot : ¬launch.Due s history item) : Printed s history item []

/-- What is logged and said in the courses of a run, by how far they come. -/
inductive Shown (origin : LifecycleState) (s : σ) :
    Except WorkflowError LaunchReport → List LifecycleState → List LaunchEvent → List Notice → Prop
  | unbuilt {e : WorkflowError} (hno : ∀ settings engine, ¬launch.Builds s settings engine) :
      Shown origin s (.error e) [.failed] [.failed origin e, .transition origin .failed]
        launch.loadNotices
  | undeployed {settings : EngineSettings} {engine : Engine σ} {closed : Reply σ Unit}
      {e : EngineError} (hbuilds : launch.Builds s settings engine)
      (hclosed : engine.close (launch.stateAtClose s settings engine) = closed) :
      Shown origin s (.error (.deployment e)) [.configured, .failed]
        ([.transition origin .configured] ++ closeEvents closed ++
          [.failed .configured (.deployment e), .transition .configured .failed])
        (launch.loadNotices ++
          [.engineCreated engine.name settings, .deploying settings.processResource] ++
          closeNotices closed)
  | unstarted {settings : EngineSettings} {engine : Engine σ} {deployment : Deployment}
      {closed : Reply σ Unit} {e : EngineError}
      (hdeploys : launch.Deploys s settings engine deployment)
      (hclosed : engine.close (launch.stateAtClose s settings engine) = closed) :
      Shown origin s (.error (.instanceStart e)) [.configured, .deployed, .failed]
        ([.transition origin .configured, .transition .configured .deployed] ++
          closeEvents closed ++
          [.failed .deployed (.instanceStart e), .transition .deployed .failed])
        (launch.loadNotices ++
          [.engineCreated engine.name settings, .deploying settings.processResource, .deployed,
            .starting settings.processDefinitionKey] ++
          closeNotices closed)
  | completed {settings : EngineSettings} {engine : Engine σ} {deployment : Deployment}
      {started : ProcessInstance} {closed : Reply σ Unit}
      (hdeploys : launch.Deploys s settings engine deployment)
      (hstarted : (launch.startReply s settings engine).result = .ok started)
      (hclosed : engine.close (launch.stateAtClose s settings engine) = closed) :
      Shown origin s (.ok ⟨deployment, started⟩) [.configured, .deployed, .started, .closed]
        ([.transition origin .configured, .transition .configured .deployed,
            .transition .deployed .started] ++
          closeEvents closed ++ [.transition .started .closed])
        (launch.loadNotices ++
          [.engineCreated engine.name settings, .deploying settings.processResource, .deployed,
            .starting settings.processDefinitionKey, .instanceStarted started] ++
          closeNotices closed)

variable {launch} {origin : LifecycleState} {s t : σ} {visited : List LifecycleState}
  {result : Except WorkflowError LaunchReport} {trace : Trace}

/-- What is shown of a run follows the course that it takes. -/
theorem Course.shown (h : launch.Course origin s result visited t trace) :
    launch.Shown origin s result visited trace.launchEvents trace.notices := by
  cases h with
  -- up to the engine, nothing but the configuration is said, and a refusal is logged the same way
  | unset hsettings => simpa using .unbuilt (launch.not_builds_of_settings hsettings)
  | unbuilt hsettings hbuilt hresult =>
      subst hbuilt
      have hno := launch.not_builds_of_refused ((launch.hasSettings_iff _).mpr hsettings) hresult
      simpa [hresult] using .unbuilt hno
  -- behind it, the replies that the course names are those that the engine gives in this state
  | @undeployed _ _ _ _ e hsettings hbuilt hengine hdeployed hresult =>
      subst hbuilt hdeployed
      have hbuilds : launch.Builds s _ _ := ⟨(launch.hasSettings_iff _).mpr hsettings, hengine⟩
      have hshown : launch.Shown origin s (.error (.deployment e)) _ _ _ := .undeployed hbuilds rfl
      simpa [hengine, hresult, stateAtClose, deployReply] using hshown
  | @unstarted _ _ _ _ _ _ e hsettings hbuilt hengine hdeployed hdeployment hanswered hresult =>
      subst hbuilt hdeployed hanswered
      have hbuilds : launch.Builds s _ _ := ⟨(launch.hasSettings_iff _).mpr hsettings, hengine⟩
      have hshown : launch.Shown origin s (.error (.instanceStart e)) _ _ _ :=
        .unstarted ⟨hbuilds, hdeployment⟩ rfl
      simpa [hengine, hdeployment, hresult, stateAtClose, deployReply, startReply] using hshown
  | completed hsettings hbuilt hengine hdeployed hdeployment hanswered hstarted =>
      subst hbuilt hdeployed hanswered
      have hbuilds : launch.Builds s _ _ := ⟨(launch.hasSettings_iff _).mpr hsettings, hengine⟩
      have hshown : launch.Shown origin s _ _ _ _ := .completed ⟨hbuilds, hdeployment⟩ hstarted rfl
      simpa [hengine, hdeployment, hstarted, stateAtClose, deployReply, startReply] using hshown

variable {events : List LaunchEvent} {notices : List Notice}

/-! ## 4. The log of a run -/

/-- The states between which the lifecycle goes on are neighbours in what it visits. -/
theorem Shown.steps_eq (h : launch.Shown origin s result visited events notices) :
    LaunchEvent.steps events = (origin :: visited).zip visited := by
  cases h with
  | unbuilt hno => rfl
  | undeployed hbuilds hclosed => exact steps_closing _ _ _
  | unstarted hdeploys hclosed => exact steps_closing _ _ _
  | completed hdeploys hstarted hclosed => exact steps_closing _ _ _

/-- A run that fails logs its failure once, with the state that it was in. -/
theorem Shown.failed {e : WorkflowError}
    (h : launch.Shown origin s (.error e) visited events notices) :
    ∃ before state, origin :: visited = before ++ [state, .failed] ∧
      LaunchEvent.failures events = [(state, e)] := by
  cases h with
  | unbuilt hno => exact ⟨[], origin, rfl, rfl⟩
  | undeployed hbuilds hclosed =>
      exact ⟨[origin], .configured, rfl, failures_closing _ _ _⟩
  | unstarted hdeploys hclosed =>
      exact ⟨[origin, .configured], .deployed, rfl, failures_closing _ _ _⟩

/-- The lines of the configuration, which come first whatever becomes of the run. -/
theorem exists_load_parts (launch : Launch σ) (s : σ) (history : List LifecycleState) :
    ∃ loaded dump, launch.Printed s history .loaded loaded ∧ launch.Printed s history .dump dump ∧
      launch.loadNotices.flatMap Notice.lines = loaded ++ dump := by
  unfold loadNotices
  cases hload : launch.loaded with
  | error e =>
      have hnot : ¬∃ config, launch.loaded = .ok config := by simp [hload]
      exact ⟨[], [], .skipped hnot, .skipped fun hdue => hnot hdue.1, rfl⟩
  | ok config =>
      have hdue : ∃ config, launch.loaded = .ok config := ⟨config, hload⟩
      cases hprint : launch.printConfig with
      | false =>
          have hnot : ¬launch.Due s history .dump := by simp [Due, hprint]
          exact ⟨_, [], .due hdue (.loaded hload), .skipped hnot, rfl⟩
      | true =>
          exact ⟨_, _, .due hdue (.loaded hload), .due ⟨hdue, hprint⟩ (.dump hload), rfl⟩

/-- The confirmation is printed when the engine has closed. -/
theorem printed_closed {settings : EngineSettings} {engine : Engine σ}
    (hbuilds : launch.Builds s settings engine) (history : List LifecycleState) :
    launch.Printed s history .closed
      ((closeNotices (engine.close (launch.stateAtClose s settings engine))).flatMap
        Notice.lines) := by
  unfold closeNotices
  cases hclosed : (engine.close (launch.stateAtClose s settings engine)).result with
  | error e =>
      apply Printed.skipped
      rintro ⟨settings', engine', hbuilds', hok⟩
      -- whichever engine is said to have been closed, it is the one that was built
      obtain ⟨rfl, rfl⟩ := hbuilds.unique hbuilds'
      rw [hclosed] at hok
      cases hok
  | ok _ => exact .due ⟨_, _, hbuilds, hclosed⟩ (.closed hbuilds hclosed)

theorem flagText_eq (b : Bool) : Notice.flagText b = toString b := by
  cases b <;> rfl

theorem prints_engine {settings : EngineSettings} {engine : Engine σ}
    (hbuilds : launch.Builds s settings engine) :
    launch.Prints s .engine (Notice.engineCreated engine.name settings).lines := by
  have hprints := Prints.engine hbuilds
  rw [← flagText_eq] at hprints
  exact hprints

theorem prints_started {settings : EngineSettings} {engine : Engine σ} {deployment : Deployment}
    {started : ProcessInstance} (hdeploys : launch.Deploys s settings engine deployment)
    (hstarted : (launch.startReply s settings engine).result = .ok started) :
    launch.Prints s .started (Notice.instanceStarted started).lines := by
  have hprints := Prints.started hdeploys hstarted
  rw [← flagText_eq, ← flagText_eq] at hprints
  exact hprints

/-- The lines of a run that comes to an engine: those of the configuration, what is printed in the
middle, and those of the close. -/
theorem exists_parts {settings : EngineSettings} {engine : Engine σ} {middle : List Notice}
    {history : List LifecycleState} {deploying deployed starting started : List String}
    (hbuilds : launch.Builds s settings engine) (hconfigured : .configured ∈ history)
    (hdeploying : launch.Printed s history .deploying deploying)
    (hdeployed : launch.Printed s history .deployed deployed)
    (hstarting : launch.Printed s history .starting starting)
    (hstarted : launch.Printed s history .started started)
    (hmiddle : middle.flatMap Notice.lines = (Notice.engineCreated engine.name settings).lines ++
      (deploying ++ (deployed ++ (starting ++ started)))) :
    ∃ parts : List (List String),
      List.Forall₂ (launch.Printed s history) ReportItem.inOrder parts ∧
        (launch.loadNotices ++ middle ++
          closeNotices (engine.close (launch.stateAtClose s settings engine))).flatMap
            Notice.lines = parts.flatten := by
  obtain ⟨loaded, dump, hloaded, hdump, hload⟩ := exists_load_parts launch s history
  have hengine : launch.Printed s history .engine _ := .due hconfigured (prints_engine hbuilds)
  refine ⟨_, .cons hloaded (.cons hdump (.cons hengine (.cons hdeploying (.cons hdeployed
    (.cons hstarting (.cons hstarted (.cons (printed_closed hbuilds history) .nil))))))), ?_⟩
  rw [List.flatMap_append, List.flatMap_append, hload, hmiddle]
  simp only [List.flatten_cons, List.flatten_nil, List.append_nil, List.append_assoc]

/-- In every course the lines are those of the parts that are due. -/
theorem Shown.printed (h : launch.Shown .unstarted s result visited events notices) :
    ∃ parts : List (List String),
      List.Forall₂ (launch.Printed s (.unstarted :: visited)) ReportItem.inOrder parts ∧
        notices.flatMap Notice.lines = parts.flatten := by
  cases h with
  | unbuilt hno =>
      obtain ⟨loaded, dump, hloaded, hdump, hload⟩ :=
        exists_load_parts launch s [.unstarted, .failed]
      -- none of the later parts is due, since no state behind the failure was reached
      have hskipped (item : ReportItem)
          (hitem : item ∈ [ReportItem.engine, .deploying, .deployed, .starting, .started]) :
          launch.Printed s [.unstarted, .failed] item [] := by
        apply Printed.skipped
        simp only [List.mem_cons, List.not_mem_nil, or_false] at hitem
        rcases hitem with rfl | rfl | rfl | rfl | rfl <;> simp [Due]
      have hclosed : launch.Printed s [.unstarted, .failed] .closed [] :=
        .skipped fun ⟨_, _, hbuilds, _⟩ => hno _ _ hbuilds
      refine ⟨_, .cons hloaded (.cons hdump (.cons (hskipped _ (by decide))
        (.cons (hskipped _ (by decide)) (.cons (hskipped _ (by decide))
          (.cons (hskipped _ (by decide)) (.cons (hskipped _ (by decide))
            (.cons hclosed .nil))))))), ?_⟩
      rw [hload]
      simp only [List.flatten_cons, List.flatten_nil, List.append_nil]
  | undeployed hbuilds hclosed =>
      subst hclosed
      -- announced, but neither confirmed nor followed by a start
      refine exists_parts hbuilds (by decide) (.due (by simp [Due]) (.deploying hbuilds))
        (.skipped ?_) (.skipped ?_) (.skipped ?_) rfl
      · simp [Due]
      · simp [Due]
      · simp [Due]
  | unstarted hdeploys hclosed =>
      subst hclosed
      refine exists_parts hdeploys.1 (by decide) (.due (by simp [Due]) (.deploying hdeploys.1))
        (.due (by simp [Due]) (.deployed hdeploys)) (.due (by simp [Due]) (.starting hdeploys))
        (.skipped ?_) rfl
      simp [Due]
  | completed hdeploys hstarted hclosed =>
      subst hclosed
      exact exists_parts hdeploys.1 (by decide) (.due (by simp [Due]) (.deploying hdeploys.1))
        (.due (by simp [Due]) (.deployed hdeploys)) (.due (by simp [Due]) (.starting hdeploys))
        (.due (by simp [Due]) (prints_started hdeploys hstarted)) rfl

/-! ## 6. One run -/

end Launch

end ProcessLaunch
