import ProcessLaunch.Config.Source
import ProcessLaunch.Engine.Basic
import ProcessLaunch.Launch.Trace
import ProcessLaunch.Lifecycle.History

/-!
# Launches

A launch reads the configuration, builds an engine, deploys the configured resource, starts one
instance of the configured process and closes the engine.  Each step is attempted once, and the
first failure ends the launch.  An engine that has been built is closed once, and a failure to close
it changes nothing about how the launch ends.
-/

namespace ProcessLaunch

structure Launch (σ : Type) where
  disk : Disk
  source : ConfigSource
  printConfig : Bool
  builder : EngineBuilder σ

structure LaunchReport where
  deployment : Deployment
  started : ProcessInstance
deriving DecidableEq, Repr

/-- How far a launch has come: its lifecycle, the state of the engine, and what has happened. -/
structure LaunchState (σ : Type) where
  lifecycle : Lifecycle
  engineState : σ
  trace : Trace

abbrev LaunchStep (σ α : Type) := LaunchState σ → Except WorkflowError α × LaunchState σ

namespace LaunchState

variable {σ α : Type}

def note (s : LaunchState σ) (items : Trace) : LaunchState σ := { s with trace := s.trace ++ items }

def say (s : LaunchState σ) (notice : Notice) : LaunchState σ := s.note [.said notice]

def transition (s : LaunchState σ) (next : LifecycleState) : LaunchState σ :=
  { s.note [.launchEvent (.transition s.lifecycle.state next)] with
    lifecycle := s.lifecycle.advance next }

def fail (s : LaunchState σ) (e : WorkflowError) : LaunchState σ :=
  (s.note [.launchEvent (.failed s.lifecycle.state e)]).transition .failed

def call (s : LaunchState σ) (call : EngineCall) (ask : σ → Reply σ α) :
    Except EngineError α × LaunchState σ :=
  let reply := ask s.engineState
  (reply.result,
    { s.note (.called call :: reply.log.map .engineRecord) with engineState := reply.state })

end LaunchState

namespace Launch

variable {σ : Type} (launch : Launch σ)

/-! ## Steps -/

def load : LaunchStep σ Config := fun s =>
  let loaded := Config.load launch.disk launch.source
  let s := s.note (loaded.notes.map .configEvent)
  match loaded.value with
  | .error e => (.error (.configurationLoad e), s)
  | .ok config =>
      let s := s.say (.configurationLoaded config.name)
      (.ok config, if launch.printConfig then s.say (.configuration config.dump) else s)

def readSettings (config : Config) : LaunchStep σ EngineSettings := fun s =>
  let read := EngineSettings.read config
  (read.value.mapError .configuration, s.note (read.notes.map .configEvent))

def build (settings : EngineSettings) : LaunchStep σ (Engine σ) := fun s =>
  match s.call .build (launch.builder.build settings) with
  | (.error e, s) => (.error (.engineConstruction e), s)
  | (.ok engine, s) => (.ok engine, s.say (.engineCreated engine.name settings))

def configure : LaunchStep σ (EngineSettings × Engine σ) := fun s =>
  match launch.load s with
  | (.error e, s) => (.error e, s)
  | (.ok config, s) =>
      match readSettings config s with
      | (.error e, s) => (.error e, s)
      | (.ok settings, s) =>
          match launch.build settings s with
          | (.error e, s) => (.error e, s)
          | (.ok engine, s) => (.ok (settings, engine), s)

def deploy (settings : EngineSettings) (engine : Engine σ) : LaunchStep σ Deployment := fun s =>
  let request := DeploymentRequest.ofResource settings.processResource
  match (s.say (.deploying settings.processResource)).call (.deploy request)
      (engine.deploy request) with
  | (.error e, s) => (.error (.deployment e), s)
  | (.ok deployment, s) => (.ok deployment, (s.transition .deployed).say .deployed)

def start (settings : EngineSettings) (engine : Engine σ) : LaunchStep σ ProcessInstance := fun s =>
  let key := settings.processDefinitionKey
  match (s.say (.starting key)).call (.start key) (engine.start key) with
  | (.error e, s) => (.error (.instanceStart e), s)
  | (.ok started, s) => (.ok started, (s.transition .started).say (.instanceStarted started))

def deployAndStart (settings : EngineSettings) (engine : Engine σ) : LaunchStep σ LaunchReport :=
  fun s =>
    match deploy settings engine s with
    | (.error e, s) => (.error e, s)
    | (.ok deployment, s) =>
        match start settings engine s with
        | (.error e, s) => (.error e, s)
        | (.ok started, s) => (.ok ⟨deployment, started⟩, s)

def close (engine : Engine σ) (s : LaunchState σ) : LaunchState σ :=
  match s.call .close engine.close with
  | (.error e, s) => s.note [.launchEvent (.closeFailed (.engineClose e))]
  | (.ok (), s) => s.say .engineClosed

/-! ## Runs -/

def runFrom : LaunchStep σ LaunchReport := fun s =>
  match launch.configure s with
  | (.error e, s) => (.error e, s.fail e)
  | (.ok (settings, engine), s) =>
      match deployAndStart settings engine (s.transition .configured) with
      | (.error e, s) => (.error e, (close engine s).fail e)
      | (.ok report, s) => (.ok report, (close engine s).transition .closed)

/-- How a run ended, how it left things, and what happened in it. -/
structure Outcome (σ : Type) where
  result : Except WorkflowError LaunchReport
  lifecycle : Lifecycle
  engineState : σ
  trace : Trace

def run (lifecycle : Lifecycle) (engineState : σ) : Outcome σ :=
  let (result, s) := launch.runFrom ⟨lifecycle, engineState, []⟩
  ⟨result, s.lifecycle, s.engineState, s.trace⟩

/-- Runs the launch a number of times, each run behind the one before. -/
def runs (lifecycle : Lifecycle) (engineState : σ) : Nat → List (Outcome σ)
  | 0 => []
  | n + 1 =>
      let outcome := launch.run lifecycle engineState
      outcome :: runs outcome.lifecycle outcome.engineState n

end Launch

end ProcessLaunch
