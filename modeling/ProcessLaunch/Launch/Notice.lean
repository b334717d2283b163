import ProcessLaunch.Config.Basic
import ProcessLaunch.Process
import ProcessLaunch.Settings

/-!
# Notices

What a launch tells its user while it goes on.
-/

namespace ProcessLaunch

inductive Notice where
  | configurationLoaded (name : String)
  | configuration (dump : String)
  | engineCreated (engine : String) (settings : EngineSettings)
  | deploying (resource : String)
  | deployed
  | starting (key : String)
  | instanceStarted (started : ProcessInstance)
  | engineClosed
deriving DecidableEq

namespace Notice

def flagText : Bool → String
  | true => "true"
  | false => "false"

def engineLines (engine : String) (settings : EngineSettings) : List String :=
  [Config.ruler '=',
    s!"Process Engine ({engine}) created successfully",
    Config.ruler '=',
    "Process Engine initialized with:",
    s!"  - Database URL: {settings.dataSource.url}",
    s!"  - Schema Update: {settings.schemaUpdate.text}",
    s!"  - Max Connections: {settings.dataSource.maxConnections}",
    s!"  - Min Idle Connections: {settings.dataSource.minIdle}",
    s!"  - Job Executor Active: {flagText settings.jobExecutorActivate}"]

def instanceLines (started : ProcessInstance) : List String :=
  let businessKey := started.businessKey.getD "null"
  [Config.ruler '-',
    "Process Instance Started:",
    s!"  Instance ID: {started.id}",
    s!"  Process Definition Key: {started.definitionKey}",
    s!"  Process Definition ID: {started.definitionId}",
    s!"  Business Key: {businessKey}",
    s!"  Is Ended: {flagText started.ended}",
    s!"  Is Suspended: {flagText started.suspended}",
    Config.ruler '-']

def lines : Notice → List String
  | configurationLoaded name => [s!"Configuration loaded successfully from {name}"]
  | configuration dump => [dump]
  | engineCreated engine settings => engineLines engine settings
  | deploying resource => [s!"Deploying process from: {resource}"]
  | deployed => ["Process deployed successfully!"]
  | starting key => [s!"Starting process instance for key: {key}"]
  | instanceStarted started => instanceLines started
  | engineClosed => ["Process Engine closed successfully!"]

end Notice

end ProcessLaunch
