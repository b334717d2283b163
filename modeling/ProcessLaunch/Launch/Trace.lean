import ProcessLaunch.Config.Event
import ProcessLaunch.Launch.Notice
import ProcessLaunch.Lifecycle.State

/-!
# Traces

A trace holds all that happens during a launch, in order: what is said to the user, what is logged,
and which operations of an engine are asked for.
-/

namespace ProcessLaunch

inductive EngineCall where
  | build
  | deploy (request : DeploymentRequest)
  | start (key : String)
  | close
deriving DecidableEq, Repr

inductive LaunchEvent where
  | transition (source target : LifecycleState)
  | failed (state : LifecycleState) (error : WorkflowError)
  | closeFailed (error : WorkflowError)
deriving DecidableEq, Repr

namespace LaunchEvent

def record : LaunchEvent → LogRecord
  | transition source target =>
      ⟨.debug, "Lifecycle transition",
        [("from", .shown source.text), ("to", .shown target.text)]⟩
  | failed state error =>
      ⟨.error, "Workflow run failed",
        [("state", .shown state.text), ("error", .shown error.message)]⟩
  | closeFailed error =>
      ⟨.error, "Error while closing Process Engine", [("error", .shown error.message)]⟩

end LaunchEvent

inductive TraceItem where
  | said (notice : Notice)
  | configEvent (event : ConfigEvent)
  | launchEvent (event : LaunchEvent)
  | engineRecord (record : LogRecord)
  | called (call : EngineCall)
deriving DecidableEq

abbrev Trace := List TraceItem

namespace Trace

def notices (trace : Trace) : List Notice :=
  trace.filterMap fun
    | .said notice => some notice
    | _ => none

def launchEvents (trace : Trace) : List LaunchEvent :=
  trace.filterMap fun
    | .launchEvent event => some event
    | _ => none

def calls (trace : Trace) : List EngineCall :=
  trace.filterMap fun
    | .called call => some call
    | _ => none

def log (trace : Trace) : List LogRecord :=
  trace.filterMap fun
    | .configEvent event => some event.record
    | .launchEvent event => some event.record
    | .engineRecord record => some record
    | _ => none

def lines (trace : Trace) : List String := trace.notices.flatMap Notice.lines

end Trace

end ProcessLaunch
