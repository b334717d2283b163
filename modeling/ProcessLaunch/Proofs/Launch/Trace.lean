import ProcessLaunch.Launch.Trace

/-!
# Views of a trace

What is said in a trace, what the launch logs in it and what is asked of an engine, part by part.
-/

namespace ProcessLaunch

/-! ## 1. Parts of a trace -/

namespace Trace

@[simp] theorem calls_nil : calls [] = [] := rfl

@[simp] theorem calls_append (first rest : Trace) :
    calls (first ++ rest) = calls first ++ calls rest :=
  List.filterMap_append ..

@[simp] theorem calls_said (notice : Notice) (rest : Trace) :
    calls (.said notice :: rest) = calls rest := rfl

@[simp] theorem calls_launchEvent (event : LaunchEvent) (rest : Trace) :
    calls (.launchEvent event :: rest) = calls rest := rfl

@[simp] theorem calls_called (call : EngineCall) (rest : Trace) :
    calls (.called call :: rest) = call :: calls rest := rfl

@[simp] theorem calls_configEvents (events : List ConfigEvent) :
    calls (events.map .configEvent) = [] := by
  simp [calls]

@[simp] theorem calls_engineRecords (records : List LogRecord) :
    calls (records.map .engineRecord) = [] := by
  simp [calls]

@[simp] theorem notices_nil : notices [] = [] := rfl

@[simp] theorem notices_append (first rest : Trace) :
    notices (first ++ rest) = notices first ++ notices rest :=
  List.filterMap_append ..

@[simp] theorem notices_said (notice : Notice) (rest : Trace) :
    notices (.said notice :: rest) = notice :: notices rest := rfl

@[simp] theorem notices_launchEvent (event : LaunchEvent) (rest : Trace) :
    notices (.launchEvent event :: rest) = notices rest := rfl

@[simp] theorem notices_called (call : EngineCall) (rest : Trace) :
    notices (.called call :: rest) = notices rest := rfl

@[simp] theorem notices_configEvents (events : List ConfigEvent) :
    notices (events.map .configEvent) = [] := by
  simp [notices]

@[simp] theorem notices_engineRecords (records : List LogRecord) :
    notices (records.map .engineRecord) = [] := by
  simp [notices]

@[simp] theorem launchEvents_nil : launchEvents [] = [] := rfl

@[simp] theorem launchEvents_append (first rest : Trace) :
    launchEvents (first ++ rest) = launchEvents first ++ launchEvents rest :=
  List.filterMap_append ..

@[simp] theorem launchEvents_said (notice : Notice) (rest : Trace) :
    launchEvents (.said notice :: rest) = launchEvents rest := rfl

@[simp] theorem launchEvents_launchEvent (event : LaunchEvent) (rest : Trace) :
    launchEvents (.launchEvent event :: rest) = event :: launchEvents rest := rfl

@[simp] theorem launchEvents_called (call : EngineCall) (rest : Trace) :
    launchEvents (.called call :: rest) = launchEvents rest := rfl

@[simp] theorem launchEvents_configEvents (events : List ConfigEvent) :
    launchEvents (events.map .configEvent) = [] := by
  simp [launchEvents]

@[simp] theorem launchEvents_engineRecords (records : List LogRecord) :
    launchEvents (records.map .engineRecord) = [] := by
  simp [launchEvents]

theorem lines_append (first rest : Trace) :
    lines (first ++ rest) = lines first ++ lines rest := by
  rw [lines, notices_append, List.flatMap_append]
  rfl

theorem log_append (first rest : Trace) : log (first ++ rest) = log first ++ log rest :=
  List.filterMap_append ..

end Trace

/-! ## 2. The records of a launch -/

namespace LaunchEvent

def steps (events : List LaunchEvent) : List (LifecycleState × LifecycleState) :=
  events.filterMap fun
    | .transition source target => some (source, target)
    | _ => none

def failures (events : List LaunchEvent) : List (LifecycleState × WorkflowError) :=
  events.filterMap fun
    | .failed state e => some (state, e)
    | _ => none

end LaunchEvent

namespace Trace

variable (trace : Trace)

end Trace

end ProcessLaunch
