import ProcessLaunch.Engine.Basic

/-!
# Rehearsals

An engine for rehearsals accepts everything and answers from a prepared instance.  Any engine can be
made to refuse some of its operations.
-/

namespace ProcessLaunch

/-! ## Prepared answers -/

structure Rehearsal where
  engineName : String
  deploymentId : String
  started : ProcessInstance

namespace Rehearsal

variable {σ : Type}

/-- The engine of a rehearsal.  It deploys no definitions, and starts the prepared instance under
the key that is asked for. -/
def engine (rehearsal : Rehearsal) : Engine σ where
  name := rehearsal.engineName
  deploy request state := .ok ⟨rehearsal.deploymentId, request.name, []⟩ state
  start key state := .ok { rehearsal.started with definitionKey := key } state
  close state := .ok () state

def builder (rehearsal : Rehearsal) : EngineBuilder σ := ⟨fun _ state => .ok rehearsal.engine state⟩

end Rehearsal

/-! ## Refusals -/

structure Refusals where
  build : Option String
  deploy : Option String
  start : Option String
  close : Option String

namespace Refusals

variable {σ α : Type}

def guard (reason : Option String) (ask : σ → Reply σ α) (state : σ) : Reply σ α :=
  match reason with
  | some text => .error (.unavailable text) state
  | none => ask state

def engine (refusals : Refusals) (engine : Engine σ) : Engine σ where
  name := engine.name
  deploy request := guard refusals.deploy (engine.deploy request)
  start key := guard refusals.start (engine.start key)
  close := guard refusals.close engine.close

def builder (refusals : Refusals) (builder : EngineBuilder σ) : EngineBuilder σ where
  build settings := guard refusals.build fun state =>
    (builder.build settings state).map refusals.engine

end Refusals

end ProcessLaunch
