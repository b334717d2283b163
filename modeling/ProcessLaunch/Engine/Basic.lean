import ProcessLaunch.Failure
import ProcessLaunch.Log
import ProcessLaunch.Process
import ProcessLaunch.Settings

/-!
# Process engines

An engine acts on a state that only it knows.  Each of its operations answers with a result, with
the records that it logged, and with the state it leaves; nothing is assumed about which operations
succeed.  A builder makes an engine from settings.
-/

namespace ProcessLaunch

structure Reply (σ α : Type) where
  result : Except EngineError α
  log : List LogRecord
  state : σ

namespace Reply

variable {σ α β : Type}

def map (f : α → β) (reply : Reply σ α) : Reply σ β :=
  { reply with result := reply.result.map f }

def ok (value : α) (state : σ) : Reply σ α := ⟨.ok value, [], state⟩

def error (e : EngineError) (state : σ) : Reply σ α := ⟨.error e, [], state⟩

end Reply

structure Engine (σ : Type) where
  name : String
  deploy : DeploymentRequest → σ → Reply σ Deployment
  start : String → σ → Reply σ ProcessInstance
  close : σ → Reply σ Unit

structure EngineBuilder (σ : Type) where
  build : EngineSettings → σ → Reply σ (Engine σ)

end ProcessLaunch
