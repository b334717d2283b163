import ProcessLaunch.Engine.Basic

/-!
# Steps

What can be asked of a running engine, as data, and what it answers step by step.
-/

namespace ProcessLaunch

inductive EngineStep where
  | deploy (request : DeploymentRequest)
  | start (key : String)
  | close
  | name
deriving DecidableEq, Repr

inductive EngineAnswer where
  | deployed (deployment : Deployment)
  | started (started : ProcessInstance)
  | closed
  | name (text : String)
  | refused (error : EngineError)
deriving DecidableEq, Repr

namespace EngineAnswer

variable {α : Type}

def ofResult (wrap : α → EngineAnswer) : Except EngineError α → EngineAnswer
  | .ok value => wrap value
  | .error e => refused e

end EngineAnswer

structure StepOutcome (σ : Type) where
  answer : EngineAnswer
  log : List LogRecord
  state : σ

namespace Reply

variable {σ α : Type}

def outcome (reply : Reply σ α) (wrap : α → EngineAnswer) : StepOutcome σ :=
  ⟨.ofResult wrap reply.result, reply.log, reply.state⟩

end Reply

namespace Engine

variable {σ : Type}

def step (engine : Engine σ) (state : σ) : EngineStep → StepOutcome σ
  | .deploy request => (engine.deploy request state).outcome .deployed
  | .start key => (engine.start key state).outcome .started
  | .close => (engine.close state).outcome fun _ => .closed
  | .name => ⟨.name engine.name, [], state⟩

def steps (engine : Engine σ) (state : σ) : List EngineStep → List (StepOutcome σ)
  | [] => []
  | step :: rest =>
      let outcome := engine.step state step
      outcome :: steps engine outcome.state rest

end Engine

namespace EngineBuilder

variable {σ : Type}

/-- What building an engine came to, by its name, and then what each step came to.  Where no engine
was built there are no steps. -/
def steps (builder : EngineBuilder σ) (settings : EngineSettings) (state : σ)
    (steps : List EngineStep) : StepOutcome σ × List (StepOutcome σ) :=
  let reply := builder.build settings state
  (reply.outcome fun engine => .name engine.name,
    match reply.result with
    | .ok engine => engine.steps reply.state steps
    | .error _ => [])

end EngineBuilder

end ProcessLaunch
