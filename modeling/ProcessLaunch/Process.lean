import ProcessLaunch.Path

/-!
# Processes

What is asked of a process engine and what it answers: deployment requests, the definitions that a
deployment brings, and started instances.
-/

namespace ProcessLaunch

structure DeploymentRequest where
  name : String
  resource : String
deriving DecidableEq, Repr

namespace DeploymentRequest

def defaultName : String := "deployment"

/-- A request named after the stem of its resource's file name. -/
def ofResource (resource : String) : DeploymentRequest where
  name :=
    match Path.fileName? resource.toList with
    | some file => String.ofList (Path.stem file)
    | none => defaultName
  resource := resource

@[simp] theorem resource_ofResource (resource : String) :
    (ofResource resource).resource = resource := rfl

end DeploymentRequest

structure ProcessDefinition where
  id : String
  key : String
  version : Nat
  resource : String
deriving DecidableEq, Repr

structure Deployment where
  id : String
  name : String
  definitions : List ProcessDefinition
deriving DecidableEq, Repr

structure ProcessInstance where
  id : String
  definitionKey : String
  definitionId : String
  businessKey : Option String
  ended : Bool
  suspended : Bool
deriving DecidableEq, Repr

end ProcessLaunch
