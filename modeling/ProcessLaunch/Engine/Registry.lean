import ProcessLaunch.Bpmn
import ProcessLaunch.File
import ProcessLaunch.Failure
import ProcessLaunch.Process
import ProcessLaunch.Table

/-!
# Registries

A registry keeps deployments, the versions of each definition key in the order of their deployment,
and the instances that were started.  A refused operation leaves the registry and the supply of ids
as they were.
-/

namespace ProcessLaunch

/-- A supply of ids: the text of each id by its number, and how many have been issued. -/
structure IdSupply where
  text : Nat → String
  issued : Nat

namespace IdSupply

def next (ids : IdSupply) : String := ids.text (ids.issued + 1)

def advance (ids : IdSupply) : IdSupply := { ids with issued := ids.issued + 1 }

end IdSupply

structure Registry where
  deployments : List Deployment
  definitions : Table (List ProcessDefinition)
  instances : Table ProcessInstance
deriving DecidableEq

namespace Registry

def empty : Registry := ⟨[], ∅, ∅⟩

instance : EmptyCollection Registry := ⟨empty⟩

instance : Inhabited Registry := ⟨empty⟩

def versions (registry : Registry) (key : String) : List ProcessDefinition :=
  (registry.definitions.get? key).getD []

def latestDefinitions (registry : Registry) : List ProcessDefinition :=
  registry.definitions.values.filterMap List.getLast?

def instance? (registry : Registry) (id : String) : Option ProcessInstance :=
  registry.instances.get? id

def deploymentCount (registry : Registry) : Nat := registry.deployments.length

/-! ## Deployment -/

/-- The next version of a key under a fresh id.  Versions are counted without a bound. -/
def nextDefinition (registry : Registry) (ids : IdSupply) (resource key : String) :
    ProcessDefinition :=
  let version := (registry.versions key).length + 1
  { id := s!"{key}:{version}:{ids.next}", key, version, resource }

/-- As long as 32 bits hold the number of the version, they count the same. -/
theorem version_nextDefinition {registry : Registry} {key : String}
    (h : (registry.versions key).length + 1 < UInt32.size) (ids : IdSupply) (resource : String) :
    (registry.nextDefinition ids resource key).version =
      (UInt32.ofNat (registry.versions key).length + 1).toNat := by
  have hlength : (registry.versions key).length < UInt32.size := Nat.lt_of_succ_lt h
  show (registry.versions key).length + 1 = _
  rw [UInt32.toNat_add, UInt32.toNat_ofNat_of_lt' hlength]
  exact (Nat.mod_eq_of_lt h).symm

def addDefinition (registry : Registry) (definition : ProcessDefinition) : Registry :=
  { registry with
    definitions := registry.definitions.insert definition.key
      (registry.versions definition.key ++ [definition]) }

def addKeys (resource : String) :
    List String → Registry → IdSupply → List ProcessDefinition × Registry × IdSupply
  | [], registry, ids => ([], registry, ids)
  | key :: keys, registry, ids =>
      let definition := registry.nextDefinition ids resource key
      let (definitions, registry, ids) :=
        addKeys resource keys (registry.addDefinition definition) ids.advance
      (definition :: definitions, registry, ids)

/-- The keys that a resource defines: it has to be readable UTF-8 and to hold an executable
process. -/
def readKeys (disk : Disk) (root : String) (resource : String) :
    Except EngineError (List String) :=
  match disk.readText (Path.under root resource) with
  | .error cause => .error (.ofResource resource cause)
  | .ok text =>
      match Bpmn.executableProcessIds text with
      | .error e => .error (.invalidDefinition resource e.message)
      | .ok [] => .error (.invalidDefinition resource "no executable process found")
      | .ok keys => .ok keys

/-- The deployment of a request, under a fresh id behind those of its definitions. -/
def deploy (disk : Disk) (root : String) (request : DeploymentRequest) (registry : Registry)
    (ids : IdSupply) : Except EngineError (Deployment × Registry × IdSupply) :=
  match readKeys disk root request.resource with
  | .error e => .error e
  | .ok keys =>
      let (definitions, registry, ids) := addKeys request.resource keys registry ids
      let deployment : Deployment := { id := ids.next, name := request.name, definitions }
      .ok (deployment, { registry with deployments := registry.deployments ++ [deployment] },
        ids.advance)

/-! ## Instances -/

def start (key : String) (registry : Registry) (ids : IdSupply) :
    Except EngineError (ProcessInstance × Registry × IdSupply) :=
  match (registry.versions key).getLast? with
  | none => .error (.processDefinitionNotFound key)
  | some definition =>
      let started : ProcessInstance := {
        id := ids.next
        definitionKey := definition.key
        definitionId := definition.id
        businessKey := none
        ended := false
        suspended := false }
      .ok (started, { registry with instances := registry.instances.insert started.id started },
        ids.advance)

end Registry

end ProcessLaunch
