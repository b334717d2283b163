import ProcessLaunch.Json.Object
import ProcessLaunch.Process

/-!
# Answers of a remote engine

The shapes of the JSON that a remote engine answers with, and what they say about deployments and
instances.
-/

namespace ProcessLaunch.Rest

open Json

/-! ## Definitions -/

structure DefinitionFields where
  id : Option String
  key : Option String
  version : Option Nat
  resource : Option (Option String)

structure DefinitionAnswer where
  id : String
  key : String
  version : Nat
  resource : Option String
deriving DecidableEq, Repr

namespace DefinitionAnswer

def member (fields : DefinitionFields) (name : String) : Member DefinitionFields :=
  match name with
  | "id" => once name fields.id (string.map fun s => { fields with id := some s })
  | "key" => once name fields.key (string.map fun s => { fields with key := some s })
  | "version" => once name fields.version (natural32.map fun n => { fields with version := some n })
  | "resource" =>
      once name fields.resource
        ((optional string).map fun s => { fields with resource := some s })
  | _ => .skipped

def object : Reader DefinitionAnswer := do
  let fields ← members member ⟨none, none, none, none⟩
  let id ← requiredField "id" fields.id
  let key ← requiredField "key" fields.key
  let version ← requiredField "version" fields.version
  return ⟨id, key, version, fields.resource.join⟩

def arrayText : String := "a process definition with 4 elements"

def array : Reader DefinitionAnswer := do
  let id ← requiredElement 0 arrayText string
  let key ← requiredElement 1 arrayText string
  let version ← requiredElement 2 arrayText natural32
  let resource ← requiredElement 3 arrayText (optional string)
  endOfArray
  return ⟨id, key, version, resource⟩

def value : ValueReader DefinitionAnswer := recordOf "a process definition" object array

/-- The definition that an answer tells of, with the requested resource where it names none. -/
def definition (answer : DefinitionAnswer) (request : DeploymentRequest) : ProcessDefinition :=
  ⟨answer.id, answer.key, answer.version, answer.resource.getD request.resource⟩

end DefinitionAnswer

/-! ## Deployments -/

abbrev DefinitionAnswers := Option (Table DefinitionAnswer)

structure DeploymentFields where
  id : Option String
  name : Option (Option String)
  definitions : Option DefinitionAnswers

structure DeploymentAnswer where
  id : String
  name : Option String
  definitions : DefinitionAnswers
deriving DecidableEq

namespace DeploymentAnswer

def definitionsValue : ValueReader DefinitionAnswers := optional (table DefinitionAnswer.value)

def member (fields : DeploymentFields) (name : String) : Member DeploymentFields :=
  match name with
  | "id" => once name fields.id (string.map fun s => { fields with id := some s })
  | "name" =>
      once name fields.name ((optional string).map fun s => { fields with name := some s })
  | "deployedProcessDefinitions" =>
      once name fields.definitions
        (definitionsValue.map fun d => { fields with definitions := some d })
  | _ => .skipped

def object : Reader DeploymentAnswer := do
  let fields ← members member ⟨none, none, none⟩
  let id ← requiredField "id" fields.id
  return ⟨id, fields.name.join, fields.definitions.join⟩

def arrayText : String := "a deployment with 3 elements"

/-- A deployment as an array.  The definitions may be left out. -/
def array : Reader DeploymentAnswer := do
  let id ← requiredElement 0 arrayText string
  let name ← requiredElement 1 arrayText (optional string)
  match ← element? false definitionsValue with
  | none => return ⟨id, name, none⟩
  | some definitions =>
      endOfArray
      return ⟨id, name, definitions⟩

def value : ValueReader DeploymentAnswer := recordOf "a deployment" object array

/-- The deployment that an answer tells of.  Its definitions ascend by their keys; those of one key
stand in the order in which the table of the answer gives its values, and nothing but the ranks of
its members says which that is. -/
def deployment (answer : DeploymentAnswer) (rank : String → Nat) (request : DeploymentRequest) :
    Deployment where
  id := answer.id
  name := answer.name.getD request.name
  definitions :=
    (((answer.definitions.getD ∅).valuesBy rank).map (·.definition request)).mergeSort
      fun a b => decide (a.key ≤ b.key)

end DeploymentAnswer

/-! ## Instances -/

structure InstanceFields where
  id : Option String
  definitionId : Option String
  businessKey : Option (Option String)
  ended : Option Bool
  suspended : Option Bool

structure InstanceAnswer where
  id : String
  definitionId : String
  businessKey : Option String
  ended : Bool
  suspended : Bool
deriving DecidableEq, Repr

namespace InstanceAnswer

def member (fields : InstanceFields) (name : String) : Member InstanceFields :=
  match name with
  | "id" => once name fields.id (string.map fun s => { fields with id := some s })
  | "definitionId" =>
      once name fields.definitionId (string.map fun s => { fields with definitionId := some s })
  | "businessKey" =>
      once name fields.businessKey
        ((optional string).map fun s => { fields with businessKey := some s })
  | "ended" => once name fields.ended (boolean.map fun b => { fields with ended := some b })
  | "suspended" =>
      once name fields.suspended (boolean.map fun b => { fields with suspended := some b })
  | _ => .skipped

def object : Reader InstanceAnswer := do
  let fields ← members member ⟨none, none, none, none, none⟩
  let id ← requiredField "id" fields.id
  let definitionId ← requiredField "definitionId" fields.definitionId
  return ⟨id, definitionId, fields.businessKey.join, fields.ended.getD false,
    fields.suspended.getD false⟩

def arrayText : String := "a process instance with 5 elements"

/-- An instance as an array.  The flags may be left out from the end. -/
def array : Reader InstanceAnswer := do
  let id ← requiredElement 0 arrayText string
  let definitionId ← requiredElement 1 arrayText string
  let businessKey ← requiredElement 2 arrayText (optional string)
  match ← element? false boolean with
  | none => return ⟨id, definitionId, businessKey, false, false⟩
  | some ended =>
      match ← element? false boolean with
      | none => return ⟨id, definitionId, businessKey, ended, false⟩
      | some suspended =>
          endOfArray
          return ⟨id, definitionId, businessKey, ended, suspended⟩

def value : ValueReader InstanceAnswer := recordOf "a process instance" object array

def processInstance (answer : InstanceAnswer) (key : String) : ProcessInstance :=
  ⟨answer.id, key, answer.definitionId, answer.businessKey, answer.ended, answer.suspended⟩

end InstanceAnswer

end ProcessLaunch.Rest
