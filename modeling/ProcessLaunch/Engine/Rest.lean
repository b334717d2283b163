import ProcessLaunch.Engine.Basic
import ProcessLaunch.Engine.Rest.Answer
import ProcessLaunch.Http.Exchange
import ProcessLaunch.File

/-!
# Remote engines

An engine behind a REST interface.  Each operation but closing sends at most one request, and its
answer depends on the response to that request alone.  Resources are read on this side and sent
along.
-/

namespace ProcessLaunch.Rest

open Http

structure Handle where
  baseUrl : String
  root : String
deriving DecidableEq, Repr

def engineName : String := "rest"

def deploymentSource : String := "direct-debit-workflow"

/-! ## Responses -/

def decodeBody {α : Type} (value : Json.ValueReader α) (body : ByteArray) : Except EngineError α :=
  match value.spaced.readAll (Json.textOfBytes body) with
  | .ok a => .ok a
  | .error _ => .error (.http .badBody)

/-- The value of a response.  A status other than success is a refusal of the engine. -/
def decodeResponse {α : Type} (value : Json.ValueReader α) (response : Response) :
    Except EngineError α :=
  if isSuccess response.status then decodeBody value response.body
  else .error (.remote response.status (Text.decodeLossy response.body.data.toList))

def ask {α : Type} (value : Json.ValueReader α) (address : String) (body : Body)
    (network : Network) : Except EngineError α × Network :=
  match network.send .post address (some body) with
  | (.error e, network) => (.error (.http e), network)
  | (.ok response, network) => (decodeResponse value response, network)

/-! ## Operations -/

/-- The name under which a resource is sent: its file name, or all of it where it has none. -/
def sentName (resource : String) : String :=
  match Path.fileName? resource.toList with
  | some name => String.ofList name
  | none => resource

def deploymentForm (request : DeploymentRequest) (content : ByteArray) : Body :=
  let name := sentName request.resource
  .form [
    ⟨"deployment-name", none, request.name.toUTF8⟩,
    ⟨"deployment-source", none, deploymentSource.toUTF8⟩,
    ⟨name, some name, content⟩]

def deploy (disk : Disk) (handle : Handle) (request : DeploymentRequest) (network : Network) :
    Reply Network Deployment :=
  match disk.read (Path.under handle.root request.resource) with
  | .error e => .error (.ofResource request.resource e) network
  | .ok content =>
      match ask DeploymentAnswer.value s!"{handle.baseUrl}/deployment/create"
          (deploymentForm request content) network with
      | (.error e, after) => .error e after
      | (.ok answer, after) =>
          { result := .ok (answer.deployment network.rank request)
            log := [⟨.debug, "Deployment created", [("deployment", .shown answer.id)]⟩]
            state := after }

def start (handle : Handle) (key : String) (network : Network) : Reply Network ProcessInstance :=
  match ask InstanceAnswer.value s!"{handle.baseUrl}/process-definition/key/{key}/start"
      (.json "\x7b\x7d") network with
  | (.error e, network) => .error e network
  | (.ok answer, network) => .ok (answer.processInstance key) network

def close (handle : Handle) (network : Network) : Reply Network Unit :=
  { result := .ok ()
    log := [⟨.debug, "Releasing REST engine client", [("endpoint", .shown handle.baseUrl)]⟩]
    state := network }

def engine (disk : Disk) (handle : Handle) : Engine Network where
  name := engineName
  deploy := deploy disk handle
  start := start handle
  close := close handle

/-! ## Building -/

def build (disk : Disk) (root : String) (settings : EngineSettings) (network : Network) :
    Reply Network (Engine Network) :=
  match settings.restUrl with
  | none =>
      .error (.invalidConfiguration s!"{SettingKey.restUrl} is required for the REST engine")
        network
  | some baseUrl =>
      match network.send .get s!"{baseUrl}/engine" none with
      | (.error e, network) => .error (.http e) network
      | (.ok response, network) =>
          if isSuccess response.status then
            { result := .ok (engine disk ⟨baseUrl, root⟩)
              log := [⟨.info, "Connected to remote process engine",
                [("endpoint", .shown baseUrl), ("datasource", .shown settings.dataSource.url)]⟩]
              state := network }
          else
            .error (.unavailable s!"{baseUrl}/engine answered {statusText response.status}") network

def builder (disk : Disk) (root : String) : EngineBuilder Network := ⟨build disk root⟩

end ProcessLaunch.Rest
