import ProcessLaunch.File

/-!
# Failures

The causes for which reading a configuration, an engine, or a whole run can fail, and the one text
of each cause.
-/

namespace ProcessLaunch

inductive ConfigError where
  | notFound (name path : String)
  | unreadable (name : String) (cause : FileError)
  | missingProperty (key : String)
  | invalidNumber (key value : String)
deriving DecidableEq, Repr

namespace ConfigError

def message : ConfigError → String
  | notFound name path => s!"Configuration file not found: {name} (looked in {path})"
  | unreadable name cause => s!"Error loading properties file {name}: {cause.message}"
  | missingProperty key => s!"Required property '{key}' is missing or blank"
  | invalidNumber key value => s!"Invalid integer value '{value}' for property '{key}'"

end ConfigError

inductive HttpError where
  | noUrl
  | badUrl (url : String)
  | notSent (url : String)
  | badBody
deriving DecidableEq, Repr

namespace HttpError

def message : HttpError → String
  | noUrl => "builder error"
  | badUrl url => s!"builder error for url ({url})"
  | notSent url => s!"error sending request for url ({url})"
  | badBody => "error decoding response body"

end HttpError

inductive EngineError where
  | invalidConfiguration (reason : String)
  | unavailable (reason : String)
  | resourceNotFound (resource : String)
  | invalidDefinition (resource reason : String)
  | processDefinitionNotFound (key : String)
  | unreadable (cause : FileError)
  | http (cause : HttpError)
  | remote (status : Nat) (answer : String)
deriving DecidableEq, Repr

namespace EngineError

def message : EngineError → String
  | invalidConfiguration reason => s!"Invalid engine configuration: {reason}"
  | unavailable reason => s!"Process engine unavailable: {reason}"
  | resourceNotFound resource => s!"Deployment resource not found: {resource}"
  | invalidDefinition resource reason => s!"Invalid process definition in {resource}: {reason}"
  | processDefinitionNotFound key => s!"No process definition deployed with key '{key}'"
  | unreadable cause => s!"IO error: {cause.message}"
  | http cause => s!"HTTP error: {cause.message}"
  | remote status answer => s!"Engine responded with status {status}: {answer}"

/-- A resource that cannot be read: a missing one has a cause of its own. -/
def ofResource (resource : String) : FileError → EngineError
  | .notFound => resourceNotFound resource
  | cause => unreadable cause

end EngineError

inductive Severity where
  | warning
deriving DecidableEq, Repr

inductive WorkflowError where
  | configurationLoad (cause : ConfigError)
  | configuration (cause : ConfigError)
  | engineConstruction (cause : EngineError)
  | deployment (cause : EngineError)
  | instanceStart (cause : EngineError)
  | engineClose (cause : EngineError)
deriving DecidableEq, Repr

namespace WorkflowError

def message : WorkflowError → String
  | configurationLoad cause => s!"Configuration load failed: {cause.message}"
  | configuration cause => s!"Configuration invalid: {cause.message}"
  | engineConstruction cause => s!"Process Engine initialization failed: {cause.message}"
  | deployment cause => s!"Process deployment failed: {cause.message}"
  | instanceStart cause => s!"Process instance start failed: {cause.message}"
  | engineClose cause => s!"Error while closing Process Engine: {cause.message}"

def code : WorkflowError → String
  | configurationLoad _ => "workflow::configuration_load"
  | configuration _ => "workflow::configuration"
  | engineConstruction _ => "workflow::engine_construction"
  | deployment _ => "workflow::deployment"
  | instanceStart _ => "workflow::instance_start"
  | engineClose _ => "workflow::engine_close"

def help? : WorkflowError → Option String
  | configurationLoad _ =>
      some "check --resources and --config-file point at a readable properties file"
  | _ => none

/-- Failures without a severity of their own end the run; one to close the engine only warns. -/
def severity? : WorkflowError → Option Severity
  | engineClose _ => some .warning
  | _ => none

end WorkflowError

end ProcessLaunch
