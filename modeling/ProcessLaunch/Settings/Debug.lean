import ProcessLaunch.Settings
import ProcessLaunch.Text.Quoted

/-!
# Settings in diagnostics

The settings as one line of text.  The password is never part of it.
-/

namespace ProcessLaunch

open Text (quoted)

def debugRecord (name : String) (parts : List (String × String)) : String :=
  name ++ " \x7b " ++ ", ".intercalate (parts.map fun (part, text) => part ++ ": " ++ text) ++
    " \x7d"

namespace SchemaUpdate

def debugText : SchemaUpdate → String
  | enabled => "True"
  | disabled => "False"

end SchemaUpdate

namespace DataSource

def debugText (source : DataSource) : String :=
  debugRecord "DataSourceSettings" [
    ("url", quoted source.url),
    ("username", quoted source.username),
    ("password", quoted Config.redacted),
    ("driver", quoted source.driver),
    ("max_connections", toString source.maxConnections),
    ("min_idle", toString source.minIdle)]

end DataSource

namespace EngineSettings

def debugText (settings : EngineSettings) : String :=
  debugRecord "EngineSettings" [
    ("datasource", settings.dataSource.debugText),
    ("schema_update", settings.schemaUpdate.debugText),
    ("job_executor_activate", if settings.jobExecutorActivate then "true" else "false"),
    ("process_definition_key", quoted settings.processDefinitionKey),
    ("process_resource", quoted settings.processResource),
    ("rest_url",
      match settings.restUrl with
      | some url => s!"Some({quoted url})"
      | none => "None"),
    ("rest_timeout_secs", toString settings.restTimeoutSeconds)]

end EngineSettings

end ProcessLaunch
