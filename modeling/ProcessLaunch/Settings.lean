import ProcessLaunch.Config.Basic

/-!
# Engine settings

The typed view of the configuration keys that an engine is built from.  The coordinates of the data
source, the definition key and the process resource are required; flags, pool bounds and the time
limit have defaults.
-/

namespace ProcessLaunch

inductive SchemaUpdate where
  | enabled
  | disabled
deriving DecidableEq, Repr

namespace SchemaUpdate

def ofBool : Bool → SchemaUpdate
  | true => enabled
  | false => disabled

def text : SchemaUpdate → String
  | enabled => "true"
  | disabled => "false"

end SchemaUpdate

structure DataSource where
  url : String
  username : String
  password : String
  driver : String
  maxConnections : Nat
  minIdle : Nat
deriving DecidableEq

structure EngineSettings where
  dataSource : DataSource
  schemaUpdate : SchemaUpdate
  jobExecutorActivate : Bool
  processDefinitionKey : String
  processResource : String
  restUrl : Option String
  restTimeoutSeconds : Nat
deriving DecidableEq

/-! ## Keys and defaults -/

namespace SettingKey

def jdbcUrl : String := "database.jdbc.url"
def jdbcUsername : String := "database.jdbc.username"
def jdbcPassword : String := "database.jdbc.password"
def jdbcDriver : String := "database.jdbc.driver"
def schemaUpdate : String := "camunda.schema.update"
def jobExecutorActivate : String := "camunda.job.executor.activate"
def processDefinitionKey : String := "camunda.process.definition.key"
def processResource : String := "camunda.process.resource"
def poolMax : String := "database.connection.pool.max"
def poolMin : String := "database.connection.pool.min"
def restUrl : String := "camunda.engine.rest.url"
def restTimeoutSeconds : String := "camunda.engine.rest.timeout.seconds"

end SettingKey

namespace EngineSettings

def defaultPoolMax : Nat := 10
def defaultPoolMin : Nat := 2
def defaultRestTimeoutSeconds : Nat := 30

/-! ## Reading -/

/-- A bound of the connection pool.  A negative one is noted and gives the default. -/
def poolBound (config : Config) (key : String) (default : Nat) : Noted ConfigEvent Nat := do
  let value ← config.getInteger key default
  if value < 0 then ⟨default, [.negativePoolBound key value default]⟩
  else return value.toNat

/-- The seconds that a remote engine may take.  Without a positive number it is the default. -/
def restTimeout (config : Config) : Noted ConfigEvent Nat := do
  let value ← config.getInteger SettingKey.restTimeoutSeconds (-1)
  return if 0 < value then value.toNat else defaultRestTimeoutSeconds

/-- The address of a remote engine without blanks around it and slashes after it, if anything is
left. -/
def restAddress? (config : Config) : Option String :=
  match config.get? SettingKey.restUrl with
  | none => none
  | some value =>
      match ((Text.trim value.toList).reverse.dropWhile (· == '/')).reverse with
      | [] => none
      | address => some (String.ofList address)

/-- The data source with the default bounds of its pool.  Its coordinates must be present; they are
looked for in a fixed order. -/
def requireDataSource (config : Config) : Except ConfigError DataSource := do
  let url ← config.require SettingKey.jdbcUrl
  let username ← config.require SettingKey.jdbcUsername
  let password ← config.require SettingKey.jdbcPassword
  let driver ← config.require SettingKey.jdbcDriver
  return {
    url, username, password, driver
    maxConnections := defaultPoolMax
    minIdle := defaultPoolMin }

/-- Reads the settings.  The first required key without a value ends the reading; the integers are
read, and noted where they are malformed, once the data source is complete. -/
def read (config : Config) : Noted ConfigEvent (Except ConfigError EngineSettings) :=
  match requireDataSource config with
  | .error e => return .error e
  | .ok dataSource => do
      let maxConnections ← poolBound config SettingKey.poolMax defaultPoolMax
      let minIdle ← poolBound config SettingKey.poolMin defaultPoolMin
      let restTimeoutSeconds ← restTimeout config
      return do
        let processDefinitionKey ← config.require SettingKey.processDefinitionKey
        let processResource ← config.require SettingKey.processResource
        return {
          dataSource := { dataSource with maxConnections, minIdle }
          schemaUpdate := .ofBool (config.getFlag SettingKey.schemaUpdate true)
          jobExecutorActivate := config.getFlag SettingKey.jobExecutorActivate true
          processDefinitionKey := trimmed processDefinitionKey
          processResource := trimmed processResource
          restUrl := restAddress? config
          restTimeoutSeconds }

end EngineSettings

end ProcessLaunch
