import ProcessLaunch.Engine.Basic
import ProcessLaunch.Engine.Registry

/-!
# Engines in memory

An engine in memory registers deployments and starts, and executes nothing.  Several engines may
live side by side, and some may share a registry: an engine names its registry by a number.
-/

namespace ProcessLaunch.InMemory

/-- The registries of all engines in memory, and the ids that they draw on together. -/
structure Store where
  registries : List Registry
  ids : IdSupply

namespace Store

def empty (ids : IdSupply) : Store := ⟨[], ids⟩

def registry (store : Store) (number : Nat) : Registry := store.registries.getD number ∅

def update (store : Store) (number : Nat) (registry : Registry) (ids : IdSupply) : Store :=
  ⟨store.registries.set number registry, ids⟩

end Store

structure Handle where
  root : String
  registry : Nat
deriving DecidableEq, Repr

def engineName : String := "in-memory"

def create (root : String) (store : Store) : Handle × Store :=
  (⟨root, store.registries.length⟩, { store with registries := store.registries ++ [∅] })

/-! ## Operations -/

def deploy (disk : Disk) (handle : Handle) (request : DeploymentRequest) (store : Store) :
    Reply Store Deployment :=
  match (store.registry handle.registry).deploy disk handle.root request store.ids with
  | .error e => .error e store
  | .ok (deployment, registry, ids) =>
      { result := .ok deployment
        log := [⟨.debug, "Deployment registered", [("deployment", .shown deployment.id)]⟩]
        state := store.update handle.registry registry ids }

def start (handle : Handle) (key : String) (store : Store) : Reply Store ProcessInstance :=
  match (store.registry handle.registry).start key store.ids with
  | .error e => .error e store
  | .ok (started, registry, ids) => .ok started (store.update handle.registry registry ids)

def close (handle : Handle) (store : Store) : Reply Store Unit :=
  let registry := store.registry handle.registry
  { result := .ok ()
    log := [⟨.info, "Closing in-memory process engine",
      [("deployments", .integer registry.deployments.length),
        ("instances", .integer registry.instances.size)]⟩]
    state := store.update handle.registry ∅ store.ids }

def engine (disk : Disk) (handle : Handle) : Engine Store where
  name := engineName
  deploy := deploy disk handle
  start := start handle
  close := close handle

/-! ## Building -/

def urlScheme : String := "jdbc:postgresql:"

def rejection? (source : DataSource) : Option EngineError :=
  if !urlScheme.toList.isPrefixOf source.url.toList then
    some (.invalidConfiguration s!"expected a {urlScheme} URL, got '{source.url}'")
  else if source.minIdle > source.maxConnections then
    some (.invalidConfiguration
      s!"pool minimum {source.minIdle} exceeds maximum {source.maxConnections}")
  else none

def builtRecord (settings : EngineSettings) : LogRecord :=
  ⟨.info, "Building in-memory process engine",
    [("url", .shown settings.dataSource.url),
      ("driver", .shown settings.dataSource.driver),
      ("schema_update", .shown settings.schemaUpdate.text),
      ("max_connections", .integer settings.dataSource.maxConnections),
      ("min_idle", .integer settings.dataSource.minIdle),
      ("job_executor", .flag settings.jobExecutorActivate)]⟩

def build (disk : Disk) (root : String) (settings : EngineSettings) (store : Store) :
    Reply Store (Engine Store) :=
  match rejection? settings.dataSource with
  | some e => .error e store
  | none =>
      let (handle, store) := create root store
      { result := .ok (engine disk handle)
        log := [builtRecord settings]
        state := store }

def builder (disk : Disk) (root : String) : EngineBuilder Store := ⟨build disk root⟩

end ProcessLaunch.InMemory
