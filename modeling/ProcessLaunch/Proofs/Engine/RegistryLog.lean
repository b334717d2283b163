import Mathlib.Data.List.GetD
import ProcessLaunch.Engine.InMemory
import ProcessLaunch.Proofs.Table

/-!
# The log of a registry

What a registry keeps in a table of versions, a list of deployments and a table of instances can be
told from two flat lists: what has been deployed, and what has been started.
-/

namespace ProcessLaunch

def IdSupply.skip (ids : IdSupply) (n : Nat) : IdSupply := { ids with issued := ids.issued + n }

structure RegistryLog where
  deployments : List Deployment
  instances : List ProcessInstance

namespace RegistryLog

def empty : RegistryLog := ⟨[], []⟩

def definitions (log : RegistryLog) : List ProcessDefinition :=
  log.deployments.flatMap Deployment.definitions

def keys (log : RegistryLog) : List String := log.definitions.map ProcessDefinition.key

def last? (log : RegistryLog) (key : String) : Option ProcessDefinition :=
  (log.definitions.filter (·.key = key)).getLast?

def instance? (log : RegistryLog) (id : String) : Option ProcessInstance :=
  log.instances.reverse.find? (·.id = id)

/-- The definitions that keys bring behind earlier keys.  The version of each counts how often its
key has occurred before, earlier in the same list included. -/
def newDefinitions (earlier : List String) (ids : IdSupply) (resource : String)
    (keys : List String) : List ProcessDefinition :=
  keys.mapIdx fun i key =>
    let version := 1 + (earlier ++ keys.take i).count key
    { id := s!"{key}:{version}:{ids.text (ids.issued + i + 1)}", key, version, resource }

def newDeployment (log : RegistryLog) (ids : IdSupply) (request : DeploymentRequest)
    (keys : List String) : Deployment where
  id := ids.text (ids.issued + keys.length + 1)
  name := request.name
  definitions := newDefinitions log.keys ids request.resource keys

def newInstance (ids : IdSupply) (definition : ProcessDefinition) : ProcessInstance where
  id := ids.text (ids.issued + 1)
  definitionKey := definition.key
  definitionId := definition.id
  businessKey := none
  ended := false
  suspended := false

/-! ## 1. The last definition of a key -/

@[simp] theorem keys_empty : empty.keys = [] := rfl

/-- A key has a last definition exactly where some definition has the key. -/
theorem isSome_last?_iff (log : RegistryLog) (key : String) :
    (log.last? key).isSome = true ↔ key ∈ log.keys := by
  rw [last?, List.getLast?_isSome, ne_eq, List.filter_eq_nil_iff, keys, List.mem_map]
  simp

theorem key_of_last? {log : RegistryLog} {key : String} {definition : ProcessDefinition}
    (h : log.last? key = some definition) : definition.key = key := by
  have hmem := (List.mem_filter.mp (List.mem_of_getLast? h)).2
  simpa using hmem

/-! ## 2. What is added -/

def deployed (log : RegistryLog) (deployment : Deployment) : RegistryLog :=
  { log with deployments := log.deployments ++ [deployment] }

def started (log : RegistryLog) (new : ProcessInstance) : RegistryLog :=
  { log with instances := log.instances ++ [new] }

@[simp] theorem definitions_deployed (log : RegistryLog) (deployment : Deployment) :
    (log.deployed deployment).definitions = log.definitions ++ deployment.definitions := by
  simp [definitions, deployed]

/-- The latest start under an id is the one that counts. -/
theorem instance?_started (log : RegistryLog) (new : ProcessInstance) (id : String) :
    (log.started new).instance? id = if new.id = id then some new else log.instance? id := by
  rw [instance?, started, List.reverse_append, List.reverse_singleton, List.singleton_append,
    List.find?_cons, instance?]
  by_cases h : new.id = id
  · simp [h]
  · simp [h]

@[simp] theorem newDefinitions_nil (earlier : List String) (ids : IdSupply) (resource : String) :
    newDefinitions earlier ids resource [] = [] := rfl

/-- Each definition takes the next id, and counts the keys before it. -/
theorem newDefinitions_cons (earlier : List String) (ids : IdSupply) (resource key : String)
    (keys : List String) :
    newDefinitions earlier ids resource (key :: keys) =
      { id := s!"{key}:{1 + earlier.count key}:{ids.next}", key
        version := 1 + earlier.count key, resource } ::
        newDefinitions (earlier ++ [key]) ids.advance resource keys := by
  rw [newDefinitions, List.mapIdx_cons]
  -- behind the head the numbers of the ids and the earlier keys are both one further on
  have hid (i : Nat) : ids.issued + (i + 1) + 1 = ids.issued + 1 + i + 1 := by omega
  simp [newDefinitions, IdSupply.next, IdSupply.advance, hid]

example : (newDefinitions ["a"] ⟨fun n => s!"id{n}", 4⟩ "r" ["a", "b", "a"]).map (·.id) =
    ["a:2:id5", "b:1:id6", "a:3:id7"] := by decide

/-- New definitions have the keys that they were made for, in their order. -/
theorem map_key_newDefinitions (earlier : List String) (ids : IdSupply) (resource : String)
    (keys : List String) :
    (newDefinitions earlier ids resource keys).map ProcessDefinition.key = keys := by
  induction keys generalizing earlier ids with
  | nil => rfl
  | cons key keys ih => rw [newDefinitions_cons, List.map_cons, ih]

/-- After a deployment the keys of the log go on with the keys of its resource. -/
theorem keys_deployed (log : RegistryLog) (ids : IdSupply) (request : DeploymentRequest)
    (keys : List String) :
    (log.deployed (log.newDeployment ids request keys)).keys = log.keys ++ keys := by
  rw [RegistryLog.keys, definitions_deployed, List.map_append, newDeployment,
    map_key_newDefinitions, RegistryLog.keys]

/-! ## 3. A registry and its log -/

/-- A registry holds what its log tells of. -/
structure Represents (registry : Registry) (log : RegistryLog) : Prop where
  deployments : registry.deployments = log.deployments
  versions : ∀ key, registry.versions key = log.definitions.filter (·.key = key)
  instances : ∀ id, registry.instance? id = log.instance? id

theorem represents_empty : Represents ∅ empty where
  deployments := rfl
  versions _ := rfl
  instances _ := rfl

namespace Represents

variable {registry : Registry} {log : RegistryLog}

/-- A registry has the last version of a key where the log has the last definition of it. -/
theorem getLast?_versions (h : Represents registry log) (key : String) :
    (registry.versions key).getLast? = log.last? key := by
  rw [h.versions, last?]

/-- The versions that the table holds under a key are all of that key. -/
theorem last?_of_mem (h : Represents registry log) {key : String}
    {versions : List ProcessDefinition} {last : ProcessDefinition}
    (hentry : (key, versions) ∈ registry.definitions.toList)
    (hlast : versions.getLast? = some last) : last.key = key ∧ log.last? key = some last := by
  have hversions : log.last? key = some last := by
    rw [← h.getLast?_versions, Registry.versions, (Table.get?_eq_some_iff _ _ _).mpr hentry]
    exact hlast
  exact ⟨key_of_last? hversions, hversions⟩

/-- The last definitions of a registry are the last ones of the keys of its log. -/
theorem mem_latestDefinitions (h : Represents registry log) (definition : ProcessDefinition) :
    definition ∈ registry.latestDefinitions ↔ log.last? definition.key = some definition := by
  rw [Registry.latestDefinitions, Table.values, List.filterMap_map, List.mem_filterMap]
  constructor
  -- an entry of the table is filed under the key of its versions
  · rintro ⟨⟨key, versions⟩, hentry, hlast⟩
    obtain ⟨rfl, hlog⟩ := h.last?_of_mem hentry hlast
    exact hlog
  · intro hlast
    rw [← h.getLast?_versions, Registry.versions] at hlast
    cases hget : registry.definitions.get? definition.key with
    | none =>
        rw [hget] at hlast
        exact absurd hlast (by simp)
    | some versions =>
        rw [hget] at hlast
        exact ⟨(definition.key, versions), (Table.get?_eq_some_iff _ _ _).mp hget, hlast⟩

/-- The last definitions of a registry stand in ascending order of their keys. -/
theorem pairwise_latestDefinitions (h : Represents registry log) :
    registry.latestDefinitions.Pairwise (fun a b => a.key < b.key) := by
  rw [Registry.latestDefinitions, Table.values, List.filterMap_map, List.pairwise_filterMap]
  refine registry.definitions.sorted.imp_of_mem fun {a b} ha hb hlt x hx y hy => ?_
  rw [(h.last?_of_mem ha hx).1, (h.last?_of_mem hb hy).1]
  exact hlt

end Represents

/-! ## 4. Operations -/

/-- A version goes behind those of its own key and leaves the other keys alone. -/
theorem versions_addDefinition (registry : Registry) (definition : ProcessDefinition)
    (key : String) :
    (registry.addDefinition definition).versions key =
      registry.versions key ++ [definition].filter (·.key = key) := by
  rw [Registry.versions, Registry.addDefinition, Table.get?_insert]
  by_cases h : definition.key = key
  · subst h
    simp
  · simp [h, Registry.versions]

/-- What adding keys to a registry comes to, behind definitions that it already holds. -/
theorem addKeys_eq (resource : String) (keys : List String) (registry : Registry) (ids : IdSupply)
    (earlier : List ProcessDefinition)
    (hversions : ∀ key, registry.versions key = earlier.filter (·.key = key)) :
    ∃ registry' : Registry,
      Registry.addKeys resource keys registry ids =
        (newDefinitions (earlier.map ProcessDefinition.key) ids resource keys, registry',
          ids.skip keys.length) ∧
      registry'.deployments = registry.deployments ∧
      registry'.instances = registry.instances ∧
      ∀ key, registry'.versions key =
        (earlier ++ newDefinitions (earlier.map ProcessDefinition.key) ids resource keys).filter
          (·.key = key) := by
  -- by induction on the keys; every key moves one definition to the earlier ones
  induction keys generalizing registry ids earlier with
  | nil => exact ⟨registry, rfl, rfl, rfl, by simpa using hversions⟩
  | cons key keys ih =>
      -- the version is counted in the registry on one side and in the log on the other
      have hcount : (registry.versions key).length + 1 =
          1 + (earlier.map ProcessDefinition.key).count key := by
        rw [hversions, List.count_eq_countP, List.countP_map, List.countP_eq_length_filter,
          Nat.add_comm]
        rfl
      let definition : ProcessDefinition := registry.nextDefinition ids resource key
      have hdefinition : newDefinitions (earlier.map ProcessDefinition.key) ids resource
            (key :: keys) =
          definition :: newDefinitions ((earlier ++ [definition]).map ProcessDefinition.key)
            ids.advance resource keys := by
        rw [newDefinitions_cons, List.map_append, ← hcount]
        rfl
      obtain ⟨registry', hadd, hdeployments, hinstances, hversions'⟩ :=
        ih (registry.addDefinition definition) ids.advance (earlier ++ [definition]) (by
          intro other
          rw [versions_addDefinition, hversions, List.filter_append])
      refine ⟨registry', ?_, hdeployments, hinstances, ?_⟩
      · rw [Registry.addKeys, hadd, hdefinition, List.length_cons]
        simp [IdSupply.skip, IdSupply.advance, definition, Nat.add_comm, Nat.add_left_comm]
      · intro other
        rw [hversions', hdefinition, List.append_assoc, List.singleton_append]

namespace Represents

variable {registry : Registry} {log : RegistryLog}

/-- Deploying adds to the registry what it adds to the log. -/
theorem deploy_eq (h : Represents registry log) (disk : Disk) (root : String)
    (request : DeploymentRequest) (ids : IdSupply) :
    match Registry.readKeys disk root request.resource with
    | .error e => registry.deploy disk root request ids = .error e
    | .ok keys => ∃ registry',
        registry.deploy disk root request ids =
          .ok (log.newDeployment ids request keys, registry', ids.skip (keys.length + 1)) ∧
        Represents registry' (log.deployed (log.newDeployment ids request keys)) := by
  rw [Registry.deploy]
  cases Registry.readKeys disk root request.resource with
  | error e => rfl
  | ok keys =>
      obtain ⟨registry', hadd, hdeployments, hinstances, hversions⟩ :=
        addKeys_eq request.resource keys registry ids log.definitions h.versions
      refine ⟨{ registry' with
        deployments := registry'.deployments ++ [log.newDeployment ids request keys] }, ?_, ?_⟩
      · simp only [hadd]
        rfl
      -- the versions of each key grow by the new definitions of that key
      · constructor
        · show registry'.deployments ++ _ = log.deployments ++ _
          rw [hdeployments, h.deployments]
        · intro key
          rw [definitions_deployed]
          exact hversions key
        · intro id
          show registry'.instances.get? id = log.instance? id
          rw [hinstances]
          exact h.instances id

/-- Starting adds to the registry what it adds to the log. -/
theorem start_eq (h : Represents registry log) (key : String) (ids : IdSupply) :
    match log.last? key with
    | none => registry.start key ids = .error (.processDefinitionNotFound key)
    | some definition => ∃ registry',
        registry.start key ids = .ok (newInstance ids definition, registry', ids.skip 1) ∧
        Represents registry' (log.started (newInstance ids definition)) := by
  rw [Registry.start, h.getLast?_versions]
  cases log.last? key with
  | none => rfl
  | some definition =>
      refine ⟨_, rfl, ?_⟩
      constructor
      · exact h.deployments
      · exact h.versions
      · intro id
        rw [instance?_started, ← h.instances id]
        exact Table.get?_insert _ _ _ _

end Represents

end RegistryLog

/-! ## 5. Engines -/

namespace InMemory

/-- An entry in a list is read where it was put, unless the place is beyond the end. -/
theorem getD_set_eq {α : Type} (entries : List α) (i j : Nat) (entry fallback : α) :
    (entries.set i entry).getD j fallback =
      if i = j ∧ j < entries.length then entry else entries.getD j fallback := by
  rw [List.getD_eq_getElem?_getD, List.getElem?_set, List.getD_eq_getElem?_getD]
  by_cases hij : i = j
  · subst hij
    by_cases hlt : i < entries.length
    · simp [hlt]
    · simp [hlt]
  · simp [hij]

/-- Where an empty place is read as a default, another default behind the list changes nothing. -/
theorem getD_concat_default {α : Type} (entries : List α) (i : Nat) (fallback : α) :
    (entries ++ [fallback]).getD i fallback = entries.getD i fallback := by
  by_cases hlt : i < entries.length
  · rw [List.getD_append _ _ _ _ hlt]
  · have hle : entries.length ≤ i := by omega
    rw [List.getD_append_right _ _ _ _ hle, List.getD_eq_default entries _ hle]
    cases i - entries.length with
    | zero => rfl
    | succ n => rfl

/-- A new engine changes no registry. -/
theorem registry_create (root : String) (store : Store) (number : Nat) :
    (create root store).2.registry number = store.registry number :=
  getD_concat_default store.registries number ∅

theorem registry_update (store : Store) (number other : Nat) (registry : Registry)
    (ids : IdSupply) :
    (store.update number registry ids).registry other =
      if number = other ∧ other < store.registries.length then registry else store.registry other :=
  getD_set_eq store.registries number other registry ∅

variable {store : Store} {handle : Handle} {log : RegistryLog}

/-- What an engine whose registry has a log replies when it is asked to deploy. -/
theorem deploy_eq (h : RegistryLog.Represents (store.registry handle.registry) log) (disk : Disk)
    (request : DeploymentRequest) :
    match Registry.readKeys disk handle.root request.resource with
    | .error e => deploy disk handle request store = .error e store
    | .ok keys => ∃ registry records,
        RegistryLog.Represents registry
          (log.deployed (log.newDeployment store.ids request keys)) ∧
        deploy disk handle request store =
          ⟨.ok (log.newDeployment store.ids request keys), records,
            store.update handle.registry registry (store.ids.skip (keys.length + 1))⟩ := by
  have hdeploy := h.deploy_eq disk handle.root request store.ids
  rw [deploy]
  generalize Registry.readKeys disk handle.root request.resource = read at hdeploy ⊢
  cases read with
  | error e => rw [hdeploy]
  | ok keys =>
      obtain ⟨registry, hok, hrepresents⟩ := hdeploy
      rw [hok]
      exact ⟨registry, _, hrepresents, rfl⟩

/-- What an engine whose registry has a log replies when it is asked to start. -/
theorem start_eq (h : RegistryLog.Represents (store.registry handle.registry) log) (key : String) :
    match log.last? key with
    | none => start handle key store = .error (.processDefinitionNotFound key) store
    | some definition => ∃ registry,
        RegistryLog.Represents registry
          (log.started (RegistryLog.newInstance store.ids definition)) ∧
        start handle key store = .ok (RegistryLog.newInstance store.ids definition)
          (store.update handle.registry registry (store.ids.skip 1)) := by
  have hstart := h.start_eq key store.ids
  rw [start]
  generalize log.last? key = last at hstart ⊢
  cases last with
  | none => rw [hstart]
  | some definition =>
      obtain ⟨registry, hok, hrepresents⟩ := hstart
      rw [hok]
      exact ⟨registry, hrepresents, rfl⟩

/-- What a new engine replies when it is asked to deploy, and to start right behind that: it starts
the keys of the resource and no others. -/
theorem deploy_create (disk : Disk) (root : String) (request : DeploymentRequest) (store : Store) :
    let handle := (create root store).1
    let deployed := deploy disk handle request (create root store).2
    match Registry.readKeys disk root request.resource with
    | .error e => deployed.result = .error e
    | .ok keys => (∃ deployment, deployed.result = .ok deployment) ∧
        ∀ key,
          (key ∈ keys → ∃ started, (start handle key deployed.state).result = .ok started) ∧
          (key ∉ keys → (start handle key deployed.state).result =
            .error (.processDefinitionNotFound key)) := by
  intro handle deployed
  -- the registry of the new engine lies just behind those that there were
  have hfresh : RegistryLog.Represents ((create root store).2.registry handle.registry) .empty := by
    rw [registry_create]
    show RegistryLog.Represents (store.registries.getD store.registries.length ∅) .empty
    rw [List.getD_eq_default _ _ (Nat.le_refl _)]
    exact RegistryLog.represents_empty
  have hdeploy := deploy_eq hfresh disk request
  show match Registry.readKeys disk handle.root request.resource with
    | .error e => _
    | .ok keys => _
  generalize Registry.readKeys disk handle.root request.resource = read at hdeploy ⊢
  cases read with
  | error e => exact congrArg Reply.result hdeploy
  | ok keys =>
      obtain ⟨registry, records, hrepresents, hok⟩ := hdeploy
      have hdeployed : deployed = _ := hok
      refine ⟨⟨_, congrArg Reply.result hdeployed⟩, fun key => ?_⟩
      have hregistry : deployed.state.registry handle.registry = registry := by
        rw [hdeployed]
        show Store.registry (Store.update _ _ _ _) _ = registry
        rw [registry_update, if_pos]
        refine ⟨rfl, ?_⟩
        show store.registries.length < (store.registries ++ [∅]).length
        simp
      rw [← hregistry] at hrepresents
      have hstart := start_eq hrepresents key
      -- the log of the new engine has the keys of the resource and nothing before them
      have hlast := RegistryLog.isSome_last?_iff
        (RegistryLog.empty.deployed (RegistryLog.empty.newDeployment
          (create root store).2.ids request keys)) key
      rw [RegistryLog.keys_deployed, RegistryLog.keys_empty, List.nil_append] at hlast
      generalize RegistryLog.last? _ key = last at hstart hlast
      cases last with
      | none =>
          refine ⟨fun hkey => ?_, fun _ => congrArg Reply.result hstart⟩
          exact absurd (hlast.mpr hkey) (by simp)
      | some definition =>
          obtain ⟨registry', -, hstarted⟩ := hstart
          refine ⟨fun _ => ⟨_, congrArg Reply.result hstarted⟩, fun hkey => ?_⟩
          exact absurd (hlast.mp rfl) hkey

end InMemory

end ProcessLaunch
