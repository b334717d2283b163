import Mathlib.Data.List.Pairwise
import ProcessLaunch.Proofs.Engine.LogInvariant

/-!
# Consistent registries

The three collections of a registry agree with each other after any steps of a session, whichever
engines take them and whether they succeed or not.
-/

namespace ProcessLaunch.InMemory

open RegistryLog (Change Sound)

/-! ## 1. What a step changes -/

def Step.Closes (handle : Nat → Handle) (number : Nat) : Step → Prop
  | .ask engine .close => (handle engine).registry = number
  | _ => False

namespace LogSession

def logAt (session : LogSession) (number : Nat) : RegistryLog := session.logs.getD number .empty

/-- A record changes the log of one registry and leaves all others as they were. -/
theorem logAt_record (session : LogSession) (engine : Nat) (log : RegistryLog)
    (issued number : Nat) :
    (session.record engine log issued).logAt number = session.logAt number ∨
      (session.handle engine).registry = number ∧
        (session.record engine log issued).logAt number = log := by
  have hset := getD_set_eq session.logs (session.handle engine).registry number log .empty
  split at hset
  next hhit => exact .inr ⟨hhit.1, hset⟩
  next => exact .inl hset

/-- Recording what an engine did changes its log, and no other. -/
theorem change_record (session : LogSession) (engine : Nat) {log : RegistryLog} {n : Nat}
    (hchange : Change session.ids (session.log engine) n log) (number : Nat) :
    Change session.ids (session.logAt number) n ((session.record engine log n).logAt number) := by
  obtain hother | ⟨rfl, hself⟩ := session.logAt_record engine log n number
  · rw [hother]
    exact .same n
  · rw [hself]
    exact hchange

/-- The step lemma: a step takes some ids, and each log is either closed by it or changed in one of
the ways that logs change. -/
theorem step_change (session : LogSession) (step : Step) :
    ∃ n, (session.step step).2.ids = session.ids.skip n ∧
      ∀ number,
        step.Closes session.handle number ∧ (session.step step).2.logAt number = .empty ∨
        Change session.ids (session.logAt number) n ((session.step step).2.logAt number) := by
  cases step with
  | ask engine step =>
      show ∃ n, (session.ask engine step).2.ids = _ ∧ ∀ number,
        _ ∧ (session.ask engine step).2.logAt number = .empty ∨
          Change _ _ n ((session.ask engine step).2.logAt number)
      cases step with
      | deploy request =>
          rw [ask]
          cases Registry.readKeys session.files.disk (session.handle engine).root
            request.resource with
          | error e => exact ⟨0, rfl, fun number => .inr (.same 0)⟩
          | ok keys =>
              refine ⟨keys.length + 1, rfl, fun number => .inr ?_⟩
              exact session.change_record engine (.deployed request keys) number
      | start key =>
          rw [ask, start]
          cases hlast : (session.log engine).last? key with
          | none => exact ⟨0, rfl, fun number => .inr (.same 0)⟩
          | some definition =>
              refine ⟨1, rfl, fun number => .inr ?_⟩
              exact session.change_record engine (.started hlast) number
      | close =>
          refine ⟨0, rfl, fun number => ?_⟩
          obtain hother | ⟨hself, hempty⟩ := session.logAt_record engine .empty 0 number
          · right
            show Change _ _ 0 ((session.record engine .empty 0).logAt number)
            rw [hother]
            exact .same 0
          · exact .inl ⟨hself, hempty⟩
      | name => exact ⟨0, rfl, fun number => .inr (.same 0)⟩
  | create root =>
      refine ⟨0, rfl, fun number => .inr ?_⟩
      -- a new log is empty, and so is the place behind the last one
      have hsame : (session.step (.create root)).2.logAt number = session.logAt number :=
        getD_concat_default session.logs number .empty
      rw [hsame]
      exact .same 0
  | findInstance engine id => exact ⟨0, rfl, fun number => .inr (.same 0)⟩
  | write path content => exact ⟨0, rfl, fun number => .inr (.same 0)⟩
  | remove path => exact ⟨0, rfl, fun number => .inr (.same 0)⟩
  | clone engine => exact ⟨0, rfl, fun number => .inr (.same 0)⟩

/-! ## 2. Sound sessions -/

/-- Whether the ids of a session come from a supply, and all its logs are sound. -/
structure SoundFrom (session : LogSession) (ids : IdSupply) : Prop where
  text : session.ids.text = ids.text
  issued : ids.issued ≤ session.ids.issued
  logs : ∀ number, (session.logAt number).Sound session.ids ids.issued

theorem soundFrom_begin (files : FileTree) (root : String) (ids : IdSupply) :
    (begin files root ids).SoundFrom ids where
  text := rfl
  issued := Nat.le_refl _
  logs number := by
    have hempty : (begin files root ids).logAt number = .empty := by cases number <;> rfl
    rw [hempty]
    exact .empty

/-- One step keeps the logs sound. -/
theorem SoundFrom.step {session : LogSession} {ids : IdSupply} (h : session.SoundFrom ids)
    (hids : ∀ n, ':' ∉ (ids.text n).toList) (step : Step) :
    (session.step step).2.SoundFrom ids := by
  -- a log that was closed is sound because it is empty
  obtain ⟨n, hskip, hlogs⟩ := session.step_change step
  have hids' : ∀ n, ':' ∉ (session.ids.text n).toList := by
    rw [h.text]
    exact hids
  constructor
  · rw [hskip]
    exact h.text
  · rw [hskip]
    exact Nat.le_add_right_of_le h.issued
  · intro number
    rw [hskip]
    obtain ⟨-, hempty⟩ | hchange := hlogs number
    · rw [hempty]
      exact .empty
    · exact (h.logs number).change hids' h.issued hchange

/-- The run lemma: whatever is done, the logs of a session stay sound. -/
theorem SoundFrom.run {session : LogSession} {ids : IdSupply} (h : session.SoundFrom ids)
    (hids : ∀ n, ':' ∉ (ids.text n).toList) (steps : List Step) :
    (session.run steps).2.SoundFrom ids := by
  induction steps generalizing session with
  | nil => exact h
  | cons step rest ih => exact ih (h.step hids step)

/-! ## 3. Instances that stay -/

/-- A session draws on one supply, from which it skips as many ids as its steps have taken. -/
theorem ids_run (session : LogSession) (steps : List Step) :
    ∃ n, (session.run steps).2.ids = session.ids.skip n := by
  induction steps generalizing session with
  | nil => exact ⟨0, rfl⟩
  | cons step rest ih =>
      obtain ⟨m, hstep, -⟩ := session.step_change step
      obtain ⟨n, hrest⟩ := ih (session.step step).2
      refine ⟨m + n, hrest.trans ?_⟩
      rw [hstep, IdSupply.skip, IdSupply.skip, IdSupply.skip, Nat.add_assoc]

theorem engines_ask (session : LogSession) (engine : Nat) (step : EngineStep) :
    (session.ask engine step).2.engines = session.engines := by
  cases step with
  | deploy request =>
      rw [ask]
      cases Registry.readKeys session.files.disk (session.handle engine).root request.resource <;>
        rfl
  | start key =>
      rw [ask, start]
      cases (session.log engine).last? key <;> rfl
  | close => rfl
  | name => rfl

/-- Engines are never lost and never changed, and new ones come behind the old. -/
theorem engines_run (session : LogSession) (steps : List Step) :
    ∃ more, (session.run steps).2.engines = session.engines ++ more := by
  induction steps generalizing session with
  | nil => exact ⟨[], (List.append_nil _).symm⟩
  | cons step rest ih =>
      -- only `create` and `clone` make an engine
      have hstep : ∃ more, (session.step step).2.engines = session.engines ++ more := by
        cases step with
        | ask engine step =>
            exact ⟨[], (session.engines_ask engine step).trans (List.append_nil _).symm⟩
        | create root => exact ⟨_, rfl⟩
        | clone engine => exact ⟨_, rfl⟩
        | findInstance engine id => exact ⟨[], (List.append_nil _).symm⟩
        | write path content => exact ⟨[], (List.append_nil _).symm⟩
        | remove path => exact ⟨[], (List.append_nil _).symm⟩
      obtain ⟨more, hmore⟩ := hstep
      obtain ⟨others, hothers⟩ := ih (session.step step).2
      refine ⟨more ++ others, hothers.trans ?_⟩
      rw [hmore, List.append_assoc]

theorem handle_run {session : LogSession} {engine : Nat} (h : engine < session.engines.length)
    (steps : List Step) : (session.run steps).2.handle engine = session.handle engine := by
  obtain ⟨more, hmore⟩ := session.engines_run steps
  rw [handle, handle, hmore, List.getD_append _ _ _ _ h, List.getD_eq_getElem _ _ h,
    List.getD_eq_getElem _ _ h]

/-- An engine that can start a key has been made, and works on a log of the session. -/
theorem made_of_last? {session : LogSession} {engine : Nat} {key : String}
    {definition : ProcessDefinition} (h : (session.log engine).last? key = some definition) :
    engine < session.engines.length ∧ (session.handle engine).registry < session.logs.length := by
  have hlog : (session.handle engine).registry < session.logs.length := by
    refine Classical.byContradiction fun hnot => ?_
    rw [LogSession.log, List.getD_eq_default _ _ (Nat.not_lt.mp hnot)] at h
    cases h
  refine ⟨Classical.byContradiction fun hnot => ?_, hlog⟩
  rw [handle, List.getD_eq_default _ _ (Nat.not_lt.mp hnot)] at hlog
  exact Nat.lt_irrefl _ hlog

end LogSession

/-- An instance stays as long as no id like its own is issued. -/
theorem instance?_of_change {ids : IdSupply} {log next : RegistryLog} {n : Nat}
    (hchange : Change ids log n next) {id : String} {started : ProcessInstance}
    (hfind : log.instance? id = some started)
    (hids : ∀ m, ids.issued < m → m ≤ ids.issued + n → ids.text m ≠ id) :
    next.instance? id = some started := by
  cases hchange with
  | same => exact hfind
  | deployed => exact hfind
  | started =>
      rw [RegistryLog.instance?_started, if_neg]
      · exact hfind
      · exact hids (ids.issued + 1) (Nat.lt_succ_self _) (Nat.le_refl _)

def Session.KeepsOpen (number : Nat) : Session → List Step → Prop
  | _, [] => True
  | session, step :: rest =>
      ¬step.Closes session.handle number ∧ KeepsOpen number (session.step step).2.2 rest

/-- The run lemma: an instance stays as long as its registry is open. -/
theorem Refines.instance?_of_run {session : Session} {flat : LogSession}
    (h : Refines session flat) {number : Nat} {steps : List Step}
    (hopen : session.KeepsOpen number steps) {id : String} {started : ProcessInstance}
    (hfind : (flat.logAt number).instance? id = some started)
    (hids : ∀ m, flat.ids.issued < m → m ≤ (flat.run steps).2.ids.issued → flat.ids.text m ≠ id) :
    ((flat.run steps).2.logAt number).instance? id = some started := by
  -- by induction on the steps; the numbers of the ids issued by each of them follow on each other
  induction steps generalizing session flat with
  | nil => exact hfind
  | cons step rest ih =>
      obtain ⟨-, hnext⟩ := h.step step
      obtain ⟨n, hskip, hlogs⟩ := flat.step_change step
      obtain ⟨more, hrest⟩ := (flat.step step).2.ids_run rest
      have hlast : (flat.run (step :: rest)).2.ids.issued = flat.ids.issued + n + more := by
        show ((flat.step step).2.run rest).2.ids.issued = _
        rw [hrest, hskip]
        rfl
      rw [hlast] at hids
      obtain ⟨hcloses, -⟩ | hchange := hlogs number
      · exact absurd (funext h.handle_eq ▸ hcloses) hopen.1
      · have hstay := instance?_of_change hchange hfind fun m hm hle =>
          hids m hm (Nat.le_add_right_of_le hle)
        have hlater : ∀ m, (flat.step step).2.ids.issued < m →
            m ≤ ((flat.step step).2.run rest).2.ids.issued →
            (flat.step step).2.ids.text m ≠ id := by
          rw [hrest, hskip]
          exact fun m hm hle => hids m (Nat.lt_of_le_of_lt (Nat.le_add_right _ _) hm) hle
        exact ih hnext hopen.2 hstay hlater

end ProcessLaunch.InMemory

/-! ## 4. No key without versions -/

namespace ProcessLaunch.Registry

def Filled (registry : Registry) : Prop :=
  ∀ key versions, registry.definitions.get? key = some versions → versions ≠ []

theorem filled_empty : (∅ : Registry).Filled := by
  intro key versions h
  cases h

variable {registry : Registry}

theorem Filled.addDefinition (h : registry.Filled) (definition : ProcessDefinition) :
    (registry.addDefinition definition).Filled := by
  intro key versions hget
  rw [Registry.addDefinition, Table.get?_insert] at hget
  split at hget
  · cases hget
    exact List.append_ne_nil_of_right_ne_nil _ (List.cons_ne_nil _ _)
  · exact h key versions hget

theorem Filled.addKeys (h : registry.Filled) (resource : String) (keys : List String)
    (ids : IdSupply) : (Registry.addKeys resource keys registry ids).2.1.Filled := by
  induction keys generalizing registry ids with
  | nil => exact h
  | cons key keys ih => exact ih (h.addDefinition _) _

theorem Filled.deploy (h : registry.Filled) {disk : Disk} {root : String}
    {request : DeploymentRequest} {ids ids' : IdSupply} {deployment : Deployment}
    {registry' : Registry}
    (hdeploy : registry.deploy disk root request ids = .ok (deployment, registry', ids')) :
    registry'.Filled := by
  unfold Registry.deploy at hdeploy
  split at hdeploy
  · cases hdeploy
  next keys _ =>
    cases hdeploy
    exact h.addKeys request.resource keys ids

theorem Filled.start (h : registry.Filled) {key : String} {ids ids' : IdSupply}
    {started : ProcessInstance} {registry' : Registry}
    (hstart : registry.start key ids = .ok (started, registry', ids')) : registry'.Filled := by
  unfold Registry.start at hstart
  split at hstart
  · cases hstart
  · cases hstart
    exact h

end ProcessLaunch.Registry

namespace ProcessLaunch.InMemory

def Store.Filled (store : Store) : Prop := ∀ number, (store.registry number).Filled

theorem Store.Filled.update {store : Store} (h : store.Filled) {registry : Registry}
    (hregistry : registry.Filled) (number : Nat) (ids : IdSupply) :
    (store.update number registry ids).Filled := by
  intro other
  rw [registry_update]
  split
  · exact hregistry
  · exact h other

/-- No step leaves a key without a version. -/
theorem Store.Filled.step {store : Store} (h : store.Filled) (disk : Disk) (handle : Handle)
    (step : EngineStep) : ((engine disk handle).step store step).state.Filled := by
  -- a refused step leaves the store as it was, and closing leaves no keys
  cases step with
  | deploy request =>
      show (deploy disk handle request store).state.Filled
      unfold deploy
      split
      · exact h
      next hdeploy => exact h.update ((h _).deploy hdeploy) _ _
  | start key =>
      show (start handle key store).state.Filled
      unfold start
      split
      · exact h
      next hstart => exact h.update ((h _).start hstart) _ _
  | close => exact h.update Registry.filled_empty _ _
  | name => exact h

theorem filled_run {session : Session} (h : session.store.Filled) (steps : List Step) :
    (session.run steps).2.store.Filled := by
  induction steps generalizing session with
  | nil => exact h
  | cons step rest ih =>
      apply ih
      -- files and lookups do not touch the store
      cases step with
      | ask engine step => exact h.step _ _ step
      | create root =>
          intro number
          show ((InMemory.create root session.store).2.registry number).Filled
          rw [registry_create]
          exact h number
      | findInstance engine id => exact h
      | write path content => exact h
      | remove path => exact h
      | clone engine => exact h

theorem filled_begin (files : FileTree) (root : String) (ids : IdSupply) :
    (Session.begin files root ids).store.Filled := by
  intro number
  show ((InMemory.create root (.empty ids)).2.registry number).Filled
  rw [registry_create]
  exact Registry.filled_empty

end ProcessLaunch.InMemory

/-! ## 5. Consistent registries -/

namespace ProcessLaunch

/-- How the collections of a registry hang together. -/
structure Registry.Consistent (registry : Registry) : Prop where
  filled : ∀ key versions, registry.definitions.get? key = some versions → versions ≠ []
  numbered : ∀ key i definition, (registry.versions key)[i]? = some definition →
    definition.key = key ∧ definition.version = i + 1
  deployed : ∀ key,
    (registry.deployments.flatMap Deployment.definitions).filter (·.key = key) =
      registry.versions key
  owned : ∀ key, ∀ definition ∈ registry.versions key,
    ∃! deployment, deployment ∈ registry.deployments ∧ definition ∈ deployment.definitions
  running : ∀ id started, registry.instance? id = some started →
    started.id = id ∧ started.ended = false ∧ started.suspended = false ∧
      started.businessKey = none ∧
      ∃ definition ∈ registry.versions started.definitionKey, definition.id = started.definitionId
  distinct : ((registry.deployments.flatMap Deployment.definitions).map ProcessDefinition.id ++
    registry.deployments.map Deployment.id ++
    registry.instances.values.map ProcessInstance.id).Nodup

namespace RegistryLog

variable {registry : Registry} {log : RegistryLog}

theorem mem_instances_of_instance? {id : String} {started : ProcessInstance}
    (h : log.instance? id = some started) : started ∈ log.instances ∧ started.id = id := by
  have hid := List.find?_some h
  exact ⟨List.mem_reverse.mp (List.mem_of_find?_eq_some h), by simpa using hid⟩

theorem map_id_instances (h : Represents registry log) :
    registry.instances.values.map ProcessInstance.id = registry.instances.keys := by
  -- the log knows each instance of the registry under its key
  rw [Table.values, Table.keys, List.map_map]
  apply List.map_congr_left
  intro entry hentry
  have hget := (Table.get?_eq_some_iff _ _ _).mpr hentry
  exact (mem_instances_of_instance? ((h.instances entry.1).symm.trans hget)).2

/-- Where no definition occurs twice, each belongs to one deployment. -/
theorem existsUnique_deployment (hnodup : log.definitions.Nodup) {definition : ProcessDefinition}
    (h : definition ∈ log.definitions) :
    ∃! deployment, deployment ∈ log.deployments ∧ definition ∈ deployment.definitions := by
  obtain ⟨deployment, hmem, hdefinition⟩ := List.mem_flatMap.mp h
  refine ⟨deployment, ⟨hmem, hdefinition⟩, fun other hother => ?_⟩
  -- two deployments with the definition would have it twice among all definitions
  refine Classical.byContradiction fun hne => ?_
  have hsymm : Std.Symm (Function.onFun List.Disjoint Deployment.definitions) :=
    ⟨fun _ _ h _ ha hb => h hb ha⟩
  exact (List.nodup_flatMap.mp hnodup).2.forall hother.1 hmem hne hother.2 hdefinition

/-- The ids of a registry are distinct if those of its log are. -/
theorem Represents.nodup_ids (h : Represents registry log) (hnodup : log.ids.Nodup) :
    ((registry.deployments.flatMap Deployment.definitions).map ProcessDefinition.id ++
      registry.deployments.map Deployment.id ++
      registry.instances.values.map ProcessInstance.id).Nodup := by
  rw [map_id_instances h, h.deployments]
  obtain ⟨hfront, -, hapart⟩ := List.nodup_append.mp hnodup
  refine List.nodup_append.mpr ⟨hfront, Table.nodup_keys _, fun a ha id hid => ?_⟩
  -- every key of the table is the id of an instance in the log
  obtain ⟨entry, hentry, rfl⟩ := List.mem_map.mp hid
  have hget := (Table.get?_eq_some_iff _ _ _).mpr hentry
  obtain ⟨hmem, hself⟩ := mem_instances_of_instance? ((h.instances entry.1).symm.trans hget)
  exact hapart a ha entry.1 (List.mem_map.mpr ⟨entry.2, hmem, hself⟩)

theorem Represents.consistent (h : Represents registry log) {ids : IdSupply} {first : Nat}
    (hsound : log.Sound ids first) (hnodup : log.ids.Nodup) (hfilled : registry.Filled) :
    registry.Consistent where
  filled := hfilled
  numbered key i definition hget := by
    rw [h.versions] at hget
    have hkey := (List.mem_filter.mp (List.mem_of_getElem? hget)).2
    exact ⟨by simpa using hkey, hsound.numbered key i definition hget⟩
  deployed key := by
    rw [h.deployments, h.versions]
    rfl
  owned key definition hmem := by
    -- definitions differ because their ids do
    rw [h.versions] at hmem
    rw [h.deployments]
    have hdefinitions : (log.definitions.map ProcessDefinition.id).Nodup :=
      (List.nodup_append.mp (List.nodup_append.mp hnodup).1).1
    exact existsUnique_deployment (.of_map _ hdefinitions) (List.mem_filter.mp hmem).1
  running id started hget := by
    rw [h.instances] at hget
    obtain ⟨hmem, hid⟩ := mem_instances_of_instance? hget
    have hruns := hsound.running started hmem
    obtain ⟨definition, hdefinition, hkey, hdefinitionId⟩ := hruns.defined
    refine ⟨hid, hruns.notEnded, hruns.notSuspended, hruns.noBusinessKey, definition, ?_,
      hdefinitionId⟩
    rw [h.versions]
    exact List.mem_filter.mpr ⟨hdefinition, by simpa using hkey⟩
  distinct := h.nodup_ids hnodup

end RegistryLog

namespace InMemory

/-- A start that succeeds takes one id, and the instance is found under it from then on. -/
theorem LogSession.start_eq_started {flat : LogSession} {engine : Nat} {key : String}
    {started : ProcessInstance} (h : (flat.start engine key).1 = .started started) :
    engine < flat.engines.length ∧ started.id = flat.ids.text (flat.ids.issued + 1) ∧
      (flat.start engine key).2.ids = flat.ids.skip 1 ∧
      ((flat.start engine key).2.logAt (flat.handle engine).registry).instance? started.id =
        some started := by
  -- without a version there is nothing to start
  cases hlast : (flat.log engine).last? key with
  | none =>
      simp only [start, hlast] at h
      cases h
  | some definition =>
      simp only [start, hlast] at h ⊢
      cases h
      obtain ⟨hengine, hlog⟩ := made_of_last? hlast
      refine ⟨hengine, rfl, rfl, ?_⟩
      have hset := getD_set_eq flat.logs (flat.handle engine).registry
        (flat.handle engine).registry
        ((flat.log engine).started (RegistryLog.newInstance flat.ids definition)) .empty
      rw [if_pos ⟨rfl, hlog⟩] at hset
      show RegistryLog.instance? (List.getD _ _ _) _ = _
      rw [record, hset, RegistryLog.instance?_started, if_pos rfl]

/-- The instance that a start answered stays with the registry of the engine that started it. -/
theorem Refines.started_stays {session : Session} {flat : LogSession} (h : Refines session flat)
    {ids : IdSupply} (hsound : flat.SoundFrom ids) {engine : Nat} {key : String}
    {started : ProcessInstance} {after : List Step} {next last : Session}
    (hnext : (session.step (.ask engine (.start key))).2.2 = next)
    (hlast : (next.run after).2 = last) (hfresh : ids.Fresh last.store.ids.issued)
    (hstart : (session.step (.ask engine (.start key))).1 = .answered (.started started))
    (hopen : next.KeepsOpen (session.handle engine).registry after) :
    (last.handle engine).registry = (session.handle engine).registry ∧
      ∀ other, (last.handle other).registry = (session.handle engine).registry →
        (last.registry other).instance? started.id = some started := by
  subst hnext hlast
  obtain ⟨hanswer, hrefines⟩ := h.step (.ask engine (.start key))
  have hflat : (flat.start engine key).1 = .started started :=
    Answer.answered.inj (hanswer.symm.trans hstart)
  obtain ⟨hengine, hid, hskip, hfind⟩ := LogSession.start_eq_started hflat
  have hend : Refines _ ((flat.start engine key).2.run after).2 := (hrefines.run after).2
  rw [hend.ids] at hfresh
  rw [h.handle_eq] at hopen ⊢
  constructor
  · have hhandle := LogSession.handle_run hengine (.ask engine (.start key) :: after)
    rw [hend.handle_eq]
    exact congrArg Handle.registry hhandle
  · intro other hother
    rw [hend.handle_eq] at hother
    rw [(hend.represents other).instances]
    show (LogSession.logAt _ (LogSession.handle _ other).registry).instance? started.id = _
    rw [hother]
    refine hrefines.instance?_of_run hopen hfind fun m hm hle heq => ?_
    -- an id that is issued later has a greater number
    have hlater : flat.ids.issued + 1 < m := by
      have hm : (flat.start engine key).2.ids.issued < m := hm
      rwa [hskip] at hm
    have hsame : ids.text m = ids.text (flat.ids.issued + 1) := by
      have heq : (flat.start engine key).2.ids.text m = started.id := heq
      rw [hskip, hid] at heq
      rw [← hsound.text]
      exact heq
    have hissued := hsound.issued
    have hle : m ≤ ((flat.start engine key).2.run after).2.ids.issued := hle
    have hequal := hfresh.distinct m (flat.ids.issued + 1) (by omega) hle (by omega) (by omega) hsame
    omega

/-- After any steps of a session, every registry is consistent; and the instance that a start
answered is found under its id by every engine on the same registry, whatever is done after that,
until one of them is closed.  The ids that were issued are assumed to be fresh. -/
theorem registries_stay_consistent (files : FileTree) (root : String) (ids : IdSupply) :
    (∀ steps,
      let session := ((Session.begin files root ids).run steps).2
      ids.Fresh session.store.ids.issued →
      ∀ engine, (session.registry engine).Consistent) ∧
    ∀ before after engine key started,
      let session := ((Session.begin files root ids).run before).2
      let next := session.step (.ask engine (.start key))
      let last := (next.2.2.run after).2
      ids.Fresh last.store.ids.issued →
      next.1 = .answered (.started started) →
      next.2.2.KeepsOpen (session.handle engine).registry after →
      (last.handle engine).registry = (session.handle engine).registry ∧
      ∀ other, (last.handle other).registry = (session.handle engine).registry →
        (last.registry other).instance? started.id = some started := by
  constructor
  · intro steps session hfresh engine
    obtain ⟨-, hrefines⟩ := (refines_begin files root ids).run steps
    have hsound := (LogSession.soundFrom_begin files root ids).run hfresh.unmarked steps
    have hlog := hsound.logs
      (((LogSession.begin files root ids).run steps).2.handle engine).registry
    have hfilled := filled_run (filled_begin files root ids) steps
    rw [hrefines.ids] at hfresh
    exact (hrefines.represents engine).consistent hlog (hlog.issued.nodup hsound.text hfresh)
      (hfilled _)
  · intro before after engine key started session next last hfresh hstart hopen
    obtain ⟨-, hrefines⟩ := (refines_begin files root ids).run before
    have hsound := (LogSession.soundFrom_begin files root ids).run hfresh.unmarked before
    exact hrefines.started_stays hsound rfl rfl hfresh hstart hopen

def twinModel : ByteArray :=
  "<definitions><process id=\"x\"></process><process id=\"x\"></process></definitions>".toUTF8

def twinFiles : FileTree := ⟨[], [([['p']], .file twinModel)]⟩

def twinIds : IdSupply := Uuid.supply ((List.range 160).map UInt8.ofNat)

def twinSteps : List Step :=
  [.clone 0, .ask 0 (.deploy ⟨"p", "p"⟩), .ask 1 (.deploy ⟨"q", "q"⟩)]

def laterSteps : List Step :=
  [.ask 1 (.deploy ⟨"p", "p"⟩), .ask 1 (.start "x"), .create ".", .ask 2 .close]

def twinSession : Session := ((Session.begin twinFiles "/" twinIds).run twinSteps).2

def twinStart : Answer × List LogRecord × Session := twinSession.step (.ask 0 (.start "x"))

def twinStarted : ProcessInstance :=
  { id := "30313233-3435-4637-b839-3a3b3c3d3e3f", definitionKey := "x"
    definitionId := "x:2:10111213-1415-4617-9819-1a1b1c1d1e1f"
    businessKey := none, ended := false, suspended := false }

def laterSession : Session := (twinStart.2.2.run laterSteps).2

theorem registries_stay_consistent_twin :
    twinIds.Fresh twinSession.store.ids.issued ∧ twinIds.Fresh laterSession.store.ids.issued ∧
      twinStart.1 = .answered (.started twinStarted) ∧
      twinStart.2.2.KeepsOpen (twinSession.handle 0).registry laterSteps ∧
      (laterSession.handle 1).registry = (twinSession.handle 0).registry ∧
      (twinSession.registry 1).Consistent ∧
      (laterSession.registry 1).instance? twinStarted.id = some twinStarted := by
  have hissued : twinSession.store.ids.issued = 3 := by decide +kernel
  have hlast : laterSession.store.ids.issued = 8 := by decide +kernel
  -- a supply of a few ids is decided id by id
  have hfew : twinIds.Fresh twinSession.store.ids.issued := by
    rw [hissued]
    exact Uuid.fresh_supply (by decide +kernel)
  have hall : twinIds.Fresh laterSession.store.ids.issued := by
    rw [hlast]
    exact Uuid.fresh_supply (by decide +kernel)
  have hstart : twinStart.1 = .answered (.started twinStarted) := by decide +kernel
  have hopen : twinStart.2.2.KeepsOpen (twinSession.handle 0).registry laterSteps := by
    refine ⟨id, id, id, ?_, trivial⟩
    show ¬_ = _
    decide +kernel
  have hshared : (laterSession.handle 1).registry = (twinSession.handle 0).registry := by
    decide +kernel
  obtain ⟨hconsistent, hstays⟩ := registries_stay_consistent twinFiles "/" twinIds
  obtain ⟨-, hfound⟩ := hstays twinSteps laterSteps 0 "x" twinStarted hall hstart hopen
  exact ⟨hfew, hall, hstart, hopen, hshared, hconsistent twinSteps hfew 1, hfound 1 hshared⟩

end InMemory

end ProcessLaunch
