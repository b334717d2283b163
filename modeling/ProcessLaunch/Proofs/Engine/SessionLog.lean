import ProcessLaunch.Engine.Session
import ProcessLaunch.Proofs.Engine.RegistryLog

/-!
# Sessions told by logs

A session that keeps a log for every registry, and decides every step by the logs alone, answers
what a session of engines in memory answers.
-/

namespace ProcessLaunch.InMemory

structure LogSession where
  files : FileTree
  engines : List Handle
  logs : List RegistryLog
  ids : IdSupply

namespace LogSession

def begin (files : FileTree) (root : String) (ids : IdSupply) : LogSession :=
  ⟨files, [⟨root, 0⟩], [.empty], ids⟩

def handle (session : LogSession) (engine : Nat) : Handle :=
  session.engines.getD engine ⟨"", session.logs.length⟩

def log (session : LogSession) (engine : Nat) : RegistryLog :=
  session.logs.getD (session.handle engine).registry .empty

/-- The session with another log in place of the one that an engine works on, after some ids have
been issued. -/
def record (session : LogSession) (engine : Nat) (log : RegistryLog) (issued : Nat) : LogSession :=
  { session with
    logs := session.logs.set (session.handle engine).registry log
    ids := session.ids.skip issued }

/-- Deploys a resource that defines some keys, or was refused.  An id is issued for each definition
and one for the deployment. -/
def deploy (session : LogSession) (engine : Nat) (request : DeploymentRequest) :
    Except EngineError (List String) → EngineAnswer × LogSession
  | .error e => (.refused e, session)
  | .ok keys =>
      let log := session.log engine
      let deployment := log.newDeployment session.ids request keys
      (.deployed deployment, session.record engine (log.deployed deployment) (keys.length + 1))

def start (session : LogSession) (engine : Nat) (key : String) : EngineAnswer × LogSession :=
  let log := session.log engine
  match log.last? key with
  | none => (.refused (.processDefinitionNotFound key), session)
  | some definition =>
      let started := RegistryLog.newInstance session.ids definition
      (.started started, session.record engine (log.started started) 1)

def ask (session : LogSession) (engine : Nat) : EngineStep → EngineAnswer × LogSession
  | .deploy request =>
      session.deploy engine request
        (Registry.readKeys session.files.disk (session.handle engine).root request.resource)
  | .start key => session.start engine key
  | .close => (.closed, session.record engine .empty 0)
  | .name => (.name engineName, session)

/-- Takes one step.  A clone works on the log of its origin, and a new engine on a log of its
own. -/
def step (session : LogSession) : Step → Answer × LogSession
  | .ask engine step =>
      let (answer, session) := session.ask engine step
      (.answered answer, session)
  | .findInstance engine id => (.found ((session.log engine).instance? id), session)
  | .write path content => (.written, { session with files := session.files.write path content })
  | .remove path => (.removed, { session with files := session.files.remove path })
  | .clone engine =>
      (.engine session.engines.length,
        { session with engines := session.engines ++ [session.handle engine] })
  | .create root =>
      (.engine session.engines.length,
        { session with
          engines := session.engines ++ [⟨root, session.logs.length⟩]
          logs := session.logs ++ [.empty] })

def run (session : LogSession) : List Step → List Answer × LogSession
  | [] => ([], session)
  | step :: rest =>
      let (answer, next) := session.step step
      let (answers, last) := next.run rest
      (answer :: answers, last)

end LogSession

def Session.run (session : Session) : List Step → List Answer × Session
  | [] => ([], session)
  | step :: rest =>
      let (answer, _, next) := session.step step
      let (answers, last) := next.run rest
      (answer :: answers, last)

/-! ## 1. Simulation -/

/-- The two sessions agree on files, engines and ids, and every registry is told by its log. -/
structure Refines (session : Session) (flat : LogSession) : Prop where
  files : session.files = flat.files
  engines : session.engines = flat.engines
  ids : session.store.ids = flat.ids
  length : session.store.registries.length = flat.logs.length
  registries : ∀ number,
    RegistryLog.Represents (session.store.registry number) (flat.logs.getD number .empty)

theorem refines_begin (files : FileTree) (root : String) (ids : IdSupply) :
    Refines (Session.begin files root ids) (LogSession.begin files root ids) where
  files := rfl
  engines := rfl
  ids := rfl
  length := rfl
  registries number := by
    show RegistryLog.Represents (([] ++ [∅] : List Registry).getD number ∅)
      (([] ++ [.empty] : List RegistryLog).getD number .empty)
    rw [getD_concat_default, getD_concat_default]
    exact RegistryLog.represents_empty

namespace Refines

variable {session : Session} {flat : LogSession}

theorem handle_eq (h : Refines session flat) (engine : Nat) :
    session.handle engine = flat.handle engine := by
  rw [Session.handle, LogSession.handle, h.engines, h.length]

theorem represents (h : Refines session flat) (engine : Nat) :
    RegistryLog.Represents (session.registry engine) (flat.log engine) := by
  rw [Session.registry, h.handle_eq]
  exact h.registries _

/-- The registry of one engine and its log change together. -/
theorem record (h : Refines session flat) (engine : Nat) {registry : Registry} {log : RegistryLog}
    (hrepresents : RegistryLog.Represents registry log) (issued : Nat) :
    Refines
      { session with
        store := session.store.update (session.handle engine).registry registry
          (session.store.ids.skip issued) }
      (flat.record engine log issued) where
  files := h.files
  engines := h.engines
  ids := by
    show session.store.ids.skip issued = flat.ids.skip issued
    rw [h.ids]
  length := by
    show (session.store.registries.set _ _).length = (flat.logs.set _ _).length
    rw [List.length_set, List.length_set, h.length]
  registries number := by
    -- the registry of the engine has the new log, and every other has its own
    show RegistryLog.Represents ((session.store.registries.set _ _).getD number ∅)
      ((flat.logs.set _ _).getD number .empty)
    rw [getD_set_eq, getD_set_eq, h.handle_eq, h.length]
    split
    · exact hrepresents
    · exact h.registries number

/-- What is asked of an engine is answered by its log, which then tells of the new registry. -/
theorem ask (h : Refines session flat) (engine : Nat) (step : EngineStep) :
    let outcome :=
      (InMemory.engine session.files.disk (session.handle engine)).step session.store step
    outcome.answer = (flat.ask engine step).1 ∧
      Refines { session with store := outcome.state } (flat.ask engine step).2 := by
  have hrep : RegistryLog.Represents (session.store.registry (session.handle engine).registry)
      (flat.log engine) := h.represents engine
  -- both sides look at the same keys or the same last definition: it is named once for both
  cases step with
  | deploy request =>
      have hdeploy := deploy_eq hrep session.files.disk request
      simp only [Engine.step, InMemory.engine, LogSession.ask]
      rw [← h.files, ← h.handle_eq]
      generalize Registry.readKeys session.files.disk (session.handle engine).root
        request.resource = keys at hdeploy ⊢
      cases keys with
      | error e =>
          rw [hdeploy]
          exact ⟨rfl, h⟩
      | ok keys =>
          obtain ⟨registry, records, hrepresents, hok⟩ := hdeploy
          rw [hok, LogSession.deploy, ← h.ids]
          exact ⟨rfl, h.record engine hrepresents _⟩
  | start key =>
      have hstart := start_eq hrep key
      simp only [Engine.step, InMemory.engine, LogSession.ask, LogSession.start]
      rw [← h.ids]
      generalize (flat.log engine).last? key = last at hstart ⊢
      cases last with
      | none =>
          rw [hstart]
          exact ⟨rfl, h⟩
      | some definition =>
          obtain ⟨registry, hrepresents, hok⟩ := hstart
          rw [hok]
          exact ⟨rfl, h.record engine hrepresents _⟩
  -- a closed engine starts over, without an id being issued
  | close => exact ⟨rfl, h.record engine RegistryLog.represents_empty 0⟩
  | name => exact ⟨rfl, h⟩

/-- The step lemma: the two sessions give the same answer and go on to agree. -/
theorem step (h : Refines session flat) (step : Step) :
    (session.step step).1 = (flat.step step).1 ∧
      Refines (session.step step).2.2 (flat.step step).2 := by
  cases step with
  | ask engine step =>
      obtain ⟨hanswer, hrefines⟩ := h.ask engine step
      exact ⟨congrArg Answer.answered hanswer, hrefines⟩
  | findInstance engine id =>
      refine ⟨?_, h⟩
      show Answer.found _ = Answer.found _
      rw [(h.represents engine).instances]
  | write path content =>
      exact ⟨rfl, { h with files := congrArg (·.write path content) h.files }⟩
  | remove path => exact ⟨rfl, { h with files := congrArg (·.remove path) h.files }⟩
  | clone engine =>
      refine ⟨?_, { h with engines := ?_ }⟩
      · show Answer.engine session.engines.length = .engine flat.engines.length
        rw [h.engines]
      · show session.engines ++ [session.handle engine] = flat.engines ++ [flat.handle engine]
        rw [h.engines, h.handle_eq]
  -- the new registry is empty, and so is the place behind the last log
  | create root =>
      refine ⟨?_, { h with engines := ?_, length := ?_, registries := fun number => ?_ }⟩
      · show Answer.engine session.engines.length = .engine flat.engines.length
        rw [h.engines]
      · show session.engines ++ [⟨root, session.store.registries.length⟩] =
          flat.engines ++ [⟨root, flat.logs.length⟩]
        rw [h.engines, h.length]
      · show (session.store.registries ++ [∅]).length = (flat.logs ++ [RegistryLog.empty]).length
        rw [List.length_append, List.length_append, h.length]
        rfl
      · show RegistryLog.Represents ((session.store.registries ++ [∅]).getD number ∅)
          ((flat.logs ++ [RegistryLog.empty]).getD number .empty)
        rw [getD_concat_default, getD_concat_default]
        exact h.registries number

/-- The run lemma: step by step, the two sessions give the same answers and agree in the end. -/
theorem run (h : Refines session flat) (steps : List Step) :
    (session.run steps).1 = (flat.run steps).1 ∧
      Refines (session.run steps).2 (flat.run steps).2 := by
  -- by induction on the steps; the step lemma carries the agreement from one to the next
  induction steps generalizing session flat with
  | nil => exact ⟨rfl, h⟩
  | cons step rest ih =>
      obtain ⟨hanswer, hnext⟩ := h.step step
      obtain ⟨hanswers, hlast⟩ := ih hnext
      refine ⟨?_, hlast⟩
      show (session.step step).1 :: ((session.step step).2.2.run rest).1 =
        (flat.step step).1 :: ((flat.step step).2.run rest).1
      rw [hanswer, hanswers]

end Refines

/-! ## 2. Engines and their logs -/

def Step.Names (made : Nat) : Step → Prop
  | .ask engine _ => engine < made
  | .findInstance engine _ => engine < made
  | .clone engine => engine < made
  | _ => True

def Step.makes : Step → Nat
  | .clone _ => 1
  | .create _ => 1
  | _ => 0

/-- Whether every step names an engine that has been made before it. -/
def NamesMade (made : Nat) : List Step → Prop
  | [] => True
  | step :: rest => step.Names made ∧ NamesMade (made + step.makes) rest

namespace LogSession

def Within (session : LogSession) : Prop :=
  ∀ handle ∈ session.engines, handle.registry < session.logs.length

theorem handle_mem {session : LogSession} {engine : Nat} (h : engine < session.engines.length) :
    session.handle engine ∈ session.engines := by
  rw [handle, List.getD_eq_getElem _ _ h]
  exact List.getElem_mem h

/-- What is recorded of one engine is the log of all engines that share its registry, and the other
logs stay as they are. -/
theorem log_record {session : LogSession} (hwithin : session.Within) {engine other : Nat}
    (hengine : engine < session.engines.length) (log : RegistryLog) (issued : Nat) :
    (session.record engine log issued).log other =
      if (session.handle engine).registry = (session.handle other).registry then log
      else session.log other := by
  have hlt := hwithin _ (handle_mem hengine)
  have hhandle : (session.record engine log issued).handle other = session.handle other := by
    show List.getD _ _ _ = List.getD _ _ _
    rw [record, List.length_set]
  rw [LogSession.log, hhandle]
  show (session.logs.set (session.handle engine).registry log).getD _ .empty = _
  rw [getD_set_eq]
  by_cases heq : (session.handle engine).registry = (session.handle other).registry
  · rw [← heq, if_pos ⟨rfl, hlt⟩, if_pos rfl]
  · rw [if_neg (fun h => heq h.1), if_neg heq, LogSession.log]

theorem within_record {session : LogSession} (hwithin : session.Within) (engine : Nat)
    (log : RegistryLog) (issued : Nat) : (session.record engine log issued).Within := by
  intro handle hhandle
  show handle.registry < (session.logs.set _ _).length
  rw [List.length_set]
  exact hwithin handle hhandle

/-- Asking leaves the engines as they are, and each of them with a log. -/
theorem ask_within {session : LogSession} (hwithin : session.Within) (engine : Nat)
    (step : EngineStep) :
    (session.ask engine step).2.engines = session.engines ∧
      (session.ask engine step).2.Within := by
  cases step with
  | deploy request =>
      rw [ask]
      cases Registry.readKeys session.files.disk (session.handle engine).root request.resource with
      | error e => exact ⟨rfl, hwithin⟩
      | ok keys => exact ⟨rfl, within_record hwithin _ _ _⟩
  | start key =>
      rw [ask, start]
      split
      · exact ⟨rfl, hwithin⟩
      · exact ⟨rfl, within_record hwithin _ _ _⟩
  | close => exact ⟨rfl, within_record hwithin _ _ _⟩
  | name => exact ⟨rfl, hwithin⟩

/-- A step makes as many engines as it says, and each works on a log of the session. -/
theorem step_within {session : LogSession} (hwithin : session.Within) {step : Step}
    (hnames : step.Names session.engines.length) :
    (session.step step).2.engines.length = session.engines.length + step.makes ∧
      (session.step step).2.Within := by
  cases step with
  | ask engine step =>
      obtain ⟨hengines, hwithin'⟩ := ask_within hwithin engine step
      exact ⟨congrArg List.length hengines, hwithin'⟩
  | findInstance engine id => exact ⟨rfl, hwithin⟩
  | write path content => exact ⟨rfl, hwithin⟩
  | remove path => exact ⟨rfl, hwithin⟩
  | clone engine =>
      refine ⟨List.length_append, fun handle hhandle => ?_⟩
      -- the clone works on the log of its origin
      rcases List.mem_append.mp hhandle with hold | hnew
      · exact hwithin handle hold
      · rw [List.mem_singleton.mp hnew]
        exact hwithin _ (handle_mem hnames)
  | create root =>
      refine ⟨List.length_append, fun handle hhandle => ?_⟩
      show handle.registry < (session.logs ++ [RegistryLog.empty]).length
      rw [List.length_append, List.length_singleton]
      rcases List.mem_append.mp hhandle with hold | hnew
      · have := hwithin handle hold
        omega
      · rw [List.mem_singleton.mp hnew]
        exact Nat.lt_succ_self _

/-- Steps that name engines made before them only leave every engine with a log. -/
theorem run_within {session : LogSession} (hwithin : session.Within) {steps : List Step}
    (hnames : NamesMade session.engines.length steps) : (session.run steps).2.Within := by
  induction steps generalizing session with
  | nil => exact hwithin
  | cons step rest ih =>
      obtain ⟨hengines, hnext⟩ := step_within hwithin hnames.1
      apply ih hnext
      rw [hengines]
      exact hnames.2

theorem within_begin (files : FileTree) (root : String) (ids : IdSupply) :
    (begin files root ids).Within := by
  intro handle hhandle
  rw [List.mem_singleton.mp hhandle]
  exact Nat.zero_lt_one

end LogSession

/-! ## 3. Sessions -/

/-- A key can be started exactly if the log has it. -/
theorem Refines.start_iff {session : Session} {flat : LogSession} (h : Refines session flat)
    (engine : Nat) (key : String) :
    (∃ started, (session.step (.ask engine (.start key))).1 = .answered (.started started)) ↔
      key ∈ (flat.log engine).keys := by
  rw [(h.step (.ask engine (.start key))).1, ← RegistryLog.isSome_last?_iff]
  show (∃ started, Answer.answered (flat.start engine key).1 = .answered (.started started)) ↔ _
  rw [LogSession.start]
  cases (flat.log engine).last? key with
  | none => simp
  | some definition => simp

/-- Engines in memory answer what their logs say, and can be told from their logs at any time: the
number of deployments, the instances, the last definition of every key, and the keys that can be
started.  As long as only engines are named that have been made, what one of them records is from
then on the log of all that share its registry, and of no other. -/
theorem session_refines_log (files : FileTree) (root : String) (ids : IdSupply)
    (steps : List Step) :
    let session := ((Session.begin files root ids).run steps).2
    let flat := ((LogSession.begin files root ids).run steps).2
    ((Session.begin files root ids).run steps).1 = ((LogSession.begin files root ids).run steps).1 ∧
      (∀ engine,
        (session.registry engine).deploymentCount = (flat.log engine).deployments.length ∧
        (∀ id, (session.registry engine).instance? id = (flat.log engine).instance? id) ∧
        (session.registry engine).latestDefinitions.Pairwise (fun a b => a.key < b.key) ∧
        (∀ definition, definition ∈ (session.registry engine).latestDefinitions ↔
          (flat.log engine).last? definition.key = some definition) ∧
        (∀ key, ((flat.log engine).last? key).isSome ↔ key ∈ (flat.log engine).keys) ∧
        (∀ key, (∃ started,
          (session.step (.ask engine (.start key))).1 = .answered (.started started)) ↔
            key ∈ (flat.log engine).keys)) ∧
      (NamesMade 1 steps → ∀ engine < flat.engines.length, ∀ other log issued,
        (flat.record engine log issued).log other =
          if (flat.handle engine).registry = (flat.handle other).registry then log
          else flat.log other) := by
  obtain ⟨hanswers, hrefines⟩ := (refines_begin files root ids).run steps
  refine ⟨hanswers, fun engine => ?_, fun hnames engine hengine other log issued => ?_⟩
  · have hrep := hrefines.represents engine
    refine ⟨?_, hrep.instances, hrep.pairwise_latestDefinitions, hrep.mem_latestDefinitions,
      RegistryLog.isSome_last?_iff _, hrefines.start_iff engine⟩
    rw [Registry.deploymentCount, hrep.deployments]
  · have hwithin := LogSession.run_within (LogSession.within_begin files root ids) hnames
    exact LogSession.log_record hwithin hengine log issued

end ProcessLaunch.InMemory
