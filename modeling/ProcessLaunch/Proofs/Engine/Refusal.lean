import ProcessLaunch.Engine.Session

/-!
# Refused steps

An engine in memory refuses to deploy what it cannot read or what defines no executable process, and
to start what has not been deployed.  A refused step changes nothing at all, so that any number of
them can be left out of a session without a trace.
-/

namespace ProcessLaunch

/-! ## 1. Reading a resource -/

namespace Registry

variable {disk : Disk} {root resource text : String}

theorem readKeys_of_unread {cause : FileError}
    (hread : disk.readText (Path.under root resource) = .error cause) :
    readKeys disk root resource = .error (.ofResource resource cause) := by
  unfold readKeys
  rw [hread]

/-- A model that cannot be read is refused with the message of its first fault. -/
theorem readKeys_of_error (htext : disk.readText (Path.under root resource) = .ok text)
    {e : Markup.Error} (h : Bpmn.executableProcessIds text = .error e) :
    readKeys disk root resource = .error (.invalidDefinition resource e.message) := by
  unfold readKeys
  rw [htext]
  simp only [h]

theorem readKeys_of_nil (htext : disk.readText (Path.under root resource) = .ok text)
    (h : Bpmn.executableProcessIds text = .ok []) :
    readKeys disk root resource =
      .error (.invalidDefinition resource "no executable process found") := by
  unfold readKeys
  rw [htext]
  simp only [h]

theorem readKeys_of_ok (htext : disk.readText (Path.under root resource) = .ok text)
    {keys : List String} (h : Bpmn.executableProcessIds text = .ok keys) (hne : keys ≠ []) :
    readKeys disk root resource = .ok keys := by
  unfold readKeys
  rw [htext]
  cases keys with
  | nil => exact absurd rfl hne
  | cons key keys => simp only [h]

end Registry

theorem EngineError.ofResource_of_ne {cause : FileError} (h : cause ≠ .notFound)
    (resource : String) : EngineError.ofResource resource cause = .unreadable cause := by
  cases cause with
  | notFound => exact absurd rfl h
  | _ => rfl

namespace InMemory

/-! ## 2. Which steps are refused -/

def Session.readResource (session : Session) (engine : Nat) (request : DeploymentRequest) :
    Except FileError String :=
  session.files.disk.readText (Path.under (session.handle engine).root request.resource)

/-- The steps that a session refuses, each with its cause. -/
inductive Refuses (session : Session) : Step → EngineError → Prop
  | missing {engine : Nat} {request : DeploymentRequest}
      (h : session.readResource engine request = .error .notFound) :
      Refuses session (.ask engine (.deploy request)) (.resourceNotFound request.resource)
  | unreadable {engine : Nat} {request : DeploymentRequest} {cause : FileError}
      (h : session.readResource engine request = .error cause) (hcause : cause ≠ .notFound) :
      Refuses session (.ask engine (.deploy request)) (.unreadable cause)
  | malformed {engine : Nat} {request : DeploymentRequest} {text : String} {fault : Markup.Error}
      (h : session.readResource engine request = .ok text)
      (hfault : Bpmn.executableProcessIds text = .error fault) :
      Refuses session (.ask engine (.deploy request))
        (.invalidDefinition request.resource fault.message)
  | noProcess {engine : Nat} {request : DeploymentRequest} {text : String}
      (h : session.readResource engine request = .ok text)
      (hids : Bpmn.executableProcessIds text = .ok []) :
      Refuses session (.ask engine (.deploy request))
        (.invalidDefinition request.resource "no executable process found")
  | unknown {engine : Nat} {key : String} (h : (session.registry engine).versions key = []) :
      Refuses session (.ask engine (.start key)) (.processDefinitionNotFound key)

theorem deploy_of_readKeys_error {disk : Disk} {handle : Handle} {request : DeploymentRequest}
    {store : Store} {e : EngineError}
    (h : Registry.readKeys disk handle.root request.resource = .error e) :
    deploy disk handle request store = .error e store := by
  unfold deploy Registry.deploy
  rw [h]

variable {session : Session} {engine : Nat} {request : DeploymentRequest} {key : String}
  {e : EngineError}

/-- A refused deployment leaves the session as it was, ids included, and logs nothing. -/
theorem step_deploy_of_error
    (h : Registry.readKeys session.files.disk (session.handle engine).root request.resource =
      .error e) :
    session.step (.ask engine (.deploy request)) = (.answered (.refused e), [], session) := by
  have hdeploy : deploy session.files.disk (session.handle engine) request session.store =
      .error e session.store := deploy_of_readKeys_error h
  simp only [Session.step, Engine.step, InMemory.engine, hdeploy]
  rfl

theorem step_deploy_of_ok {keys : List String}
    (h : Registry.readKeys session.files.disk (session.handle engine).root request.resource =
      .ok keys) :
    ∃ deployment,
      (session.step (.ask engine (.deploy request))).1 = .answered (.deployed deployment) := by
  simp only [Session.step, Engine.step, InMemory.engine, deploy, Registry.deploy, h]
  exact ⟨_, rfl⟩

/-- A start without a version is refused, and leaves the session as it was. -/
theorem step_start_of_nil (h : (session.registry engine).versions key = []) :
    session.step (.ask engine (.start key)) =
      (.answered (.refused (.processDefinitionNotFound key)), [], session) := by
  have hregistry : (session.store.registry (session.handle engine).registry).versions key = [] := h
  simp only [Session.step, Engine.step, InMemory.engine, start, Registry.start, hregistry]
  rfl

theorem step_start_of_ne (h : (session.registry engine).versions key ≠ []) :
    ∃ started, (session.step (.ask engine (.start key))).1 = .answered (.started started) := by
  have hlast : ((session.store.registry (session.handle engine).registry).versions key).getLast? =
      some (((session.registry engine).versions key).getLast h) :=
    List.getLast?_eq_some_getLast h
  simp only [Session.step, Engine.step, InMemory.engine, start, Registry.start, hlast]
  exact ⟨_, rfl⟩

/-- A refused step is answered with its cause, and nothing else comes of it. -/
theorem Refuses.step_eq {step : Step} (h : Refuses session step e) :
    session.step step = (.answered (.refused e), [], session) := by
  cases h with
  | missing h => exact step_deploy_of_error (Registry.readKeys_of_unread h)
  | unreadable h hcause =>
      apply step_deploy_of_error
      rw [Registry.readKeys_of_unread h, EngineError.ofResource_of_ne hcause]
  | malformed h hfault => exact step_deploy_of_error (Registry.readKeys_of_error h hfault)
  | noProcess h hids => exact step_deploy_of_error (Registry.readKeys_of_nil h hids)
  | unknown h => exact step_start_of_nil h

/-- Whatever an engine is asked to deploy, it has a cause to refuse it or deploys it. -/
theorem refuses_or_deploys (session : Session) (engine : Nat) (request : DeploymentRequest) :
    (∃ e, Refuses session (.ask engine (.deploy request)) e) ∨
      ∃ deployment,
        (session.step (.ask engine (.deploy request))).1 = .answered (.deployed deployment) := by
  -- reading, scanning and counting the processes are looked at in turn, as a deployment does
  cases hread : session.readResource engine request with
  | error cause =>
      by_cases hcause : cause = .notFound
      · subst hcause
        exact .inl ⟨_, .missing hread⟩
      · exact .inl ⟨_, .unreadable hread hcause⟩
  | ok text =>
      cases hids : Bpmn.executableProcessIds text with
      | error fault => exact .inl ⟨_, .malformed hread hids⟩
      | ok keys =>
          by_cases hnil : keys = []
          · subst hnil
            exact .inl ⟨_, .noProcess hread hids⟩
          · exact .inr (step_deploy_of_ok (Registry.readKeys_of_ok hread hids hnil))

/-- The steps that are refused are those with a cause. -/
theorem refused_iff (session : Session) (step : Step) (e : EngineError) :
    (session.step step).1 = .answered (.refused e) ↔ Refuses session step e := by
  constructor
  · intro h
    -- a step with some cause is answered with that cause, so it is the cause in question
    have hcause : (∃ e', Refuses session step e') → Refuses session step e := by
      rintro ⟨e', hrefuses⟩
      rw [hrefuses.step_eq] at h
      cases h
      exact hrefuses
    cases step with
    | ask engine step =>
        cases step with
        | deploy request =>
            rcases refuses_or_deploys session engine request with hrefuses | ⟨deployment, hdeployed⟩
            · exact hcause hrefuses
            · cases hdeployed.symm.trans h
        | start key =>
            by_cases hnil : (session.registry engine).versions key = []
            · exact hcause ⟨_, .unknown hnil⟩
            · obtain ⟨started, hstarted⟩ := step_start_of_ne hnil
              cases hstarted.symm.trans h
        -- no other step is ever refused
        | close => cases h
        | name => cases h
    | findInstance engine id => cases h
    | write path content => cases h
    | remove path => cases h
    | clone engine => cases h
    | create root => cases h
  · intro h
    rw [h.step_eq]

/-! ## 3. Leaving steps out -/

def Session.trail (session : Session) : List Step → List (Answer × List LogRecord × Session)
  | [] => []
  | step :: rest => session.step step :: (session.step step).2.2.trail rest

/-- Whether all steps that are marked are refused where they are taken. -/
def Session.MarksRefused : Session → List (Step × Bool) → Prop
  | _, [] => True
  | session, (step, marked) :: rest =>
      (marked = true → ∃ e, (session.step step).1 = .answered (.refused e)) ∧
        (session.step step).2.2.MarksRefused rest

def unmarked {α : Type} (list : List (α × Bool)) : List α :=
  (list.filter fun entry => !entry.2).map Prod.fst

/-- Behind a refused step a session goes on as if it had not been taken. -/
theorem trail_behind_refused {session : Session} {step : Step} {e : EngineError}
    (h : (session.step step).1 = .answered (.refused e)) (rest : List Step) :
    (session.step step).2.2 = session ∧
      session.trail (step :: rest) = session.step step :: session.trail rest := by
  have hsame : (session.step step).2.2 = session := by
    rw [((refused_iff session step e).mp h).step_eq]
  exact ⟨hsame, by rw [Session.trail, hsame]⟩

/-- A session refuses what it has one of five causes to refuse.  Whichever refused steps are left
out, all other steps come to what they came to: they are answered and logged alike, and leave the
same files, engines, registries and ids behind. -/
theorem refused_steps_leave_no_trace :
    (∀ session step e,
      (session.step step).1 = .answered (.refused e) ↔ Refuses session step e) ∧
    ∀ (session : Session) (steps : List (Step × Bool)), session.MarksRefused steps →
      session.trail (unmarked steps) =
        unmarked ((session.trail (steps.map Prod.fst)).zip (steps.map Prod.snd)) := by
  refine ⟨refused_iff, fun session steps h => ?_⟩
  -- over the steps, for any session: a step that stays may leave another one behind
  induction steps generalizing session with
  | nil => rfl
  | cons head rest ih =>
      obtain ⟨step, marked⟩ := head
      obtain ⟨hmarked, hrest⟩ := h
      cases marked with
      | false => exact congrArg (session.step step :: ·) (ih _ hrest)
      | true =>
          obtain ⟨e, hanswer⟩ := hmarked rfl
          obtain ⟨hsame, htrail⟩ := trail_behind_refused hanswer (rest.map Prod.fst)
          rw [hsame] at hrest
          rw [List.map_cons, List.map_cons, htrail]
          exact ih session hrest

def refusalFiles : FileTree := ⟨[], [
  ([['p']], .file "<process id='x'/>".toUTF8),
  ([['m']], .file "<process id='x'/></a>".toUTF8),
  ([['e']], .file "<process id='&x;'/>".toUTF8),
  ([['n']], .file "<a/>".toUTF8)]⟩

def refusalSession : Session := .begin refusalFiles "/" ⟨fun n => s!"id{n}", 0⟩

def refusalSteps : List (Step × Bool) := [
  (.ask 0 (.deploy ⟨"q", "q"⟩), true),
  (.ask 0 (.deploy ⟨"p", "p"⟩), false),
  (.ask 0 (.deploy ⟨"m", "m"⟩), true),
  (.ask 0 (.deploy ⟨"e", "e"⟩), true),
  (.ask 0 (.deploy ⟨"n", "n"⟩), false),
  (.ask 0 (.start "z"), true),
  (.ask 0 (.start "x"), false)]

theorem refused_steps_leave_no_trace_sample :
    refusalSession.MarksRefused refusalSteps ∧
      refusalSession.trail (unmarked refusalSteps) =
        unmarked ((refusalSession.trail (refusalSteps.map Prod.fst)).zip
          (refusalSteps.map Prod.snd)) ∧
      (refusalSession.trail (unmarked refusalSteps)).map Prod.fst = [
        .answered (.deployed ⟨"id2", "p", [⟨"x:1:id1", "x", 1, "p"⟩]⟩),
        .answered (.refused (.invalidDefinition "n" "no executable process found")),
        .answered (.started ⟨"id3", "x", "x:1:id1", none, false, false⟩)] := by
  have hmarks : refusalSession.MarksRefused refusalSteps := by
    refine ⟨fun _ => ⟨.resourceNotFound "q", ?_⟩, nofun,
      fun _ => ⟨.invalidDefinition "m"
        "ill-formed document: close tag `</a>` does not match any open tag", ?_⟩,
      fun _ => ⟨.invalidDefinition "e" "at 1..2: unrecognized entity `x`", ?_⟩, nofun,
      fun _ => ⟨.processDefinitionNotFound "z", ?_⟩, nofun, trivial⟩
    · decide +kernel
    · decide +kernel
    · decide +kernel
    · decide +kernel
  exact ⟨hmarks, refused_steps_leave_no_trace.2 _ _ hmarks, by decide +kernel⟩

end InMemory

end ProcessLaunch
