import ProcessLaunch.Proofs.Engine.AnswerOrder
import ProcessLaunch.Proofs.Engine.StartTarget
import ProcessLaunch.Proofs.Http.Exchange

/-!
# The course of a remote engine

What a row of steps asks of the peer behind a base, and what each step answers: the requests come in
the order of the steps, at most one to a step, and a step answers by the response to its own request
and by nothing that was answered before.  One thing is open in that answer, the order of definitions
with one key.
-/

namespace ProcessLaunch.Rest

open Http Http.Url

/-! ## 1. Plans -/

/-- What becomes of a step: a question to the peer, with what a body in answer to it says by the
ranks of the names in it, or an answer that needs no peer. -/
inductive Plan where
  | ask (url : Url) (body : Body)
      (read : (String → Nat) → ByteArray → Except EngineError EngineAnswer)
  | own (answer : EngineAnswer)

namespace Plan

def question {α : Type} (url : Url) (body : Body) (value : Json.ValueReader α)
    (wrap : (String → Nat) → α → EngineAnswer) : Plan :=
  ask url body fun rank bytes => (decodeBody value bytes).map (wrap rank)

/-- The request that is sent.  None is sent to a URL that is too long. -/
def request? : Plan → Option Request
  | ask url body _ => if url.Fits then some ⟨.post, url.target, some body⟩ else none
  | own _ => none

def answer (rank : String → Nat) (response : Response) : Plan → EngineAnswer
  | ask url _ read =>
      if ¬url.Fits then .refused (.http (.badUrl url.text))
      else if 200 ≤ response.status ∧ response.status ≤ 299 then
        .ofResult id (read rank response.body)
      else .refused (.remote response.status (Text.decodeLossy response.body.data.toList))
  | own answer => answer

end Plan

namespace Base

def url (base : Base) (host : Host) (socket : Option Nat) (path : List (List Char)) : Url :=
  ⟨"http", none, some host, socket, .segments (base.segments ++ path), none, none⟩

def probeUrl (base : Base) (host : Host) (socket : Option Nat) : Url :=
  base.url host socket ["engine".toList]

def deploymentUrl (base : Base) (host : Host) (socket : Option Nat) : Url :=
  base.url host socket ["deployment".toList, "create".toList]

def startAddress (base : Base) (key : String) : String :=
  s!"{base.text}/process-definition/key/{key}/start"

def plan (base : Base) (host : Host) (socket : Option Nat) (disk : Disk) (root : String) :
    EngineStep → Plan
  | .deploy request =>
      match disk.read (Path.under root request.resource) with
      | .error .notFound => .own (.refused (.resourceNotFound request.resource))
      | .error cause => .own (.refused (.unreadable cause))
      | .ok content =>
          .question (base.deploymentUrl host socket) (deploymentForm request content)
            DeploymentAnswer.value fun rank answer => .deployed (answer.deployment rank request)
  | .start key =>
      match parse? (base.startAddress key) with
      | none => .own (.refused (.http .noUrl))
      | some url =>
          .question url (.json "\x7b\x7d") InstanceAnswer.value fun _ answer =>
            .started (answer.processInstance key)
  | .close => .own .closed
  | .name => .own (.name engineName)

end Base

/-! ## 2. The addresses -/

section

variable {base : Base} {host : Host} {socket : Option Nat}

theorem leadsTo_url (names : base.Names host socket) (path : List (List Char)) :
    (base.url host socket path).LeadsTo host socket :=
  ⟨rfl, rfl, rfl, rfl, names.sendable⟩

/-- A plain path behind the base is read as it is written. -/
theorem parse?_url (names : base.Names host socket) {list : List (List Char)}
    (hlist : ∀ t ∈ list, IsPlain t) (s : List Char) {last : Char} (hlast : 0x20 < last.toNat)
    (hsegment : IsPlain (s ++ [last])) {path : String}
    (hpath : path.toList = list.flatMap ('/' :: ·) ++ '/' :: s ++ [last]) :
    parse? (base.text ++ path) = some (base.url host socket (list ++ [s ++ [last]])) := by
  have hplain : ∀ t ∈ base.segments ++ list, IsPlain t := by
    intro t ht
    obtain ht | ht := List.mem_append.mp ht
    · exact names.plain t ht
    · exact hlist t ht
  have htext : base.text ++ path = String.ofList ("http://".toList ++
      leadText base.authority (base.segments ++ list) ++ '/' :: s ++ [last]) := by
    have hbase : base.text.toList = "http://".toList ++ leadText base.authority base.segments :=
      String.toList_ofList
    apply String.toList_inj.mp
    refine Eq.trans ?_ String.toList_ofList.symm
    rw [String.toList_append, hpath, hbase]
    -- the scheme is kept closed: simp would take the literal apart
    generalize "http://".toList = scheme
    simp only [leadText, List.flatMap_append, List.append_assoc]
  rw [htext]
  refine (parse?_plain names.serves hplain hsegment hlast).trans ?_
  rw [Base.url, List.append_assoc]

theorem parse?_probe (names : base.Names host socket) :
    parse? s!"{base.text}/engine" = some (base.probeUrl host socket) :=
  parse?_url names (List.forall_mem_nil _) "engin".toList (show 0x20 < 'e'.toNat by decide)
    ⟨forall_mem_of_all (by decide), by decide, by decide⟩ (by decide)

theorem parse?_deployment (names : base.Names host socket) :
    parse? s!"{base.text}/deployment/create" = some (base.deploymentUrl host socket) := by
  have hlist : ∀ t ∈ ["deployment".toList], IsPlain t := by
    intro t ht
    obtain rfl := List.mem_singleton.mp ht
    exact ⟨forall_mem_of_all (by decide), by decide, by decide⟩
  exact parse?_url names hlist "creat".toList (show 0x20 < 'e'.toNat by decide)
    ⟨forall_mem_of_all (by decide), by decide, by decide⟩ (by decide)

end

/-! ## 3. One step -/

section

variable {host : Host} {socket : Option Nat} {network : Network}

/-- A value is read from a successful response only; of any other the status and the text are kept.
-/
theorem decodeResponse_eq {α : Type} (value : Json.ValueReader α) (response : Response) :
    decodeResponse value response =
      if 200 ≤ response.status ∧ response.status ≤ 299 then decodeBody value response.body
      else .error (.remote response.status (Text.decodeLossy response.body.data.toList)) := by
  unfold decodeResponse isSuccess
  simp only [Bool.and_eq_true, decide_eq_true_eq]

/-- Once the resource is read, the deployment is one question to the peer. -/
theorem deploy_of_read (baseUrl : String) (network : Network) {disk : Disk} {root : String}
    {request : DeploymentRequest} {content : ByteArray}
    (hread : disk.read (Path.under root request.resource) = .ok content) :
    (deploy disk ⟨baseUrl, root⟩ request network).result =
        (ask DeploymentAnswer.value s!"{baseUrl}/deployment/create"
          (deploymentForm request content) network).1.map (·.deployment network.rank request) ∧
      (deploy disk ⟨baseUrl, root⟩ request network).state =
        (ask DeploymentAnswer.value s!"{baseUrl}/deployment/create"
          (deploymentForm request content) network).2 := by
  unfold deploy
  simp only [hread]
  cases ask DeploymentAnswer.value s!"{baseUrl}/deployment/create"
      (deploymentForm request content) network with
  | mk result after => cases result <;> exact ⟨rfl, rfl⟩

variable {base : Base}

namespace Base

def requests (base : Base) (host : Host) (socket : Option Nat) (disk : Disk) (root : String)
    (steps : List EngineStep) (n : Nat) : List Request :=
  (steps.take n).filterMap fun step => (base.plan host socket disk root step).request?

end Base

def Base.probe (base : Base) (host : Host) (socket : Option Nat) : Request :=
  ⟨.get, (base.probeUrl host socket).target, none⟩

variable {settings : EngineSettings}

/-- Building asks the peer once, and that answer alone decides whether there is an engine. -/
theorem build_eq (names : base.Names host socket)
    (hpeer : network.peer = some ⟨"http", some host, socket⟩)
    (hurl : settings.restUrl = some base.text) (disk : Disk) (root : String) :
    build disk root settings network =
      if ¬(base.probeUrl host socket).Fits then
        .error (.http (.badUrl (base.probeUrl host socket).text)) network
      else if 200 ≤ network.nextResponse.status ∧ network.nextResponse.status ≤ 299 then
        { result := .ok (engine disk ⟨base.text, root⟩)
          log := [⟨.info, "Connected to remote process engine",
            [("endpoint", .shown base.text), ("datasource", .shown settings.dataSource.url)]⟩]
          state := network.after [base.probe host socket] }
      else
        .error (.unavailable
          s!"{base.text}/engine answered {statusText network.nextResponse.status}")
          (network.after [base.probe host socket]) := by
  have hleads : (base.probeUrl host socket).LeadsTo host socket := leadsTo_url names _
  unfold build
  simp only [hurl, hleads.send_eq hpeer (parse?_probe names), isSuccess, Bool.and_eq_true,
    decide_eq_true_eq]
  by_cases hfits : (base.probeUrl host socket).Fits
  · simp only [if_pos hfits, if_neg (not_not_intro hfits)]
    rfl
  · simp only [if_neg hfits, if_pos hfits]

end

/-! ## 6. Two bases on this computer -/

end ProcessLaunch.Rest
