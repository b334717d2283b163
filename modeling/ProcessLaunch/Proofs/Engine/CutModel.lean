import ProcessLaunch.Proofs.Bpmn
import ProcessLaunch.Proofs.Engine.Refusal
import ProcessLaunch.Proofs.Markup.Cut

/-!
# Models that are cut off

A process model whose text ends too early is refused only where a mark is cut off or no process has
begun.  Elements that are still open at the end of the text do not keep it from being deployed.
-/

namespace ProcessLaunch

open Markup

/-! ## 1. What is read of a model -/

namespace Bpmn

variable {text : String} {elements : List Element} {ids : List String}

/-- A fault of the elements comes before the fault that ended the reading. -/
theorem executableProcessIds_of_read {fault : Option Error}
    (hread : Document.read text.toList = ⟨elements, fault⟩) :
    executableProcessIds text =
      (executableIds elements).bind fun ids =>
        match fault with
        | some fault => .error fault
        | none => .ok ids := by
  unfold executableProcessIds
  rw [hread]
  rfl

theorem executableProcessIds_of_fault {fault : Error}
    (hread : Document.read text.toList = ⟨elements, some fault⟩) :
    ∃ e, executableProcessIds text = .error e := by
  rw [executableProcessIds_of_read hread]
  cases executableIds elements with
  | error e => exact ⟨e, rfl⟩
  | ok ids => exact ⟨fault, rfl⟩

theorem executableProcessIds_of_no_fault (hread : Document.read text.toList = ⟨elements, none⟩) :
    executableProcessIds text = executableIds elements := by
  rw [executableProcessIds_of_read hread]
  cases executableIds elements with
  | error e => rfl
  | ok ids => rfl

/-- A model is read exactly if its marks can be read, its end tags stand where they may, and the
attributes of its processes can be read. -/
theorem executableProcessIds_eq_ok_iff :
    executableProcessIds text = .ok ids ↔
      ∃ marks names, Marks text.toList marks ∧ openAfter marks [] = some names ∧
        executableIds (marks.filterMap Mark.element?) = .ok ids := by
  constructor
  · intro h
    cases hread : Document.read text.toList with
    | mk elements fault =>
        -- ids are given only where the reading came to the end of the text
        cases fault with
        | some fault =>
            obtain ⟨e, he⟩ := executableProcessIds_of_fault hread
            rw [he] at h
            cases h
        | none =>
            rw [executableProcessIds_of_no_fault hread] at h
            rw [Document.read_eq, Document.readFrom_eq_iff] at hread
            obtain ⟨marks, names, hmarks, hopen, rfl⟩ := hread
            exact ⟨marks, names, hmarks, hopen, h⟩
  · rintro ⟨marks, names, hmarks, hopen, h⟩
    have hread : Document.read text.toList = ⟨marks.filterMap Mark.element?, none⟩ := by
      rw [Document.read_eq]
      exact Document.readFrom_of_marks hmarks hopen
    rw [executableProcessIds_of_no_fault hread, h]

end Bpmn

/-! ## 2. What is left of a model -/

namespace Markup.Cut

variable {content : Content} (cut : Cut content)

/-- The ids of the executable processes that begin before the cut. -/
def processIds : List String := cut.begun.filterMap Bpmn.processId?

/-- Whether what is left of the text is no process model. -/
def Refused : Prop := cut.InMark ∨ cut.processIds = []

instance : Decidable cut.Refused := inferInstanceAs (Decidable (_ ∨ _))

/-- A text that ends inside a mark is refused. -/
theorem executableProcessIds_of_inMark (h : cut.InMark) :
    ∃ e, Bpmn.executableProcessIds (String.ofList cut.text) = .error e := by
  obtain ⟨fault, hread⟩ := cut.read_of_inMark h
  rw [← String.toList_ofList (l := cut.text)] at hread
  exact Bpmn.executableProcessIds_of_fault hread

/-- A text that ends between marks is read for the processes that have begun, closed or not. -/
theorem executableProcessIds_of_not_inMark (h : ¬cut.InMark) :
    Bpmn.executableProcessIds (String.ofList cut.text) = .ok cut.processIds := by
  have hread := cut.read_of_not_inMark h
  rw [← String.toList_ofList (l := cut.text)] at hread
  rw [Bpmn.executableProcessIds_of_no_fault hread]
  exact Bpmn.executableIds_map cut.begun

end Markup.Cut

/-! ## 3. Deployment -/

namespace Registry

theorem map_key_addKeys (resource : String) (keys : List String) (registry : Registry)
    (ids : IdSupply) :
    (addKeys resource keys registry ids).1.map ProcessDefinition.key = keys := by
  induction keys generalizing registry ids with
  | nil => rfl
  | cons key keys ih => exact congrArg (key :: ·) (ih _ _)

end Registry

namespace InMemory

variable {disk : Disk} {handle : Handle} {request : DeploymentRequest} {store : Store}

/-- Where keys are read, the deployment succeeds and has a definition for each, in order. -/
theorem deploy_of_readKeys_ok {keys : List String}
    (h : Registry.readKeys disk handle.root request.resource = .ok keys) :
    ∃ deployment, (deploy disk handle request store).result = .ok deployment ∧
      deployment.definitions.map ProcessDefinition.key = keys := by
  unfold deploy Registry.deploy
  rw [h]
  exact ⟨_, rfl, Registry.map_key_addKeys _ _ _ _⟩

/-- Reading a model asks that every end tag stand where it may, and not that every element be
closed.  So the front of a document is refused, and nothing changes, if a mark is cut off or no
executable process has begun; any other front is deployed with the processes begun in it. -/
theorem deploy_front_of_document (content : Content) :
    (∀ text ids, Bpmn.executableProcessIds text = .ok ids ↔
      ∃ marks names, Marks text.toList marks ∧ openAfter marks [] = some names ∧
        Bpmn.executableIds (marks.filterMap Mark.element?) = .ok ids) ∧
    (∀ front, front <+: content.text → front ≠ content.text →
      ∃ cut : Cut content, cut.text = front) ∧
    ∀ (cut : Cut content) (disk : Disk) (handle : Handle) (request : DeploymentRequest)
      (store : Store),
      disk.readText (Path.under handle.root request.resource) = .ok (String.ofList cut.text) →
      if cut.Refused then
        ∃ reason, deploy disk handle request store =
          .error (.invalidDefinition request.resource reason) store
      else
        ∃ deployment, (deploy disk handle request store).result = .ok deployment ∧
          deployment.definitions.map ProcessDefinition.key = cut.processIds := by
  refine ⟨fun text ids => Bpmn.executableProcessIds_eq_ok_iff,
    fun front hfront hne => exists_cut hfront hne,
    fun cut disk handle request store htext => ?_⟩
  -- in a mark the model is refused as malformed, and without a process as empty
  by_cases hmark : cut.InMark
  · obtain ⟨e, he⟩ := cut.executableProcessIds_of_inMark hmark
    rw [if_pos (.inl hmark)]
    exact ⟨_, deploy_of_readKeys_error (Registry.readKeys_of_error htext he)⟩
  · have hids := cut.executableProcessIds_of_not_inMark hmark
    by_cases hnil : cut.processIds = []
    · rw [if_pos (.inr hnil)]
      rw [hnil] at hids
      exact ⟨_, deploy_of_readKeys_error (Registry.readKeys_of_nil htext hids)⟩
    · have hread : ¬cut.Refused := not_or.mpr ⟨hmark, hnil⟩
      rw [if_neg hread]
      exact deploy_of_readKeys_ok (Registry.readKeys_of_ok htext hids hnil)

/-! ## 4. A model without end tags -/

def definitionsTag : Tag where
  qualifier := none
  localName := "definitions".toList
  attributes := []
  tail := .none
  qualifier_plain _ h := nomatch h
  localName_plain := List.all_eq_true.mp (by decide)
  unqualified := by decide

def processTag : Tag where
  qualifier := none
  localName := "process".toList
  attributes := [{
    lead := ⟨[' '], List.all_eq_true.mp (by decide)⟩
    name := "id".toList
    beforeEquals := .none
    afterEquals := .none
    quote := '"'
    value := ['x']
    written := ['x']
    lead_ne_nil := by decide
    name_ne_nil := by decide
    isNameChar_of_mem := List.all_eq_true.mp (by decide)
    isQuote := by decide
    spells := .cons (.plain (by decide) (by decide) (by decide)) .nil }]
  tail := .none
  qualifier_plain _ h := nomatch h
  localName_plain := List.all_eq_true.mp (by decide)
  unqualified := by decide

def model : Content :=
  .element definitionsTag (.element processTag .nil .none .nil) .none .nil

def openModel : Cut model where
  read := [.startTag definitionsTag, .startTag processTag]
  token := .endTag processTag .none
  unread := [.endTag definitionsTag .none]
  front := []
  tokens_eq := rfl
  front_prefix := List.nil_prefix
  front_ne := by decide

def openModelDisk : Disk := ⟨fun _ => .ok (String.ofList openModel.text).toUTF8⟩

theorem deploy_front_of_document_open :
    openModelDisk.readText (Path.under "." "p.bpmn") = .ok (String.ofList openModel.text) ∧
    ∃ deployment,
      (deploy openModelDisk ⟨".", 0⟩ ⟨"p", "p.bpmn"⟩ (.empty ⟨fun n => s!"id{n}", 0⟩)).result =
        .ok deployment ∧
      deployment.definitions.map ProcessDefinition.key = ["x"] := by
  have htext : openModelDisk.readText (Path.under "." "p.bpmn") =
      .ok (String.ofList openModel.text) := by
    decide +kernel
  have hread : ¬openModel.Refused := by decide +kernel
  have hids : openModel.processIds = ["x"] := by decide +kernel
  have hdeploy := (deploy_front_of_document model).2.2 openModel openModelDisk ⟨".", 0⟩
    ⟨"p", "p.bpmn"⟩ (.empty ⟨fun n => s!"id{n}", 0⟩) htext
  rw [if_neg hread, hids] at hdeploy
  exact ⟨htext, hdeploy⟩

/-- Neither of the two elements of this text is closed, and yet it is deployed. -/
theorem open_process_is_deployed :
    openModel.text = "<definitions><process id=\"x\">".toList ∧
    Bpmn.executableProcessIds "<definitions><process id=\"x\">" = .ok ["x"] ∧
    openAfter (openModel.read.filterMap Token.mark?) [] =
      some ["process".toList, "definitions".toList] ∧
    (deploy openModelDisk ⟨".", 0⟩ ⟨"p", "p.bpmn"⟩ (.empty ⟨fun n => s!"id{n}", 0⟩)).result =
      .ok ⟨"id2", "p", [⟨"x:1:id1", "x", 1, "p.bpmn"⟩]⟩ := by
  refine ⟨by decide +kernel, by decide +kernel, by decide +kernel, by decide +kernel⟩

end InMemory

end ProcessLaunch
