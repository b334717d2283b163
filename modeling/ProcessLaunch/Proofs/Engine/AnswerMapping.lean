import ProcessLaunch.Proofs.Engine.AnswerFormat
import ProcessLaunch.Proofs.Engine.RestCourse

/-!
# From answers to deployments

A deployment has all that its answer tells of, with the definitions in ascending order of their
keys.  So it makes no difference in which order these come out of the answer, or in which order the
members of the answer stand.
-/

namespace ProcessLaunch.Rest

open Json Json.Reader IncomingMessage

/-! ## 1. What an answer tells -/

/-- Versions have 32 bits. -/
theorem DefinitionAnswer.Written.version_le {answer : DefinitionAnswer} {v : List Char}
    (h : answer.Written v) : answer.version ≤ 0xffffffff := by
  obtain ⟨ms, -, hms⟩ | ⟨vs, -, v₀, v₁, v₂, v₃, -, -, -, hversion, -⟩ := h
  · obtain ⟨v, -, hversion⟩ := hms.version
    exact hversion.1
  · exact hversion.1

/-- What is in a table stands among the members. -/
theorem exists_written_of_mem_values {table : Table DefinitionAnswer} {s : List Char}
    (h : WritesTable DefinitionAnswer.Written table s) {answer : DefinitionAnswer}
    (hanswer : answer ∈ table.values) : ∃ v, answer.Written v := by
  obtain ⟨ms, -, hlast⟩ := h
  obtain ⟨⟨name, other⟩, hentry, hother⟩ := List.mem_map.mp hanswer
  obtain ⟨as, has, hname⟩ := hlast name
  rw [(table.get?_eq_some_iff name other).mpr hentry] at hname
  have hwritten : List.Forall₂ (fun a v => (∃ v, a.Written v) ∧ a.Written v) as
      (valuesAt name ms) := has.imp fun a v hv => ⟨⟨v, hv⟩, hv⟩
  have hall := ((List.forall₂_and_left _ _).mp hwritten).1
  exact hother ▸ hall other (List.mem_of_getLast? hname.symm)

theorem exists_written_of_mayHave {definitions : DefinitionAnswers} {vs : List (List Char)}
    (h : MayHave (WritesTable DefinitionAnswer.Written) definitions vs) {answer : DefinitionAnswer}
    (hanswer : answer ∈ (definitions.getD ∅).values) : ∃ v, answer.Written v := by
  cases definitions with
  | none => cases hanswer
  | some table =>
      obtain ⟨-, hnone⟩ | ⟨v, -, htable⟩ := h
      · cases hnone
      · exact exists_written_of_mem_values htable hanswer

theorem Describes.version_le {answer : DeploymentAnswer} {text : String}
    (h : Describes answer text) {definition : DefinitionAnswer}
    (hdefinition : definition ∈ (answer.definitions.getD ∅).values) :
    definition.version ≤ 0xffffffff := by
  obtain ⟨s, ⟨ms, -, hms⟩ | ⟨vs, -, _, _, _, -, -, -, hlast⟩, -⟩ := h
  · obtain ⟨v, hv⟩ := exists_written_of_mayHave hms.definitions hdefinition
    exact hv.version_le
  · obtain ⟨v, hv⟩ := exists_written_of_mayHave hlast hdefinition
    exact hv.version_le

/-! ## 2. The order of members -/

namespace DefinitionAnswer

/-- The same definition with its members in another order, and with others at names of no field. -/
def Rearranged : List Char → List Char → Prop :=
  Json.Rearranged fun ms ms' => ∀ name ∈ layout.names, valuesAt name ms = valuesAt name ms'

theorem Rearranged.symm {v v' : List Char} (h : Rearranged v v') : Rearranged v' v :=
  Json.Rearranged.symm h fun halike name hname => (halike name hname).symm

theorem Written.rearranged {answer : DefinitionAnswer} {v v' : List Char} (h : Rearranged v v')
    (hv : answer.Written v) : answer.Written v' := by
  refine WritesRecord.rearranged h (fun halike hms => ?_) hv
  simp only [Layout.names, layout, List.map_cons, List.map_nil, List.forall_mem_cons] at halike
  obtain ⟨hid, hkey, hversion, hresource, -⟩ := halike
  exact ⟨hid ▸ hms.id, hkey ▸ hms.key, hversion ▸ hms.version, hresource ▸ hms.resource⟩

end DefinitionAnswer

/-- The same definitions in another order.  Those of one name keep theirs, as the last of them
counts. -/
def DefinitionsRearranged : List Char → List Char → Prop :=
  Json.Rearranged fun ms ms' =>
    ∀ name, List.Forall₂ DefinitionAnswer.Rearranged (valuesAt name ms) (valuesAt name ms')

theorem DefinitionsRearranged.symm {v v' : List Char} (h : DefinitionsRearranged v v') :
    DefinitionsRearranged v' v := by
  refine Json.Rearranged.symm h fun halike name => .flip ?_
  exact (halike name).imp fun _ _ => DefinitionAnswer.Rearranged.symm

theorem writesDefinitions_of_rearranged {definitions : DefinitionAnswers} {v v' : List Char}
    (h : DefinitionsRearranged v v') (hv : WritesDefinitions definitions v) :
    WritesDefinitions definitions v' :=
  WritesOptional.rearranged h
    (WritesTable.rearranged h fun _ _ _ => DefinitionAnswer.Written.rearranged) hv

namespace DeploymentAnswer

/-- The same deployment with its members in another order, those of its definitions included, and
with others at names of no field. -/
def Rearranged (s s' : List Char) : Prop :=
  Json.Rearranged (fun ms ms' =>
    valuesAt "id" ms = valuesAt "id" ms' ∧ valuesAt "name" ms = valuesAt "name" ms' ∧
      List.Forall₂ DefinitionsRearranged (valuesAt "deployedProcessDefinitions" ms)
        (valuesAt "deployedProcessDefinitions" ms')) s s' ∨
  ∃ id name v v', WritesArray [id, name, v] s ∧ WritesArray [id, name, v'] s' ∧
    DefinitionsRearranged v v'

theorem Rearranged.symm {s s' : List Char} (h : Rearranged s s') : Rearranged s' s := by
  obtain h | ⟨id, name, v, v', hs, hs', hv⟩ := h
  · refine .inl (Json.Rearranged.symm h ?_)
    rintro ms ms' ⟨hid, hname, hdefinitions⟩
    refine ⟨hid.symm, hname.symm, .flip ?_⟩
    exact hdefinitions.imp fun _ _ => DefinitionsRearranged.symm
  · exact .inr ⟨id, name, v', v, hs', hs, hv.symm⟩

theorem Rearranged.writes {s s' : List Char} (h : Rearranged s s') (hs : Writes .value s) :
    Writes .value s' := by
  obtain h | ⟨id, name, v, v', -, hs', -⟩ := h
  · exact Json.Rearranged.writes h hs
  · exact hs'.writes

/-- A deployment that is rearranged stays the same deployment. -/
theorem Written.rearranged {answer : DeploymentAnswer} {s s' : List Char} (h : Rearranged s s')
    (hs : answer.Written s) : answer.Written s' := by
  obtain h | ⟨id, name, v, v', hv, hv', halike⟩ := h
  · refine WritesRecord.rearranged h ?_ hs
    rintro ms ms' ⟨hid, hname, hdefinitions⟩ hms
    refine ⟨hid ▸ hms.id, hname ▸ hms.name, ?_⟩
    exact hms.definitions.of_forall₂ writesDefinitions_of_rearranged hdefinitions
  · obtain ⟨ms, hms, -⟩ | ⟨vs, hvs, v₀, v₁, ws, hlist, hid, hname, hdefinitions⟩ := hs
    · exact absurd hv hms.not_writesArray
    · rw [hvs.unique hv (rfl : s ++ [] = s ++ [])] at hlist
      cases hlist
      refine .inr ⟨_, hv', _, _, [v'], rfl, hid, hname, ?_⟩
      exact hdefinitions.of_forall₂ writesDefinitions_of_rearranged (.cons halike .nil)

end DeploymentAnswer

def SameAnswer (text text' : String) : Prop :=
  ∃ s s', Writes .value s ∧ Padded s text ∧ Padded s' text' ∧ DeploymentAnswer.Rearranged s s'

theorem SameAnswer.symm {text text' : String} (h : SameAnswer text text') :
    SameAnswer text' text := by
  obtain ⟨s, s', hvalue, htext, htext', hs⟩ := h
  exact ⟨s', s, hs.writes hvalue, htext', htext, hs.symm⟩

/-- Texts of the same deployment tell of the same deployment. -/
theorem Describes.of_sameAnswer {answer : DeploymentAnswer} {text text' : String}
    (h : SameAnswer text text') (htext : Describes answer text) : Describes answer text' := by
  obtain ⟨s, s', hvalue, hs, hs', hsame⟩ := h
  obtain ⟨t, hwritten, ht⟩ := htext
  obtain rfl : t = s := Padded.unique hwritten.writes hvalue ht hs
  exact ⟨s', hwritten.rearranged hsame, hs'⟩

/-! ## 3. Deployments -/

section

variable {disk : Disk} {handle : Handle} {request : DeploymentRequest} {network : Http.Network}
  {status : Nat} {text : String}

/-- The peer answers the deployment of a request with a response. -/
def Answered (disk : Disk) (handle : Handle) (request : DeploymentRequest) (network : Http.Network)
    (response : Http.Response) : Prop :=
  ∃ content after, disk.read (Path.under handle.root request.resource) = .ok content ∧
    network.send .post s!"{handle.baseUrl}/deployment/create"
      (some (deploymentForm request content)) = (.ok response, after)

/-- The result of a deployment is what is made of the body of a successful answer. -/
theorem deploy_of_answered
    (h : Answered disk handle request network ⟨status, text.toUTF8⟩)
    (hstatus : 200 ≤ status ∧ status ≤ 299) :
    (deploy disk handle request network).result =
      (decodeBody DeploymentAnswer.value text.toUTF8).map (·.deployment network.rank request) := by
  obtain ⟨content, after, hread, hsend⟩ := h
  have hask : ask DeploymentAnswer.value s!"{handle.baseUrl}/deployment/create"
      (deploymentForm request content) network =
        (decodeBody DeploymentAnswer.value text.toUTF8, after) := by
    rw [ask, hsend]
    show (decodeResponse DeploymentAnswer.value _, after) = _
    rw [decodeResponse_eq, if_pos hstatus]
  refine (deploy_of_read handle.baseUrl network hread).1.trans ?_
  rw [hask]

theorem decodeBody_of_describes {answer : DeploymentAnswer} (h : Describes answer text) :
    decodeBody DeploymentAnswer.value text.toUTF8 = .ok answer := by
  rw [decodeBody_toUTF8, readAll_eq_ok_iff_describes.mpr h]

theorem describes_of_decodeBody {answer : DeploymentAnswer}
    (h : decodeBody DeploymentAnswer.value text.toUTF8 = .ok answer) : Describes answer text := by
  rw [decodeBody_toUTF8] at h
  split at h
  next hread =>
    cases h
    exact readAll_eq_ok_iff_describes.mp hread
  next => cases h

/-- What is made of a text does not change with the order of its members, be it a deployment or an
error. -/
theorem decodeBody_of_sameAnswer {text' : String} (h : SameAnswer text text') :
    decodeBody DeploymentAnswer.value text'.toUTF8 =
      decodeBody DeploymentAnswer.value text.toUTF8 := by
  rw [decodeBody_toUTF8, decodeBody_toUTF8]
  cases hread : DeploymentAnswer.value.spaced.readAll text.toList with
  | ok answer =>
      have hdescribes := (readAll_eq_ok_iff_describes.mp hread).of_sameAnswer h
      rw [readAll_eq_ok_iff_describes.mpr hdescribes]
  | error cause =>
      cases hread' : DeploymentAnswer.value.spaced.readAll text'.toList with
      | ok answer =>
          have hdescribes := (readAll_eq_ok_iff_describes.mp hread').of_sameAnswer h.symm
          rw [readAll_eq_ok_iff_describes.mpr hdescribes] at hread
          cases hread
      | error cause' => rfl

/-- A deployment comes of an answer that tells of one, with all that it tells: its id, its name or
else that of the request, and for each member of its table the definition there, with its resource
or else that of the request.  The definitions ascend strictly by their keys, whatever order they
come out of the table in, and the members of the answer may stand in any order, with others among
them.  Where definitions have one key, that order is open and all else is the same. -/
theorem deploy_keeps_answer (disk : Disk) (handle : Handle) (request : DeploymentRequest)
    (network : Http.Network) {status : Nat} {text : String}
    (hanswered : Answered disk handle request network ⟨status, text.toUTF8⟩)
    (hstatus : 200 ≤ status ∧ status ≤ 299) :
    (∀ answer, Describes answer text →
      ((answer.definitions.getD ∅).values.map DefinitionAnswer.key).Nodup →
        ∃ deployment, (deploy disk handle request network).result = .ok deployment ∧
          deployment.id = answer.id ∧ deployment.name = answer.name.getD request.name ∧
          (deployment.definitions.Perm ((answer.definitions.getD ∅).values.map fun d =>
            ⟨d.id, d.key, d.version, d.resource.getD request.resource⟩)) ∧
          (deployment.definitions.Pairwise fun a b => a.key < b.key) ∧
          (∀ d ∈ deployment.definitions, d.version ≤ 0xffffffff) ∧
          ∀ listed : List DefinitionAnswer, listed.Perm (answer.definitions.getD ∅).values →
            deployment.definitions = ascending (listed.map (·.definition request))) ∧
    (∀ deployment, (deploy disk handle request network).result = .ok deployment →
      ∃ answer, Describes answer text ∧ deployment = answer.deployment network.rank request) ∧
    ∀ network' status' text', Answered disk handle request network' ⟨status', text'.toUTF8⟩ →
      200 ≤ status' ∧ status' ≤ 299 → SameAnswer text text' →
        (network'.rank = network.rank ∨ ∀ answer, Describes answer text →
          ((answer.definitions.getD ∅).values.map DefinitionAnswer.key).Nodup) →
        (deploy disk handle request network').result =
          (deploy disk handle request network).result := by
  have hresult := deploy_of_answered hanswered hstatus
  refine ⟨fun answer hdescribes hkeys => ?_, fun deployment hok => ?_,
    fun network' status' text' hanswered' hstatus' hsame hopen => ?_⟩
  · rw [decodeBody_of_describes hdescribes] at hresult
    -- whatever order the values are listed in, they are those of the table
    have hlisted := ((answer.definitions.getD ∅).valuesBy_perm network.rank).map
      (·.definition request)
    have hperm := (ascending_perm _).trans hlisted
    refine ⟨answer.deployment network.rank request, hresult, rfl, rfl, hperm,
      pairwise_ascending ?_, fun d hd => ?_, fun listed hperm => ?_⟩
    · exact (hlisted.map ProcessDefinition.key).nodup_iff.mpr (nodup_keys_definition hkeys request)
    · obtain ⟨a, ha, rfl⟩ := List.mem_map.mp (hperm.mem_iff.mp hd)
      exact hdescribes.version_le ha
    · exact definitions_deployment_of_perm hkeys network.rank request hperm
  · rw [hresult] at hok
    cases hdecode : decodeBody DeploymentAnswer.value text.toUTF8 with
    | error cause =>
        rw [hdecode] at hok
        cases hok
    | ok answer =>
        rw [hdecode] at hok
        cases hok
        exact ⟨answer, describes_of_decodeBody hdecode, rfl⟩
  · rw [hresult, deploy_of_answered hanswered' hstatus', decodeBody_of_sameAnswer hsame]
    obtain hrank | hkeys := hopen
    · rw [hrank]
    · cases hdecode : decodeBody DeploymentAnswer.value text.toUTF8 with
      | error cause => rfl
      | ok answer =>
          have hnodup := hkeys answer (describes_of_decodeBody hdecode)
          exact congrArg Except.ok (deployment_eq_of_nodup hnodup _ _ request)

end

/-! ## 4. An answer with two definitions -/

def twoDefinitions : String :=
  "\x7b\"id\":\"d\",\"deployedProcessDefinitions\":\x7b" ++
    "\"x\":[\"b:1\",\"b\",1,null],\"y\":[\"a:2\",\"a\",2,\"a.bpmn\"]\x7d\x7d"

def twoDefinitionsAnswer : DeploymentAnswer :=
  ⟨"d", none, some (.ofList [("x", ⟨"b:1", "b", 1, none⟩), ("y", ⟨"a:2", "a", 2, some "a.bpmn"⟩)])⟩

def twoDefinitionsNetwork : Http.Network :=
  { loopbackNetwork with script := [⟨200, twoDefinitions.toUTF8⟩] }

theorem twoDefinitionsNetwork_answered :
    Answered ⟨fun _ => .ok .empty⟩ ⟨loopback.text, "."⟩ (.ofResource "p.bpmn")
      twoDefinitionsNetwork ⟨200, twoDefinitions.toUTF8⟩ := by
  have hleads : (loopback.deploymentUrl loopbackHost (some 8080)).LeadsTo loopbackHost
      (some 8080) := leadsTo_url loopback_names _
  have hfits : (loopback.deploymentUrl loopbackHost (some 8080)).Fits := by decide +kernel
  have hpeer : twoDefinitionsNetwork.peer = some ⟨"http", some loopbackHost, some 8080⟩ := rfl
  have hsend := hleads.send_eq hpeer (parse?_deployment loopback_names) .post
    (some (deploymentForm (.ofResource "p.bpmn") .empty))
  rw [if_pos hfits] at hsend
  exact ⟨.empty, _, rfl, hsend⟩

/-- The definitions change places, and each gap is filled from the request. -/
theorem deploy_keeps_answer_two :
    Answered ⟨fun _ => .ok .empty⟩ ⟨loopback.text, "."⟩ (.ofResource "p.bpmn")
      twoDefinitionsNetwork ⟨200, twoDefinitions.toUTF8⟩ ∧
    ∃ deployment, (deploy ⟨fun _ => .ok .empty⟩ ⟨loopback.text, "."⟩ (.ofResource "p.bpmn")
        twoDefinitionsNetwork).result = .ok deployment ∧ deployment.name = "p" ∧
      deployment.definitions = [⟨"a:2", "a", 2, "a.bpmn"⟩, ⟨"b:1", "b", 1, "p.bpmn"⟩] := by
  refine ⟨twoDefinitionsNetwork_answered, ?_⟩
  have hdescribes : Describes twoDefinitionsAnswer twoDefinitions :=
    readAll_eq_ok_iff_describes.mp (by decide +kernel)
  have hkeys : ((twoDefinitionsAnswer.definitions.getD ∅).values.map
      DefinitionAnswer.key).Nodup := by decide +kernel
  obtain ⟨deployment, hresult, -, hname, hperm, hascending, -⟩ := (deploy_keeps_answer
    ⟨fun _ => .ok .empty⟩ ⟨loopback.text, "."⟩ (.ofResource "p.bpmn") twoDefinitionsNetwork
    twoDefinitionsNetwork_answered (by decide)).1 twoDefinitionsAnswer hdescribes hkeys
  refine ⟨deployment, hresult, hname.trans (by decide +kernel), ?_⟩
  have hlisted : (twoDefinitionsAnswer.definitions.getD ∅).values.map
      (·.definition (.ofResource "p.bpmn")) =
        [⟨"b:1", "b", 1, "p.bpmn"⟩, ⟨"a:2", "a", 2, "a.bpmn"⟩] := by decide +kernel
  -- the keys decide the order, against that of the members
  have hswapped : deployment.definitions.Perm
      [⟨"a:2", "a", 2, "a.bpmn"⟩, ⟨"b:1", "b", 1, "p.bpmn"⟩] :=
    (hperm.trans (.of_eq hlisted)).trans (.swap _ _ [])
  exact hswapped.eq_of_pairwise (fun a _ _ _ hlt hgt =>
    absurd (String.lt_trans hlt hgt) (String.lt_irrefl a.key)) hascending (by decide +kernel)

end ProcessLaunch.Rest
