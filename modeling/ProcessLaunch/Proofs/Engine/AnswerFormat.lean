import ProcessLaunch.Engine.Rest
import ProcessLaunch.Proofs.Json.Bytes
import ProcessLaunch.Proofs.Json.Record

/-!
# The format of answers

Which texts an engine may answer a deployment with, and what they tell: an object with the values of
a deployment among its members, or an array of these values, with an object of definitions inside.
-/

namespace ProcessLaunch.Rest

open Json Json.Reader IncomingMessage

/-! ## 1. Definitions -/

namespace DefinitionAnswer

/-- The members of an object have the values of a definition.  The resource may be missing. -/
structure HasMembers (answer : DefinitionAnswer) (ms : List (String × List Char)) : Prop where
  id : Once WritesString answer.id (valuesAt "id" ms)
  key : Once WritesString answer.key (valuesAt "key" ms)
  version : Once WritesNatural32 answer.version (valuesAt "version" ms)
  resource : MayHave WritesString answer.resource (valuesAt "resource" ms)

def HasElements (answer : DefinitionAnswer) (vs : List (List Char)) : Prop :=
  ∃ v₀ v₁ v₂ v₃, vs = [v₀, v₁, v₂, v₃] ∧ WritesString answer.id v₀ ∧ WritesString answer.key v₁ ∧
    WritesNatural32 answer.version v₂ ∧ WritesOptional WritesString answer.resource v₃

def Written : DefinitionAnswer → List Char → Prop := WritesRecord HasMembers HasElements

def layout : Layout DefinitionFields where
  slots := [
    ⟨"id", String, WritesString, DefinitionFields.id, fun fields s => { fields with id := some s }⟩,
    ⟨"key", String, WritesString, DefinitionFields.key,
      fun fields s => { fields with key := some s }⟩,
    ⟨"version", Nat, WritesNatural32, DefinitionFields.version,
      fun fields n => { fields with version := some n }⟩,
    ⟨"resource", Option String, WritesOptional WritesString, DefinitionFields.resource,
      fun fields s => { fields with resource := some s }⟩]
  nodup_names := by simp
  get_set_self := by simp
  get_set_of_ne := by simp
  ext := by
    rintro ⟨⟩ ⟨⟩ h
    simpa using h

theorem readBy_member : layout.ReadBy member where
  known := by
    simp only [layout, List.forall_mem_cons]
    refine ⟨fun fields => ?_, fun fields => ?_, fun fields => ?_, fun fields => ?_, nofun⟩
    · exact Fields.reads_once (reads_string.map _) _ _ fields
    · exact Fields.reads_once (reads_string.map _) _ _ fields
    · exact Fields.reads_once (reads_natural32.map _) _ _ fields
    · exact Fields.reads_once (reads_optional_string.map _) _ _ fields
  unknown := by
    intro fields name h
    simp only [Layout.names, layout, List.map_cons, List.map_nil, List.mem_cons, List.not_mem_nil,
      or_false, not_or] at h
    obtain ⟨h₀, h₁, h₂, h₃⟩ := h
    unfold member
    split <;> first | contradiction | rfl
  writes := by
    simp only [layout, List.forall_mem_cons]
    exact ⟨fun _ _ => writes_of_string, fun _ _ => writes_of_string, fun _ _ => writes_of_natural32,
      fun _ _ => writes_of_optional writes_of_string, nofun⟩

theorem collects_object : Collects object HasMembers := by
  refine (readBy_member.collects ⟨none, none, none, none⟩).bind fun answer ms s rest => ?_
  simp only [Layout.Gathered, layout, List.forall_mem_cons, run_bind_eq_ok,
    Fields.run_requiredField_eq_ok, run_pure_eq_ok]
  -- the fields that were gathered, and then what is made of them
  constructor
  · rintro ⟨fields, ⟨hid, hkey, hversion, hresource, -⟩, _, _, ⟨hid', rfl⟩, _, _, ⟨hkey', rfl⟩,
      _, _, ⟨hversion', rfl⟩, rfl, rfl⟩
    exact ⟨⟨(Slot.gathers_some_iff rfl hid').mp hid, (Slot.gathers_some_iff rfl hkey').mp hkey,
      (Slot.gathers_some_iff rfl hversion').mp hversion,
      exists_gathers_join_iff.mp ⟨_, hresource, rfl⟩⟩, rfl⟩
  · rintro ⟨⟨hid, hkey, hversion, hresource⟩, rfl⟩
    obtain ⟨resource, hgathers, hjoin⟩ := exists_gathers_join_iff.mpr hresource
    refine ⟨⟨some answer.id, some answer.key, some answer.version, resource⟩,
      ⟨(Slot.gathers_some_iff rfl rfl).mpr hid, (Slot.gathers_some_iff rfl rfl).mpr hkey,
        (Slot.gathers_some_iff rfl rfl).mpr hversion, hgathers, nofun⟩,
      _, s, ⟨rfl, rfl⟩, _, s, ⟨rfl, rfl⟩, _, s, ⟨rfl, rfl⟩, ?_, rfl⟩
    show (⟨answer.id, answer.key, answer.version, resource.join⟩ : DefinitionAnswer) = answer
    rw [hjoin]

theorem lists_array : Lists array true HasElements := by
  have harray := lists_element reads_string writes_of_string 0 arrayText fun id =>
    lists_element reads_string writes_of_string 1 arrayText fun key =>
      lists_element reads_natural32 writes_of_natural32 2 arrayText fun version =>
        lists_element reads_optional_string (writes_of_optional writes_of_string) 3 arrayText
          fun resource => lists_end (⟨id, key, version, resource⟩ : DefinitionAnswer)
  intro s answer rest
  refine (@harray s answer rest).trans (exists_congr fun t => and_congr_left fun _ => ?_)
  refine exists_congr fun vs => and_congr_right fun _ => ?_
  constructor
  · rintro ⟨_, v₀, _, rfl, h₀, _, v₁, _, rfl, h₁, _, v₂, _, rfl, h₂, _, v₃, _, rfl, h₃, rfl, rfl⟩
    exact ⟨v₀, v₁, v₂, v₃, rfl, h₀, h₁, h₂, h₃⟩
  · rintro ⟨v₀, v₁, v₂, v₃, rfl, h₀, h₁, h₂, h₃⟩
    exact ⟨_, v₀, _, rfl, h₀, _, v₁, _, rfl, h₁, _, v₂, _, rfl, h₂, _, v₃, _, rfl, h₃, rfl, rfl⟩

theorem reads_value : value.Reads Written := reads_recordOf collects_object lists_array _

end DefinitionAnswer

/-! ## 2. Deployments -/

/-- How the definitions of a deployment are written: as an object with a member for each, or as
null. -/
def WritesDefinitions : DefinitionAnswers → List Char → Prop :=
  WritesOptional (WritesTable DefinitionAnswer.Written)

namespace DeploymentAnswer

/-- The members of an object have the values of a deployment.  Only the id has to be there. -/
structure HasMembers (answer : DeploymentAnswer) (ms : List (String × List Char)) : Prop where
  id : Once WritesString answer.id (valuesAt "id" ms)
  name : MayHave WritesString answer.name (valuesAt "name" ms)
  definitions : MayHave (WritesTable DefinitionAnswer.Written) answer.definitions
    (valuesAt "deployedProcessDefinitions" ms)

/-- The elements of an array are the values of a deployment.  The definitions may be left out. -/
def HasElements (answer : DeploymentAnswer) (vs : List (List Char)) : Prop :=
  ∃ v₀ v₁ ws, vs = v₀ :: v₁ :: ws ∧ WritesString answer.id v₀ ∧
    WritesOptional WritesString answer.name v₁ ∧
    MayHave (WritesTable DefinitionAnswer.Written) answer.definitions ws

def Written : DeploymentAnswer → List Char → Prop := WritesRecord HasMembers HasElements

def layout : Layout DeploymentFields where
  slots := [
    ⟨"id", String, WritesString, DeploymentFields.id, fun fields s => { fields with id := some s }⟩,
    ⟨"name", Option String, WritesOptional WritesString, DeploymentFields.name,
      fun fields s => { fields with name := some s }⟩,
    ⟨"deployedProcessDefinitions", DefinitionAnswers, WritesDefinitions,
      DeploymentFields.definitions, fun fields d => { fields with definitions := some d }⟩]
  nodup_names := by simp
  get_set_self := by simp
  get_set_of_ne := by simp
  ext := by
    rintro ⟨⟩ ⟨⟩ h
    simpa using h

theorem reads_definitionsValue : definitionsValue.Reads WritesDefinitions := by
  refine reads_optional (reads_table DefinitionAnswer.reads_value WritesRecord.writes) ?_
  rintro table v ⟨ms, hms, -⟩
  exact hms.head?_ne

theorem writes_of_definitions {definitions : DefinitionAnswers} {v : List Char}
    (h : WritesDefinitions definitions v) : Writes .value v :=
  writes_of_optional WritesTable.writes h

/-- The members of a deployment are read where a field waits for them, and skipped at every other
name. -/
theorem readBy_member : layout.ReadBy member where
  known := by
    simp only [layout, List.forall_mem_cons]
    refine ⟨fun fields => ?_, fun fields => ?_, fun fields => ?_, nofun⟩
    · exact Fields.reads_once (reads_string.map _) _ _ fields
    · exact Fields.reads_once (reads_optional_string.map _) _ _ fields
    · exact Fields.reads_once (reads_definitionsValue.map _) _ _ fields
  unknown := by
    intro fields name h
    simp only [Layout.names, layout, List.map_cons, List.map_nil, List.mem_cons, List.not_mem_nil,
      or_false, not_or] at h
    obtain ⟨h₀, h₁, h₂⟩ := h
    unfold member
    split <;> first | contradiction | rfl
  writes := by
    simp only [layout, List.forall_mem_cons]
    exact ⟨fun _ _ => writes_of_string, fun _ _ => writes_of_optional writes_of_string,
      fun _ _ => writes_of_definitions, nofun⟩

/-- An object is read as a deployment exactly if it has an id, and a name and definitions of their
shapes or none. -/
theorem collects_object : Collects object HasMembers := by
  refine (readBy_member.collects ⟨none, none, none⟩).bind fun answer ms s rest => ?_
  simp only [Layout.Gathered, layout, List.forall_mem_cons, run_bind_eq_ok,
    Fields.run_requiredField_eq_ok, run_pure_eq_ok]
  constructor
  · rintro ⟨fields, ⟨hid, hname, hdefinitions, -⟩, _, _, ⟨hid', rfl⟩, rfl, rfl⟩
    exact ⟨⟨(Slot.gathers_some_iff rfl hid').mp hid, exists_gathers_join_iff.mp ⟨_, hname, rfl⟩,
      exists_gathers_join_iff.mp ⟨_, hdefinitions, rfl⟩⟩, rfl⟩
  · rintro ⟨⟨hid, hname, hdefinitions⟩, rfl⟩
    obtain ⟨name, hgathers, hjoin⟩ := exists_gathers_join_iff.mpr hname
    obtain ⟨definitions, hgathers', hjoin'⟩ := exists_gathers_join_iff.mpr hdefinitions
    refine ⟨⟨some answer.id, name, definitions⟩,
      ⟨(Slot.gathers_some_iff rfl rfl).mpr hid, hgathers, hgathers', nofun⟩,
      _, s, ⟨rfl, rfl⟩, ?_, rfl⟩
    show (⟨answer.id, name.join, definitions.join⟩ : DeploymentAnswer) = answer
    rw [hjoin, hjoin']

/-- An array is read as a deployment with or without the definitions at its end. -/
theorem lists_array : Lists array true HasElements := by
  have harray : Lists array true fun answer vs =>
      ∃ id v₀ us, vs = v₀ :: us ∧ WritesString id v₀ ∧ ∃ name v₁ ws, us = v₁ :: ws ∧
        WritesOptional WritesString name v₁ ∧ (ws = [] ∧ answer = ⟨id, name, none⟩ ∨
          ∃ definitions v₂, ws = [v₂] ∧ WritesDefinitions definitions v₂ ∧
            answer = ⟨id, name, definitions⟩) :=
    lists_element reads_string writes_of_string 0 arrayText fun _ =>
      lists_element reads_optional_string (writes_of_optional writes_of_string) 1 arrayText
        fun _ => lists_last_element reads_definitionsValue writes_of_definitions rfl fun _ => rfl
  intro s answer rest
  refine (@harray s answer rest).trans (exists_congr fun t => and_congr_left fun _ => ?_)
  refine exists_congr fun vs => and_congr_right fun _ => ?_
  -- the array ends behind the name, or has one more element
  constructor
  · rintro ⟨_, v₀, _, rfl, h₀, _, v₁, ws, rfl, h₁, ⟨rfl, rfl⟩ | ⟨_, v₂, rfl, h₂, rfl⟩⟩
    · exact ⟨v₀, v₁, [], rfl, h₀, h₁, .inl ⟨rfl, rfl⟩⟩
    · exact ⟨v₀, v₁, [v₂], rfl, h₀, h₁, .inr ⟨v₂, rfl, h₂⟩⟩
  · rintro ⟨v₀, v₁, ws, rfl, h₀, h₁, ⟨rfl, hnone⟩ | ⟨v₂, rfl, h₂⟩⟩
    · refine ⟨_, v₀, _, rfl, h₀, _, v₁, _, rfl, h₁, .inl ⟨rfl, ?_⟩⟩
      rw [← hnone]
    · exact ⟨_, v₀, _, rfl, h₀, _, v₁, _, rfl, h₁, .inr ⟨_, v₂, rfl, h₂, rfl⟩⟩

theorem reads_value : value.Reads Written := reads_recordOf collects_object lists_array _

end DeploymentAnswer

/-! ## 3. Bodies -/

/-- The body of a response tells of a deployment. -/
def Describes (answer : DeploymentAnswer) (text : String) : Prop :=
  ∃ s, answer.Written s ∧ Padded s text

/-- A text is read as an answer exactly if it is one, with space around it. -/
theorem readAll_eq_ok_iff_describes {text : String} {answer : DeploymentAnswer} :
    DeploymentAnswer.value.spaced.readAll text.toList = .ok answer ↔ Describes answer text :=
  readAll_spaced_eq_ok DeploymentAnswer.reads_value

/-- A body in UTF-8 is read as its text. -/
theorem decodeBody_toUTF8 {α : Type} (value : ValueReader α) (text : String) :
    decodeBody value text.toUTF8 =
      match value.spaced.readAll text.toList with
      | .ok a => .ok a
      | .error _ => .error (.http .badBody) := by
  unfold decodeBody
  cases h : value.spaced.readAll text.toList <;> rw [textOfBytes_toUTF8, h]

def aroundByte (before behind : String) : ByteArray := before.toUTF8 ++ ⟨#[0xff]⟩ ++ behind.toUTF8

example : (decodeBody InstanceAnswer.value
    (aroundByte "[\"i\",\"d\",null,false,false," "]")).toOption = none := by decide +kernel

example : (decodeBody InstanceAnswer.value
    (aroundByte "\x7b\"x\":\"" "\",\"id\":\"i\",\"definitionId\":\"d\"\x7d")).toOption =
      some ⟨"i", "d", none, false, false⟩ := by decide +kernel

example : (decodeBody InstanceAnswer.value
    (aroundByte "\x7b\"id\":\"" "\",\"definitionId\":\"d\"\x7d")).toOption = none := by
  decide +kernel

end ProcessLaunch.Rest
