import Mathlib.Data.List.Perm.Basic
import Mathlib.Data.List.Sort
import ProcessLaunch.Engine.Rest.Answer
import ProcessLaunch.Engine.Step
import ProcessLaunch.Proofs.Table

/-!
# The order of definitions

A table gives its values in an order that nothing on this side decides.  A deployment has the
definitions of its answer in ascending order of their keys, so that order shows only among
definitions with one key.
-/

namespace ProcessLaunch

/-! ## 1. The values of a table -/

namespace Table

variable {α : Type}

theorem entriesBy_perm (table : Table α) (rank : String → Nat) :
    (table.entriesBy rank).Perm table.toList := List.mergeSort_perm _ _

/-- Whatever the ranks are, no value is lost and none comes twice. -/
theorem valuesBy_perm (table : Table α) (rank : String → Nat) :
    (table.valuesBy rank).Perm table.values := (table.entriesBy_perm rank).map _

section

variable {table : Table α} {listed : List (String × α)}

end

end Table

namespace Rest

/-! ## 2. Definitions by their keys -/

def ascending (definitions : List ProcessDefinition) : List ProcessDefinition :=
  definitions.mergeSort fun a b => decide (a.key ≤ b.key)

theorem ascending_perm (definitions : List ProcessDefinition) :
    (ascending definitions).Perm definitions := List.mergeSort_perm _ _

section

variable {definitions listed : List ProcessDefinition}

theorem pairwise_le_ascending (definitions : List ProcessDefinition) :
    (ascending definitions).Pairwise fun a b => a.key ≤ b.key :=
  List.pairwise_mergeSort' (fun a b : ProcessDefinition => a.key ≤ b.key) _

/-- Definitions with keys of their own ascend strictly. -/
theorem pairwise_ascending (hkeys : (definitions.map ProcessDefinition.key).Nodup) :
    (ascending definitions).Pairwise fun a b => a.key < b.key := by
  have hapart : (ascending definitions).Pairwise fun a b => a.key ≠ b.key :=
    List.pairwise_map.mp (((ascending_perm definitions).map _).nodup_iff.mpr hkeys)
  refine (pairwise_le_ascending definitions).imp₂ (fun a b hab hne => ?_) hapart
  exact String.not_le.mp fun hba => hne (String.le_antisymm hab hba)

/-- In whatever order definitions come, their keys come out in the same. -/
theorem keys_ascending_of_perm (h : listed.Perm definitions) :
    (ascending listed).map ProcessDefinition.key =
      (ascending definitions).map ProcessDefinition.key := by
  have hperm : (ascending listed).Perm (ascending definitions) :=
    (ascending_perm listed).trans (h.trans (ascending_perm definitions).symm)
  exact (hperm.map ProcessDefinition.key).eq_of_pairwise
    (fun _ _ _ _ hab hba => String.le_antisymm hab hba)
    (List.pairwise_map.mpr (pairwise_le_ascending listed))
    (List.pairwise_map.mpr (pairwise_le_ascending definitions))

/-- Definitions that change places and keep the order of their keys stay where they are, if no key
comes twice. -/
theorem eq_of_perm_of_keys_eq (hkeys : (listed.map ProcessDefinition.key).Nodup)
    (hperm : listed.Perm definitions)
    (heq : listed.map ProcessDefinition.key = definitions.map ProcessDefinition.key) :
    listed = definitions := by
  apply List.ext_getElem hperm.length_eq
  intro i hi hi'
  have hkey : listed[i].key = definitions[i].key := by
    have hget := List.getElem_of_eq heq (by rwa [List.length_map])
    rwa [List.getElem_map, List.getElem_map] at hget
  exact List.inj_on_of_nodup_map hkeys (List.getElem_mem hi)
    (hperm.mem_iff.mpr (List.getElem_mem hi')) hkey

/-- The order in which definitions come does not matter. -/
theorem ascending_eq_of_perm (hkeys : (definitions.map ProcessDefinition.key).Nodup)
    (h : listed.Perm definitions) : ascending listed = ascending definitions := by
  have hperm : (ascending listed).Perm (ascending definitions) :=
    (ascending_perm listed).trans (h.trans (ascending_perm definitions).symm)
  have hlisted := ((ascending_perm listed).trans h).map ProcessDefinition.key
  exact eq_of_perm_of_keys_eq (hlisted.nodup_iff.mpr hkeys) hperm (keys_ascending_of_perm h)

end

end Rest

/-! ## 3. Answers that differ in this order -/

namespace EngineAnswer

/-- The same answer, up to the order of definitions with one key. -/
inductive Alike : EngineAnswer → EngineAnswer → Prop
  | refl (answer : EngineAnswer) : Alike answer answer
  | deployed {a b : Deployment} (hid : a.id = b.id) (hname : a.name = b.name)
      (hperm : a.definitions.Perm b.definitions)
      (hkeys : a.definitions.map ProcessDefinition.key =
        b.definitions.map ProcessDefinition.key) : Alike (.deployed a) (.deployed b)

end EngineAnswer

namespace Rest

variable {answer : DeploymentAnswer}

theorem nodup_keys_definition
    (hkeys : ((answer.definitions.getD ∅).values.map DefinitionAnswer.key).Nodup)
    (request : DeploymentRequest) :
    (((answer.definitions.getD ∅).values.map (·.definition request)).map
      ProcessDefinition.key).Nodup := by
  rw [List.map_map]
  exact hkeys

/-- Definitions with keys of their own stand in one order, whatever order they are listed in. -/
theorem definitions_deployment_of_perm
    (hkeys : ((answer.definitions.getD ∅).values.map DefinitionAnswer.key).Nodup)
    (rank : String → Nat) (request : DeploymentRequest) {listed : List DefinitionAnswer}
    (h : listed.Perm (answer.definitions.getD ∅).values) :
    (answer.deployment rank request).definitions =
      ascending (listed.map (·.definition request)) := by
  have hvalues := ((answer.definitions.getD ∅).valuesBy_perm rank).trans h.symm
  have hlisted := (h.map (·.definition request)).map ProcessDefinition.key
  exact ascending_eq_of_perm (hlisted.nodup_iff.mpr (nodup_keys_definition hkeys request))
    (hvalues.map _)

/-- With keys of their own, the definitions leave nothing for the ranks to decide. -/
theorem deployment_eq_of_nodup
    (hkeys : ((answer.definitions.getD ∅).values.map DefinitionAnswer.key).Nodup)
    (rank rank' : String → Nat) (request : DeploymentRequest) :
    answer.deployment rank request = answer.deployment rank' request := by
  have hdefinitions : (answer.deployment rank request).definitions =
      (answer.deployment rank' request).definitions := by
    rw [definitions_deployment_of_perm hkeys rank request (.refl _),
      definitions_deployment_of_perm hkeys rank' request (.refl _)]
  show (⟨_, _, _⟩ : Deployment) = ⟨_, _, _⟩
  exact congrArg (Deployment.mk answer.id (answer.name.getD request.name)) hdefinitions

end Rest

end ProcessLaunch
