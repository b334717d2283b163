import ProcessLaunch.Bpmn
import ProcessLaunch.Proofs.Markup.Content

/-!
# Executable processes

The ids that a process model is read for are those of its executable processes, whatever way the
model is written in.
-/

namespace ProcessLaunch.Bpmn

open Markup

/-- Whether an element is a process, and not marked otherwise.  An attribute with a qualifier is no
mark. -/
def IsExecutable (tag : Tag) : Prop :=
  tag.localName = "process".toList ∧
    ∀ value ∈ tag.value? "isExecutable", value.map Char.toLower ≠ "false".toList

instance (tag : Tag) : Decidable (IsExecutable tag) := inferInstanceAs (Decidable (_ ∧ _))

def processId? (tag : Tag) : Option String :=
  if IsExecutable tag then (tag.value? "id").map String.ofList else none

theorem sameWord_ofList (value : List Char) (word : String) :
    sameWord (String.ofList value) word = true ↔
      value.map Char.toLower = word.toList.map Char.toLower := by
  rw [sameWord, beq_iff_eq, String.toList_ofList]

/-- However its attributes are written, a tag is read for the id that it has as an executable
process. -/
theorem executableId?_element (tag : Tag) :
    executableId? tag.element = .ok (processId? tag) := by
  unfold executableId? processId?
  rw [tag.localName_element, tag.attribute?_element, tag.attribute?_element]
  by_cases hprocess : tag.localName = "process".toList
  · -- the marking is read before the id, and decides whether the id is read
    have hmark : ((tag.value? "isExecutable").map String.ofList).any (sameWord · "false") = true ↔
        ¬IsExecutable tag := by
      unfold IsExecutable
      cases tag.value? "isExecutable" with
      | none => simp [hprocess]
      | some value => simp [hprocess, sameWord_ofList]
    rw [if_pos hprocess]
    show (if Option.any _ _ = true then Except.ok none else Except.ok _) = _
    by_cases hexecutable : IsExecutable tag
    · rw [if_neg fun h => hmark.mp h hexecutable, if_pos hexecutable]
    · rw [if_pos (hmark.mpr hexecutable), if_neg hexecutable]
  · rw [if_neg hprocess, if_neg fun h => hprocess h.1]

/-- The ids come in the order of the tags, and no fault is found in tags that are well written. -/
theorem executableIds_map (tags : List Tag) :
    executableIds (tags.map Tag.element) = .ok (tags.filterMap processId?) := by
  induction tags with
  | nil => rfl
  | cons tag tags ih =>
      rw [List.map_cons, executableIds, executableId?_element, ih]
      show Except.ok ((processId? tag).toList ++ tags.filterMap processId?) = _
      cases h : processId? tag with
      | none => rw [List.filterMap_cons_none h]; rfl
      | some id => rw [List.filterMap_cons_some h]; rfl

/-- A process model is read for the ids of its executable processes, in the order in which these
begin, at any depth: for all ways to write it, and whatever stands between its elements. -/
theorem executableProcessIds_text (content : Content) :
    executableProcessIds (String.ofList content.text) =
      .ok (content.elements.filterMap processId?) := by
  unfold executableProcessIds
  rw [String.toList_ofList, content.read_text]
  show (executableIds (content.elements.map Tag.element)).bind _ = _
  rw [executableIds_map]
  rfl

end ProcessLaunch.Bpmn
