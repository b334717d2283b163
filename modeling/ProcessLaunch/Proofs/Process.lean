import ProcessLaunch.Process
import ProcessLaunch.Proofs.Path

/-!
# Names of deployments

A deployment is named after the last component of its resource, without the extension.  What leads
to that component does not matter, nor do slashes and lone dots behind it.
-/

namespace ProcessLaunch.DeploymentRequest

open ProcessLaunch.Path

theorem name_of_fileName? {resource : String} {file : List Char}
    (h : fileName? resource.toList = some file) :
    (ofResource resource).name.toList = stem file := by
  simp only [ofResource, h, String.toList_ofList]

theorem name_of_unnamed {resource : String} (h : fileName? resource.toList = none) :
    (ofResource resource).name = "deployment" := by
  simp only [ofResource, h, defaultName]

theorem name_eq_of_fileName? {a b : String} (h : fileName? a.toList = fileName? b.toList) :
    (ofResource a).name = (ofResource b).name := by
  simp only [ofResource, h]

/-- A path names nothing if it has no last component, or if that leads up. -/
theorem fileName?_eq_none {path : List Char}
    (h : (∀ last, ¬EndsIn path last) ∨ EndsIn path ['.', '.']) : fileName? path = none := by
  cases hfile : fileName? path with
  | none => rfl
  | some file =>
      rcases h with h | h
      · exact absurd (fileName?_iff_endsIn.mp hfile).1 (h file)
      · have hlast := h.getLast?_steps
        rw [fileName?_eq_some_iff.mp hfile] at hlast
        cases hlast

/-- The stem of a file name can name a deployment: it is not empty, and no path. -/
theorem stem_of_endsIn {path last : List Char} (h : EndsIn path last) :
    stem last ≠ [] ∧ '/' ∉ stem last := by
  obtain ⟨hslash, hne, -⟩ := h
  have hstem := isStem_stem last
  exact ⟨hstem.ne_nil hne, fun hmem => hslash (hstem.subset hmem)⟩

/-- No deployment goes without a name, and no name has a slash in it. -/
theorem name_ne_empty (resource : String) :
    (ofResource resource).name ≠ "" ∧ '/' ∉ (ofResource resource).name.toList := by
  cases hfile : fileName? resource.toList with
  | none =>
      rw [name_of_unnamed hfile]
      decide
  | some file =>
      obtain ⟨hne, hslash⟩ := stem_of_endsIn (fileName?_iff_endsIn.mp hfile).1
      rw [name_of_fileName? hfile]
      refine ⟨fun hempty => hne ?_, hslash⟩
      rw [← name_of_fileName? hfile, hempty]
      rfl

/-- A request keeps its resource and has a name that is not empty and no path: the stem of the last
component if that is a name, and a fixed name if there is none or it leads up.  Slashes and lone
dots behind a resource do not change the name, nor does a directory in front of it. -/
theorem name_follows_resource :
    (∀ resource : String,
      (ofResource resource).resource = resource ∧
      (ofResource resource).name ≠ "" ∧ '/' ∉ (ofResource resource).name.toList ∧
      (∀ last, EndsIn resource.toList last → last ≠ ['.', '.'] →
        ∀ s, IsStem last s ↔ (ofResource resource).name.toList = s) ∧
      ((∀ last, ¬EndsIn resource.toList last) ∨ EndsIn resource.toList ['.', '.'] →
        (ofResource resource).name = "deployment") ∧
      ∀ tail, Trailing tail →
        (ofResource (resource ++ String.ofList tail)).name = (ofResource resource).name) ∧
    ∀ directory name : String, '/' ∉ name.toList → name ≠ "" → name ≠ "." → name ≠ ".." →
      (ofResource (directory ++ "/" ++ name)).name = (ofResource name).name := by
  refine ⟨fun resource => ?_, fun directory name hslash hempty hdot hup => ?_⟩
  · obtain ⟨hname, hnoslash⟩ := name_ne_empty resource
    refine ⟨rfl, hname, hnoslash, fun last hlast hup s => ?_, fun h => ?_, fun tail htail => ?_⟩
    · rw [isStem_iff, name_of_fileName? (fileName?_iff_endsIn.mpr ⟨hlast, hup⟩)]
      exact eq_comm
    · exact name_of_unnamed (fileName?_eq_none h)
    · apply name_eq_of_fileName?
      rw [String.toList_append, String.toList_ofList, fileName?_append_trailing _ htail]
  · apply name_eq_of_fileName?
    have hne {t : String} (h : name ≠ t) : name.toList ≠ t.toList := fun heq =>
      h (String.toList_injective heq)
    -- both paths have the name as their last component
    have hends (front : List Char) (hfront : front = [] ∨ front.getLast? = some '/') :
        fileName? (front ++ name.toList) = some name.toList := by
      refine fileName?_iff_endsIn.mpr ⟨⟨hslash, hne hempty, hne hdot, front, [], .nil, hfront, ?_⟩,
        hne hup⟩
      rw [List.append_nil]
    have hdirectory := hends (directory.toList ++ ['/']) (.inr List.getLast?_concat)
    have halone := hends [] (.inl rfl)
    rw [List.nil_append] at halone
    rw [halone, String.toList_append, String.toList_append]
    exact hdirectory

end ProcessLaunch.DeploymentRequest
