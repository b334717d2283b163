import Mathlib.Logic.Relation
import ProcessLaunch.Proofs.Path

/-!
# Spellings of a path

A path may be spelled with slashes next to each other, with lone dots behind its slashes and with a
slash at its end, and has the same components without them.  These are the only spellings: what has
the same components can be reached by leaving such things out and putting them in.
-/

namespace ProcessLaunch.Path

/-- One slash or one lone dot is left out of a path.  A lone dot at the very front stays, and so
does a slash that is all of the path. -/
inductive Shortens : List Char → List Char → Prop
  | slash (front back : List Char) : Shortens (front ++ '/' :: '/' :: back) (front ++ '/' :: back)
  | dot (front back : List Char) :
      Shortens (front ++ '/' :: '.' :: '/' :: back) (front ++ '/' :: back)
  | lastDot (front : List Char) : Shortens (front ++ ['/', '.']) (front ++ ['/'])
  | lastSlash {front : List Char} (h : front ≠ []) : Shortens (front ++ ['/']) front

/-- Two paths differ in such slashes and dots at most. -/
def Respelled : List Char → List Char → Prop := Relation.EqvGen Shortens

def Component.text : Component → List Char
  | .root => []
  | .here => ['.']
  | .up => ['.', '.']
  | .name text => text

def behindSlashes (ps : List (List Char)) : List Char := ps.flatMap ('/' :: ·)

def shortest : List Component → List Char
  | [] => []
  | [.root] => ['/']
  | c :: cs => c.text ++ behindSlashes (cs.map Component.text)

/-! ## 1. What spelling does not change -/

/-- What no single change of the spelling changes is the same for all spellings. -/
theorem Respelled.congr {α : Type} {f : List Char → α} (hf : ∀ s t, Shortens s t → f s = f t)
    {s t : List Char} (h : Respelled s t) : f s = f t := by
  induction h with
  | rel s t h => exact hf s t h
  | refl s => rfl
  | symm s t _ ih => exact ih.symm
  | trans s t u _ _ ih ih' => exact ih.trans ih'

/-- What a path says at its front does not depend on what stands behind a slash. -/
theorem start_slash (front s t : List Char) :
    start (front ++ '/' :: s) = start (front ++ '/' :: t) := by
  by_cases hfront : front = []
  · subst hfront
    rfl
  · rw [start_append_slash hfront, start_append_slash hfront]

theorem Shortens.start_eq {s t : List Char} (h : Shortens s t) : start s = start t := by
  cases h with
  | slash front back => exact start_slash front _ _
  | dot front back => exact start_slash front _ _
  | lastDot front => exact start_slash front _ _
  | lastSlash h => exact start_append_slash h []

theorem Shortens.steps_eq {s t : List Char} (h : Shortens s t) : steps s = steps t := by
  -- an empty piece has no steps, and neither has a lone dot
  have hempty (back : List Char) : steps ('/' :: back) = steps back := steps_append_slash [] back
  have hdot (back : List Char) : steps ('.' :: '/' :: back) = steps back :=
    steps_append_slash ['.'] back
  cases h with
  | slash front back => rw [steps_append_slash, steps_append_slash, hempty]
  | dot front back => rw [steps_append_slash, steps_append_slash, hdot]
  | lastDot front =>
      rw [steps_append_slash, steps_append_slash]
      rfl
  | lastSlash h =>
      rw [steps_append_slash]
      exact List.append_nil _

theorem Shortens.components_eq {s t : List Char} (h : Shortens s t) :
    components s = components t := by
  rw [Path.components_eq, Path.components_eq, h.start_eq, h.steps_eq]

/-- A slash at the front is never the one that is left out alone. -/
theorem Shortens.isAbsolute_eq {s t : List Char} (h : Shortens s t) :
    isAbsolute s = isAbsolute t := by
  have hslash (front s t : List Char) :
      isAbsolute (front ++ '/' :: s) = isAbsolute (front ++ '/' :: t) := by
    cases front <;> rfl
  cases h with
  | slash front back => exact hslash front _ _
  | dot front back => exact hslash front _ _
  | lastDot front => exact hslash front _ _
  | lastSlash h =>
      cases t with
      | nil => exact absurd rfl h
      | cons c t => rfl

/-- Only slashes and dots are left out. -/
theorem Shortens.contains_eq {c : Char} (hslash : c ≠ '/') (hdot : c ≠ '.') {s t : List Char}
    (h : Shortens s t) : s.contains c = t.contains c := by
  cases h <;> simp [hslash, hdot]

theorem Shortens.ne_nil {s t : List Char} (h : Shortens s t) : t ≠ [] := by
  cases h with
  | lastSlash h => exact h
  | _ => simp

/-! ## 2. What has the same components is respelled -/

theorem text_of_componentOf? {piece : List Char} {c : Component}
    (h : componentOf? piece = some c) : c.text = piece := by
  unfold componentOf? at h
  split at h
  · cases h
  · cases h
  · rw [← Option.some.inj h]
    rfl
  · rw [← Option.some.inj h]
    rfl

theorem ne_root_of_componentOf? {piece : List Char} {c : Component}
    (h : componentOf? piece = some c) : c ≠ .root := by
  rintro rfl
  unfold componentOf? at h
  split at h <;> simp at h

theorem eq_of_componentOf?_none {piece : List Char} (h : componentOf? piece = none) :
    piece = [] ∨ piece = ['.'] := by
  by_contra hne
  rw [not_or] at hne
  rw [← isSome_componentOf?_iff, h] at hne
  cases hne

/-- A path is its first piece, and the others behind slashes. -/
theorem exists_pieces (path : List Char) :
    ∃ first rest, pieces path = first :: rest ∧ path = first ++ behindSlashes rest := by
  induction path with
  | nil => exact ⟨[], [], rfl, rfl⟩
  | cons c path ih =>
      obtain ⟨first, rest, hpieces, hpath⟩ := ih
      rw [pieces] at hpieces ⊢
      rw [Text.pieces, hpieces]
      -- a slash begins a new piece
      by_cases hc : c = '/'
      · rw [if_pos hc]
        refine ⟨[], first :: rest, rfl, ?_⟩
        rw [hpath, hc]
        rfl
      · rw [if_neg hc]
        refine ⟨c :: first, rest, rfl, ?_⟩
        rw [hpath]
        rfl

/-- A piece that says nothing is left out between slashes. -/
theorem shortens_silent {piece : List Char} (h : componentOf? piece = none)
    (front back : List Char) :
    Shortens (front ++ '/' :: (piece ++ '/' :: back)) (front ++ '/' :: back) := by
  rcases eq_of_componentOf?_none h with rfl | rfl
  · exact .slash front back
  · exact .dot front back

/-- A piece that stands for nothing can be left out at the end. -/
theorem shortens_last {piece : List Char} (h : componentOf? piece = none) (front : List Char) :
    Relation.ReflTransGen Shortens (front ++ '/' :: piece) (front ++ ['/']) := by
  rcases eq_of_componentOf?_none h with rfl | rfl
  · exact .refl
  · exact .single (.lastDot front)

/-- Behind a first piece, all pieces that say nothing are left out. -/
theorem shortens_pieces {front : List Char} (hfront : front ≠ []) (ps : List (List Char)) :
    Relation.ReflTransGen Shortens (front ++ behindSlashes ps)
      (front ++ behindSlashes ((ps.filterMap componentOf?).map Component.text)) := by
  induction ps generalizing front with
  | nil => exact .refl
  | cons piece ps ih =>
      cases hpiece : componentOf? piece with
      | none =>
          rw [List.filterMap_cons_none hpiece]
          cases ps with
          | nil =>
              have hlast := (shortens_last hpiece front).tail (.lastSlash hfront)
              simpa [behindSlashes] using hlast
          | cons next ps =>
              have hone := shortens_silent hpiece front (next ++ behindSlashes ps)
              exact .head hone (ih hfront)
      | some c =>
          rw [List.filterMap_cons_some hpiece, List.map_cons, text_of_componentOf? hpiece]
          -- the piece stays, and what stands in front of the next slash is longer by it
          have hmore := @ih (front ++ '/' :: piece) (by simp)
          rw [List.append_assoc, List.append_assoc] at hmore
          exact hmore

/-- Behind the root, too, but its slash stays if nothing else is left. -/
theorem shortens_root {ps : List (List Char)} (hps : ps ≠ []) :
    Relation.ReflTransGen Shortens (behindSlashes ps)
      (shortest (.root :: ps.filterMap componentOf?)) := by
  induction ps with
  | nil => exact absurd rfl hps
  | cons piece ps ih =>
      -- a silent piece behind the root goes away, and a name stays
      cases hpiece : componentOf? piece with
      | none =>
          rw [List.filterMap_cons_none hpiece]
          cases ps with
          | nil =>
              have hlast := shortens_last hpiece []
              rw [behindSlashes, List.flatMap_singleton]
              exact hlast
          | cons next ps =>
              have hone := shortens_silent hpiece [] (next ++ behindSlashes ps)
              exact .head hone (ih (List.cons_ne_nil _ _))
      | some c =>
          have hmore := @shortens_pieces ('/' :: piece) (List.cons_ne_nil _ _) ps
          rw [List.filterMap_cons_some hpiece]
          show Relation.ReflTransGen Shortens _
            ('/' :: c.text ++ behindSlashes ((ps.filterMap componentOf?).map Component.text))
          rw [text_of_componentOf? hpiece]
          exact hmore

theorem first_of_isAbsolute {first : List Char} {rest : List (List Char)} (hslash : '/' ∉ first)
    (h : isAbsolute (first ++ behindSlashes rest) = true) : first = [] ∧ rest ≠ [] := by
  cases first with
  | nil =>
      refine ⟨rfl, ?_⟩
      rintro rfl
      cases h
  | cons c first =>
      have hc : c = '/' := by simpa [isAbsolute] using h
      exact absurd List.mem_cons_self (hc ▸ hslash)

/-- The shortest path has one slash in front of each component but the first. -/
theorem shortest_cons {c : Component} (h : c ≠ .root) (cs : List Component) :
    shortest (c :: cs) = c.text ++ behindSlashes (cs.map Component.text) := by
  cases c with
  | root => exact absurd rfl h
  | here => rfl
  | up => rfl
  | name text => rfl

/-- Every path comes to the shortest one with its components by leaving things out. -/
theorem shortens_shortest (path : List Char) :
    Relation.ReflTransGen Shortens path (shortest (components path)) := by
  obtain ⟨first, rest, hpieces, rfl⟩ := exists_pieces path
  have hslash : '/' ∉ first := by
    have hmem : first ∈ pieces (first ++ behindSlashes rest) := by
      rw [hpieces]
      exact List.mem_cons_self
    exact (Text.sublist_of_mem_pieces hmem).2
  rw [components_eq, start, steps, hpieces]
  by_cases hroot : isAbsolute (first ++ behindSlashes rest) = true
  -- the first piece is empty then, and there are others
  · obtain ⟨rfl, hrest⟩ := first_of_isAbsolute hslash hroot
    rw [if_pos hroot, List.filterMap_cons_none rfl, List.nil_append]
    exact shortens_root hrest
  · rw [if_neg hroot]
    cases hfirst : componentOf? first with
    | none =>
        rw [List.filterMap_cons_none hfirst]
        rcases eq_of_componentOf?_none hfirst with rfl | rfl
        · cases rest with
          | nil => exact .refl
          | cons piece rest => exact absurd rfl hroot
        · exact shortens_pieces (List.cons_ne_nil _ _) rest
    | some c =>
        obtain ⟨hne, hdot⟩ := isSome_componentOf?_iff.mp (Option.isSome_of_mem hfirst)
        rw [List.head?_cons, if_neg (by simp [hdot]), List.nil_append,
          List.filterMap_cons_some hfirst, shortest_cons (ne_root_of_componentOf? hfirst),
          text_of_componentOf? hfirst]
        exact shortens_pieces hne rest

/-- Two paths have the same components exactly if they are spellings of each other. -/
theorem components_eq_iff {s t : List Char} : components s = components t ↔ Respelled s t := by
  refine ⟨fun h => ?_, Respelled.congr fun _ _ => Shortens.components_eq⟩
  have hto (path : List Char) : Respelled path (shortest (components path)) :=
    Relation.EqvGen.reflTransGen_le_eqvGen _ _ _ (shortens_shortest path)
  have hs := hto s
  rw [h] at hs
  exact .trans _ _ _ hs (.symm _ _ (hto t))

/-- Only the empty path has no components. -/
theorem components_eq_nil_iff {path : List Char} : components path = [] ↔ path = [] := by
  refine ⟨fun h => ?_, fun h => h ▸ rfl⟩
  have hshortest := shortens_shortest path
  rw [h] at hshortest
  rcases Relation.ReflTransGen.cases_tail hshortest with heq | ⟨_, -, hlast⟩
  · exact heq.symm
  · exact absurd rfl hlast.ne_nil

end ProcessLaunch.Path
