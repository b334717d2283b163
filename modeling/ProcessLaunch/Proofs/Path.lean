import Mathlib.Data.List.Basic
import Mathlib.Data.List.TakeWhile
import ProcessLaunch.Path
import ProcessLaunch.Proofs.Text.Pieces

/-!
# Components of paths

A path leads on by what stands between its slashes; only at its front may it say more, that it
begins at the root or where it is.  What stands behind a slash adds its own steps, so slashes and
lone dots at the end of a path change nothing, and the last name in it can be told from the text.
-/

namespace ProcessLaunch.Path

/-! ## 1. The front of a path and its steps -/

def start (path : List Char) : List Component :=
  if isAbsolute path then [.root]
  else if (pieces path).head? = some ['.'] then [.here]
  else []

def steps (path : List Char) : List Component := (pieces path).filterMap componentOf?

/-- The components of a path are what it says before its first step and then its steps. -/
theorem components_eq (path : List Char) : components path = start path ++ steps path := by
  unfold components start steps
  -- the first component is read off the front of the path, all others off its pieces
  by_cases hroot : isAbsolute path = true
  · rw [if_pos hroot, if_pos hroot]
    rfl
  · rw [if_neg hroot, if_neg hroot]
    split
    next more hmore =>
      rw [hmore]
      rfl
    next hnot =>
      rw [if_neg]
      · rfl
      · intro hhead
        obtain ⟨more, hmore⟩ := List.head?_eq_some_iff.mp hhead
        exact hnot more hmore

theorem steps_of_slash_notMem {path : List Char} (h : '/' ∉ path) :
    steps path = (componentOf? path).toList := by
  show (Text.pieces '/' path).filterMap componentOf? = _
  rw [Text.pieces_of_not_mem h, List.filterMap_cons]
  cases componentOf? path <;> rfl

/-- What stands behind a slash adds its own steps. -/
theorem steps_append_slash (path more : List Char) :
    steps (path ++ '/' :: more) = steps path ++ steps more := by
  show (Text.pieces '/' (path ++ '/' :: more)).filterMap componentOf? = _
  rw [Text.pieces_append_cons, List.filterMap_append]
  rfl

theorem start_append_slash {path : List Char} (hpath : path ≠ []) (more : List Char) :
    start (path ++ '/' :: more) = start path := by
  have habsolute : isAbsolute (path ++ '/' :: more) = isAbsolute path := by
    cases path with
    | nil => exact absurd rfl hpath
    | cons c path => rfl
  have hhead : (pieces (path ++ '/' :: more)).head? = (pieces path).head? := by
    show (Text.pieces '/' (path ++ '/' :: more)).head? = (Text.pieces '/' path).head?
    rw [Text.pieces_append_cons]
    exact List.head?_append_of_ne_nil _ (Text.pieces_ne_nil '/' path)
  rw [start, start, habsolute, hhead]

/-- A piece is a name unless it is empty or stands for the directory itself or for the one above. -/
theorem componentOf?_eq_some_name {piece text : List Char} :
    componentOf? piece = some (.name text) ↔
      piece = text ∧ piece ≠ [] ∧ piece ≠ ['.'] ∧ piece ≠ ['.', '.'] := by
  unfold componentOf?
  split <;> simp_all

/-- A component that may stand anywhere in a path. -/
def Component.IsStep (c : Component) : Prop := c = .up ∨ ∃ text, c = .name text

theorem isStep_of_mem {path : List Char} {c : Component} (h : c ∈ steps path) : c.IsStep := by
  obtain ⟨piece, -, hpiece⟩ := List.mem_filterMap.mp h
  unfold componentOf? at hpiece
  split at hpiece
  · cases hpiece
  · cases hpiece
  · exact .inl (Option.some.inj hpiece).symm
  · exact .inr ⟨_, (Option.some.inj hpiece).symm⟩

/-! ## 2. What is put behind a path -/

theorem steps_relative (path : List Char) : steps (relative path) = steps path := by
  induction path with
  | nil => rfl
  | cons c path ih =>
      by_cases hc : c = '/'
      · subst hc
        show steps (relative path) = steps ([] ++ '/' :: path)
        rw [steps_append_slash, ih]
        rfl
      · rw [relative, List.dropWhile_cons_of_neg (by simpa using hc)]

/-- A relative path adds its steps to the components of the base, however the base ends. -/
theorem components_join {base path : List Char} (hbase : base ≠ [])
    (hpath : isAbsolute path = false) :
    components (join base path) = components base ++ steps path := by
  -- one slash between base and path: what `join` makes of a base that does not end in one
  have hbehind {front : List Char} (hfront : front ≠ []) :
      components (front ++ '/' :: path) = components front ++ steps path := by
    rw [components_eq, components_eq, start_append_slash hfront, steps_append_slash,
      List.append_assoc]
  rw [join, if_neg (by simp [hpath])]
  by_cases hslash : base.getLast? = some '/'
  -- a base that ends in a slash is its front with that slash behind it, or the root
  · obtain ⟨front, rfl⟩ := List.getLast?_eq_some_iff.mp hslash
    rw [if_pos (.inr hslash), List.append_assoc, List.singleton_append]
    by_cases hfront : front = []
    · subst hfront
      show components ([] ++ '/' :: path) = components ([] ++ '/' :: []) ++ steps path
      rw [components_eq, components_eq, steps_append_slash, steps_append_slash]
      rfl
    · rw [hbehind hfront, components_eq (front ++ ['/']), start_append_slash hfront,
        steps_append_slash, components_eq front]
      show _ = start front ++ (steps front ++ []) ++ steps path
      rw [List.append_nil]
  · rw [if_neg (by simp [hbase, hslash]), hbehind hbase]

/-! ## 3. The last name -/

/-- Slashes, and lone dots behind slashes. -/
inductive Trailing : List Char → Prop
  | nil : Trailing []
  | slash {s : List Char} (h : Trailing s) : Trailing ('/' :: s)
  | dot {s : List Char} (h : Trailing s) : Trailing ('/' :: '.' :: s)

theorem Trailing.append {s t : List Char} (hs : Trailing s) (ht : Trailing t) :
    Trailing (s ++ t) := by
  induction hs with
  | nil => exact ht
  | slash _ ih => exact ih.slash
  | dot _ ih => exact ih.dot

/-- Slashes and lone dots behind a path add no step. -/
theorem steps_append_trailing (path : List Char) {tail : List Char} (h : Trailing tail) :
    steps (path ++ tail) = steps path := by
  induction h generalizing path with
  | nil => rw [List.append_nil]
  | @slash s _ ih =>
      have hone : steps (path ++ ['/']) = steps path ++ [] := steps_append_slash path []
      rw [show path ++ '/' :: s = path ++ ['/'] ++ s by simp, ih, hone, List.append_nil]
  | @dot s _ ih =>
      have hone : steps (path ++ ['/', '.']) = steps path ++ [] := steps_append_slash path ['.']
      rw [show path ++ '/' :: '.' :: s = path ++ ['/', '.'] ++ s by simp, ih, hone, List.append_nil]

/-- A text is the last component of a path, with nothing behind it but slashes and lone dots. -/
def EndsIn (path last : List Char) : Prop :=
  '/' ∉ last ∧ last ≠ [] ∧ last ≠ ['.'] ∧ ∃ front tail, Trailing tail ∧
    (front = [] ∨ front.getLast? = some '/') ∧ path = front ++ last ++ tail

theorem isSome_componentOf?_iff {piece : List Char} :
    (componentOf? piece).isSome = true ↔ piece ≠ [] ∧ piece ≠ ['.'] := by
  unfold componentOf?
  split <;> simp_all

/-- The last component of the text is the last step of the path. -/
theorem EndsIn.getLast?_steps {path last : List Char} (h : EndsIn path last) :
    (steps path).getLast? = componentOf? last := by
  obtain ⟨hslash, hne, hdot, front, tail, htail, hfront, rfl⟩ := h
  obtain ⟨c, hc⟩ := Option.isSome_iff_exists.mp (isSome_componentOf?_iff.mpr ⟨hne, hdot⟩)
  have hlast : steps last = [c] := by rw [steps_of_slash_notMem hslash, hc]; rfl
  rw [steps_append_trailing _ htail, hc]
  rcases hfront with rfl | hfront
  · rw [List.nil_append, hlast]
    rfl
  · obtain ⟨front, rfl⟩ := List.getLast?_eq_some_iff.mp hfront
    rw [List.append_assoc, List.singleton_append, steps_append_slash, hlast,
      List.getLast?_concat]

theorem EndsIn.append {path last tail : List Char} (h : EndsIn path last) (htail : Trailing tail) :
    EndsIn (path ++ tail) last := by
  obtain ⟨hslash, hne, hdot, front, tail', htail', hfront, rfl⟩ := h
  exact ⟨hslash, hne, hdot, front, tail' ++ tail, htail'.append htail, hfront,
    List.append_assoc _ _ _⟩

/-- What stands behind the last slash of a path is its last component, or it says nothing. -/
theorem endsIn_or_trailing {piece : List Char} (h : '/' ∉ piece) (front : List Char) :
    EndsIn (front ++ '/' :: piece) piece ∨ Trailing ('/' :: piece) := by
  by_cases hnil : piece = []
  · subst hnil
    exact .inr (.slash .nil)
  · by_cases hdot : piece = ['.']
    · subst hdot
      exact .inr (.dot .nil)
    · refine .inl ⟨h, hnil, hdot, front ++ ['/'], [], .nil, .inr List.getLast?_concat, ?_⟩
      simp

/-- A character that a text has has a last place in it. -/
theorem exists_last_place {c : Char} {s : List Char} (h : c ∈ s) :
    ∃ front back, s = front ++ c :: back ∧ c ∉ back := by
  obtain ⟨back, front, hreverse, hback⟩ := List.eq_append_cons_of_mem (List.mem_reverse.mpr h)
  refine ⟨front.reverse, back.reverse, ?_, by simpa using hback⟩
  rw [← List.reverse_reverse s, hreverse]
  simp

/-- A path with a step has a last one, and that stands in its text. -/
theorem exists_endsIn {path : List Char} {c : Component} (h : (steps path).getLast? = some c) :
    ∃ last, EndsIn path last := by
  -- by induction on the length: what stands behind the last slash is a step or says nothing
  induction hlength : path.length using Nat.strongRecOn generalizing path with
  | ind n ih =>
      by_cases hmem : '/' ∈ path
      · obtain ⟨front, piece, rfl, hpiece⟩ := exists_last_place hmem
        rcases endsIn_or_trailing hpiece front with hlast | htrailing
        · exact ⟨piece, hlast⟩
        · rw [steps_append_trailing front htrailing] at h
          obtain ⟨last, hlast⟩ := ih front.length (by rw [← hlength]; simp) h rfl
          exact ⟨last, hlast.append htrailing⟩
      · rw [steps_of_slash_notMem hmem] at h
        have hsome : (componentOf? path).isSome = true := by
          cases hpath : componentOf? path with
          | none =>
              rw [hpath] at h
              cases h
          | some d => rfl
        obtain ⟨hne, hdot⟩ := isSome_componentOf?_iff.mp hsome
        exact ⟨path, hmem, hne, hdot, [], [], .nil, .inl rfl, by simp⟩

theorem fileName?_eq_some_iff {path name : List Char} :
    fileName? path = some name ↔ (steps path).getLast? = some (.name name) := by
  have hstart (text : List Char) : (start path).getLast? ≠ some (.name text) := by
    unfold start
    split
    · simp
    · split <;> simp
  -- the start of a path is no name, so the last component is one only among the steps
  rw [fileName?, components_eq, List.getLast?_append]
  cases hlast : (steps path).getLast? with
  | none =>
      rw [Option.none_or]
      split
      next text htext => exact absurd htext (hstart text)
      next => simp
  | some c =>
      rw [Option.some_or]
      cases c <;> simp

/-- The file name of a path is its last component, unless that leads up. -/
theorem fileName?_iff_endsIn {path name : List Char} :
    fileName? path = some name ↔ EndsIn path name ∧ name ≠ ['.', '.'] := by
  rw [fileName?_eq_some_iff]
  constructor
  · intro h
    obtain ⟨last, hlast⟩ := exists_endsIn h
    obtain ⟨rfl, -, -, hup⟩ := componentOf?_eq_some_name.mp (hlast.getLast?_steps.symm.trans h)
    exact ⟨hlast, hup⟩
  · rintro ⟨h, hup⟩
    rw [h.getLast?_steps]
    exact componentOf?_eq_some_name.mpr ⟨rfl, h.2.1, h.2.2.1, hup⟩

theorem fileName?_append_trailing (path : List Char) {tail : List Char} (h : Trailing tail) :
    fileName? (path ++ tail) = fileName? path := by
  refine Option.ext fun name => ?_
  rw [fileName?_eq_some_iff, fileName?_eq_some_iff, steps_append_trailing path h]

/-! ## 4. Stems -/

/-- What a name is without its extension: all before its last dot, if that is not at its front. -/
inductive IsStem : List Char → List Char → Prop
  | cut {s extension : List Char} (hs : s ≠ []) (h : '.' ∉ extension) :
      IsStem (s ++ '.' :: extension) s
  | undotted {name : List Char} (h : '.' ∉ name) : IsStem name name
  | hidden {name : List Char} (h : '.' ∉ name) : IsStem ('.' :: name) ('.' :: name)

theorem bne_dot_of_mem_reverse {s : List Char} (h : '.' ∉ s) :
    ∀ c ∈ s.reverse, (c != '.') = true := by
  intro c hc
  have hne : c ≠ '.' := by
    rintro rfl
    exact h (List.mem_reverse.mp hc)
  simpa using hne

/-- The last dot cuts a name, except at its front. -/
theorem stem_of_dot {s extension : List Char} (h : '.' ∉ extension) :
    stem (s ++ '.' :: extension) = if s = [] then '.' :: extension else s := by
  have hdrop : (s ++ '.' :: extension).reverse.dropWhile (· != '.') = '.' :: s.reverse := by
    rw [List.reverse_append, List.reverse_cons, List.append_assoc, List.singleton_append,
      List.dropWhile_append_of_pos (bne_dot_of_mem_reverse h),
      List.dropWhile_cons_of_neg (by simp)]
  rw [stem, hdrop, List.reverse_cons, List.reverse_reverse, List.dropLast_concat]
  cases s with
  | nil => rfl
  | cons c s => rfl

theorem stem_of_undotted {name : List Char} (h : '.' ∉ name) : stem name = name := by
  have hdrop : name.reverse.dropWhile (· != '.') = [] :=
    List.dropWhile_eq_nil_iff.mpr (bne_dot_of_mem_reverse h)
  rw [stem, hdrop]
  rfl

/-- The stem of a name is what the name is without its extension. -/
theorem isStem_stem (name : List Char) : IsStem name (stem name) := by
  by_cases hdot : '.' ∈ name
  · obtain ⟨front, extension, rfl, hextension⟩ := exists_last_place hdot
    rw [stem_of_dot hextension]
    by_cases hfront : front = []
    · rw [if_pos hfront, hfront]
      exact .hidden hextension
    · rw [if_neg hfront]
      exact .cut hfront hextension
  · rw [stem_of_undotted hdot]
    exact .undotted hdot

theorem IsStem.eq_stem {name s : List Char} (h : IsStem name s) : s = stem name := by
  cases h with
  | cut hs h => rw [stem_of_dot h, if_neg hs]
  | undotted h => rw [stem_of_undotted h]
  | @hidden name h =>
      have hstem : stem ([] ++ '.' :: name) = _ := stem_of_dot h
      rw [if_pos rfl] at hstem
      exact hstem.symm

/-- A name has one stem and no other. -/
theorem isStem_iff {name s : List Char} : IsStem name s ↔ s = stem name :=
  ⟨IsStem.eq_stem, fun h => h ▸ isStem_stem name⟩

theorem IsStem.ne_nil {name s : List Char} (h : IsStem name s) (hname : name ≠ []) : s ≠ [] := by
  cases h with
  | cut hs => exact hs
  | undotted => exact hname
  | hidden => exact hname

theorem IsStem.subset {name s : List Char} (h : IsStem name s) : s ⊆ name := by
  cases h with
  | cut => exact List.subset_append_left _ _
  | undotted => exact List.Subset.refl _
  | hidden => exact List.Subset.refl _

end ProcessLaunch.Path
