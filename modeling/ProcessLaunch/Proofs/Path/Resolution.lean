import ProcessLaunch.Proofs.Path

/-!
# Where a path leads

A path is resolved by its text alone: lone dots say nothing, and a way up takes back the name in
front of it.  What is put behind a path stays under it exactly as long as there have nowhere been
more ways up than names, and above that it comes back only by the names that it left.
-/

namespace ProcessLaunch.Path

/-! ## 1. Resolving -/

/-- A way up behind a resolved path takes back its last name.  Above the root there is nothing. -/
def goUp (along : List Component) : List Component :=
  match along.getLast? with
  | some (.name _) => along.dropLast
  | some .root => along
  | _ => along ++ [.up]

def advance (along : List Component) : Component → List Component
  | .root => [.root]
  | .here => along
  | .up => goUp along
  | .name text => along ++ [.name text]

/-- The components of a path with lone dots and taken-back names left out. -/
def resolved (path : List Char) : List Component := (components path).foldl advance []

/-- A path leads to what another one names or to something below it. -/
def LiesUnder (root path : List Char) : Prop := resolved root <+: resolved path

/-- A relative path goes on from where the base leads. -/
theorem resolved_join (base : List Char) {path : List Char} (h : isAbsolute path = false) :
    resolved (join base path) = (steps path).foldl advance (resolved base) := by
  by_cases hbase : base = []
  · -- nothing stands in front of the path, and a lone dot there says nothing either
    have hstart : (start path).foldl advance [] = [] := by
      rw [start, if_neg (by simp [h])]
      split <;> rfl
    rw [join, if_neg (by simp [h]), if_pos (.inl hbase), hbase, List.nil_append, resolved,
      components_eq, List.foldl_append, hstart]
    rfl
  · rw [resolved, components_join hbase h, List.foldl_append]
    rfl

theorem resolved_under (root resource : String) :
    resolved (under root resource).toList =
      (steps resource.toList).foldl advance (resolved root.toList) := by
  rw [under, String.toList_ofList, resolved_join _ (not_isAbsolute_relative _), steps_relative]

/-! ## 2. Depth -/

def Component.isName : Component → Bool
  | .name _ => true
  | _ => false

/-- So many names deep, nowhere along these components have there been more ways up than down. -/
def StaysWithin (depth : Nat) (cs : List Component) : Prop :=
  ∀ front, front <+: cs → front.count .up ≤ front.countP Component.isName + depth

theorem staysWithin_nil (depth : Nat) : StaysWithin depth [] := by
  intro front hfront
  rw [List.prefix_nil.mp hfront]
  exact Nat.zero_le _

/-- A name leads one deeper, and from there the path has to stay within. -/
theorem staysWithin_name (depth : Nat) (text : List Char) (cs : List Component) :
    StaysWithin depth (.name text :: cs) ↔ StaysWithin (depth + 1) cs := by
  -- one name more in front moves the bound by one and leaves the ways up as they are
  have hcount (front : List Component) :
      (Component.name text :: front).count .up = front.count .up ∧
        (Component.name text :: front).countP Component.isName =
          front.countP Component.isName + 1 :=
    ⟨List.count_cons_of_ne (by simp), List.countP_cons_of_pos rfl⟩
  constructor
  · intro h front hfront
    have hmore := h (.name text :: front) (List.cons_prefix_cons.mpr ⟨rfl, hfront⟩)
    rw [(hcount front).1, (hcount front).2] at hmore
    omega
  · intro h front hfront
    rcases List.prefix_cons_iff.mp hfront with rfl | ⟨behind, rfl, hbehind⟩
    · exact Nat.zero_le _
    · have hmore := h behind hbehind
      rw [(hcount behind).1, (hcount behind).2]
      omega

/-- A way up needs a name to take back. -/
theorem staysWithin_up (depth : Nat) (cs : List Component) :
    StaysWithin depth (.up :: cs) ↔ 0 < depth ∧ StaysWithin (depth - 1) cs := by
  have hcount (front : List Component) :
      (Component.up :: front).count .up = front.count .up + 1 ∧
        (Component.up :: front).countP Component.isName = front.countP Component.isName :=
    ⟨List.count_cons_self, List.countP_cons_of_neg (by simp [Component.isName])⟩
  constructor
  · intro h
    have hone := h [.up] (List.cons_prefix_cons.mpr ⟨rfl, List.nil_prefix⟩)
    rw [(hcount []).1, (hcount []).2, List.count_nil, List.countP_nil] at hone
    refine ⟨by omega, fun front hfront => ?_⟩
    have hmore := h (.up :: front) (List.cons_prefix_cons.mpr ⟨rfl, hfront⟩)
    rw [(hcount front).1, (hcount front).2] at hmore
    omega
  · rintro ⟨hpos, h⟩ front hfront
    rcases List.prefix_cons_iff.mp hfront with rfl | ⟨behind, rfl, hbehind⟩
    · exact Nat.zero_le _
    · have hmore := h behind hbehind
      rw [(hcount behind).1, (hcount behind).2]
      omega

/-! ## 3. Staying under a path -/

theorem goUp_concat_name (along : List Component) (text : List Char) :
    goUp (along ++ [.name text]) = along := by
  rw [goUp, List.getLast?_concat]
  exact List.dropLast_concat

/-- Only names are taken back that stand behind the path. -/
theorem prefix_foldl_advance {base cs : List Component} {below : List (List Char)}
    (hcs : ∀ c ∈ cs, c.IsStep) (h : StaysWithin below.length cs) :
    base <+: cs.foldl advance (base ++ below.map .name) := by
  induction cs generalizing below with
  | nil => exact List.prefix_append base _
  | cons c cs ih =>
      have hmore : ∀ c ∈ cs, c.IsStep := fun c hc => hcs c (List.mem_cons_of_mem _ hc)
      rw [List.foldl_cons]
      -- a way up takes back one of the names below, and a name is put below them
      rcases hcs c List.mem_cons_self with rfl | ⟨text, rfl⟩
      · obtain ⟨hpos, hrest⟩ := (staysWithin_up _ cs).mp h
        obtain rfl | ⟨below, text, rfl⟩ := List.eq_nil_or_concat' below
        · cases hpos
        · rw [List.length_append, List.length_singleton, Nat.add_sub_cancel] at hrest
          rw [advance, List.map_append, List.map_singleton, ← List.append_assoc, goUp_concat_name]
          exact ih hmore hrest
      · have hrest := (staysWithin_name _ text cs).mp h
        have hdeeper : advance (base ++ below.map .name) (.name text) =
            base ++ (below ++ [text]).map .name := by simp [advance]
        rw [hdeeper]
        exact ih hmore (by simpa using hrest)

/-! ## 4. Leaving a path -/

/-- A name that has been left at its place does not come back there unless it is named again. -/
theorem getElem?_foldl_advance_ne {along cs : List Component} {place : Nat} {text : List Char}
    (h : along[place]? ≠ some (.name text)) (hcs : .name text ∉ cs) :
    (cs.foldl advance along)[place]? ≠ some (.name text) := by
  -- a component at the end can only be the one that was put there
  have hadd {along : List Component} {c : Component} (h : along[place]? ≠ some (.name text))
      (hc : c ≠ .name text) : (along ++ [c])[place]? ≠ some (.name text) := by
    intro hat
    rw [List.getElem?_append] at hat
    split at hat
    · exact h hat
    · exact hc (List.mem_singleton.mp (List.mem_of_getElem? hat)).symm
  induction cs generalizing along with
  | nil => exact h
  | cons c cs ih =>
      rw [List.mem_cons, not_or] at hcs
      refine ih ?_ hcs.2
      cases c with
      | root =>
          have hempty : ([] : List Component)[place]? ≠ some (.name text) := by simp
          exact hadd hempty (by simp)
      | here => exact h
      | up =>
          rw [advance, goUp]
          split
          · intro hat
            rw [List.getElem?_dropLast] at hat
            split at hat
            · exact h hat
            · cases hat
          · exact h
          · exact hadd h (by simp)
      | name other => exact hadd h (Ne.symm hcs.1)

/-- Behind a path that is left by its last name one comes back there only by that name. -/
theorem not_prefix_foldl_advance {above cs : List Component} {text : List Char}
    {below : List (List Char)} (hcs : ∀ c ∈ cs, c.IsStep) (hnot : .name text ∉ cs)
    (h : ¬StaysWithin below.length cs) :
    ¬above ++ [.name text] <+: cs.foldl advance (above ++ [.name text] ++ below.map .name) := by
  induction cs generalizing below with
  | nil => exact absurd (staysWithin_nil _) h
  | cons c cs ih =>
      have hmore : ∀ c ∈ cs, c.IsStep := fun c hc => hcs c (List.mem_cons_of_mem _ hc)
      have hnotmore : .name text ∉ cs := fun hmem => hnot (List.mem_cons_of_mem _ hmem)
      rw [List.foldl_cons]
      rcases hcs c List.mem_cons_self with rfl | ⟨other, rfl⟩
      · rw [staysWithin_up] at h
        obtain rfl | ⟨below, other, rfl⟩ := List.eq_nil_or_concat' below
        · -- the path is left, and then its last name is missing
          rw [List.map_nil, List.append_nil, advance, goUp_concat_name]
          have hleft : above[above.length]? ≠ some (.name text) := by simp
          rintro ⟨behind, hbehind⟩
          apply getElem?_foldl_advance_ne hleft hnotmore
          rw [← hbehind]
          simp
        · rw [List.length_append, List.length_singleton, Nat.add_sub_cancel] at h
          rw [advance, List.map_append, List.map_singleton, ← List.append_assoc, goUp_concat_name]
          exact ih hmore hnotmore fun hrest => h ⟨by omega, hrest⟩
      · rw [staysWithin_name] at h
        have hdeeper : advance (above ++ [.name text] ++ below.map .name) (.name other) =
            above ++ [.name text] ++ (below ++ [other]).map .name := by simp [advance]
        rw [hdeeper]
        exact ih hmore hnotmore (by simpa using h)

/-! ## 5. Resources under a root -/

/-- A resource that nowhere goes further up than down lies under every root. -/
theorem liesUnder_of_staysWithin (root : String) {resource : String}
    (h : StaysWithin 0 (steps resource.toList)) :
    LiesUnder root.toList (under root resource).toList := by
  have hprefix : resolved root.toList <+: (steps resource.toList).foldl advance
      (resolved root.toList ++ [].map .name) :=
    prefix_foldl_advance (fun _ hc => isStep_of_mem hc) h
  rw [List.map_nil, List.append_nil] at hprefix
  rw [LiesUnder, resolved_under]
  exact hprefix

/-- A resource that goes up from a root and does not name it again lies elsewhere. -/
theorem liesUnder_iff {root resource : String} {above : List Component} {text : List Char}
    (hroot : resolved root.toList = above ++ [.name text])
    (hnot : .name text ∉ steps resource.toList) :
    LiesUnder root.toList (under root resource).toList ↔
      StaysWithin 0 (steps resource.toList) := by
  refine ⟨fun hunder => ?_, liesUnder_of_staysWithin root⟩
  by_contra hleaves
  have hleft : ¬above ++ [.name text] <+: (steps resource.toList).foldl advance
      (above ++ [.name text] ++ [].map .name) :=
    not_prefix_foldl_advance (fun _ hc => isStep_of_mem hc) hnot hleaves
  rw [List.map_nil, List.append_nil, ← hroot] at hleft
  rw [LiesUnder, resolved_under] at hunder
  exact hleft hunder

/-- The text of the root stands at the front of every path under it, so it is never replaced. -/
theorem prefix_under (root resource : String) : root.toList <+: (under root resource).toList := by
  rw [under, String.toList_ofList, join, if_neg (by simp [not_isAbsolute_relative])]
  split
  · exact List.prefix_append _ _
  · exact List.prefix_append _ _

end ProcessLaunch.Path
