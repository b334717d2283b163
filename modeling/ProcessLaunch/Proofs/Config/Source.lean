import ProcessLaunch.Config.Source
import ProcessLaunch.Proofs.Path.Spelling

/-!
# Spellings of a source

Two sources of a configuration are the same if they have one name and their roots are spellings of
one path.  The paths of their files are then spellings of one path too, and lead to the same file.
-/

namespace ProcessLaunch

open ProcessLaunch.Path

/-! ## 1. Joining to another spelling -/

namespace Path

/-- Behind a base that is not empty a path stands behind a slash. -/
theorem exists_join {base path : List Char} (hbase : base ≠ []) (hpath : isAbsolute path = false) :
    ∃ front, join base path = front ++ '/' :: path ∧ steps front = steps base := by
  rw [join, if_neg (by simp [hpath])]
  by_cases hslash : base.getLast? = some '/'
  · obtain ⟨front, rfl⟩ := List.getLast?_eq_some_iff.mp hslash
    rw [if_pos (.inr hslash)]
    refine ⟨front, by simp, ?_⟩
    rw [steps_append_slash]
    exact (List.append_nil _).symm
  · rw [if_neg (by simp [hbase, hslash])]
    exact ⟨base, rfl, rfl⟩

/-- A path joined to two spellings of one base: it replaces both, or both bases are empty, or it
stands behind a slash in both. -/
theorem join_cases {a b : List Char} (h : components a = components b) (path : List Char) :
    join a path = join b path ∨
      components (join a path) = components (join b path) ∧
        ∃ front front', join a path = front ++ '/' :: path ∧
          join b path = front' ++ '/' :: path ∧ steps front = steps front' := by
  by_cases hpath : isAbsolute path = true
  · left
    rw [join, join, if_pos hpath, if_pos hpath]
  rw [Bool.not_eq_true] at hpath
  -- an empty root has no slash put behind it, so it is a case of its own
  by_cases ha : a = []
  · left
    have hb : b = [] := components_eq_nil_iff.mp (h.symm.trans (components_eq_nil_iff.mpr ha))
    rw [ha, hb]
  · right
    have hb : b ≠ [] := fun hb => ha (components_eq_nil_iff.mp (h.trans (hb ▸ rfl)))
    have hsteps : steps a = steps b :=
      (components_eq_iff.mp h).congr fun _ _ => Shortens.steps_eq
    obtain ⟨front, hfront, hfronts⟩ := exists_join ha hpath
    obtain ⟨front', hfront', hfronts'⟩ := exists_join hb hpath
    refine ⟨?_, front, front', hfront, hfront', ?_⟩
    · rw [components_join ha hpath, components_join hb hpath, h]
    · rw [hfronts, hfronts', hsteps]

theorem components_join_congr {a b : List Char} (h : components a = components b)
    (path : List Char) : components (join a path) = components (join b path) := by
  rcases join_cases h path with heq | ⟨heq, -⟩
  · rw [heq]
  · exact heq

end Path

/-! ## 2. Walking along another spelling -/

namespace FileTree

variable (tree : FileTree)

variable {location : Location}

theorem walk_of_none (h : tree.node? location = none) (piece : List Char)
    (rest : List (List Char)) : tree.walk location (piece :: rest) = .error .notFound := by
  unfold walk
  rw [h]

theorem walk_of_file {content : ByteArray} (h : tree.node? location = some (.file content))
    (piece : List Char) (rest : List (List Char)) :
    tree.walk location (piece :: rest) = .error .notDirectory := by
  unfold walk
  rw [h]

/-- A piece that says nothing may be left out where another one follows it, which asks for a
directory just the same. -/
theorem walk_silent {piece : List Char} (h : componentOf? piece = none) (next : List Char)
    (rest : List (List Char)) :
    tree.walk location (piece :: next :: rest) = tree.walk location (next :: rest) := by
  cases hnode : tree.node? location with
  | none => rw [tree.walk_of_none hnode, tree.walk_of_none hnode]
  | some node =>
      cases node with
      | file content => rw [tree.walk_of_file hnode, tree.walk_of_file hnode]
      | directory =>
          rcases eq_of_componentOf?_none h with rfl | rfl
          · rw [walk, hnode]
          · rw [walk, hnode]

theorem walk_cons_congr {rest rest' : List (List Char)}
    (h : ∀ location, tree.walk location rest = tree.walk location rest') (piece : List Char) :
    tree.walk location (piece :: rest) = tree.walk location (piece :: rest') := by
  unfold walk
  simp only [h]

/-- Pieces that stand for nothing are stepped over, so a walk goes by components. -/
theorem walk_append (ps : List (List Char)) {rest : List (List Char)} (hrest : rest ≠ []) :
    tree.walk location (ps ++ rest) =
      tree.walk location ((ps.filterMap componentOf?).map Component.text ++ rest) := by
  induction ps generalizing location with
  | nil => rfl
  | cons piece ps ih =>
      cases hpiece : componentOf? piece with
      | none =>
          obtain ⟨next, more, hmore⟩ :=
            List.exists_cons_of_ne_nil (List.append_ne_nil_of_right_ne_nil ps hrest)
          rw [List.filterMap_cons_none hpiece, ← ih, List.cons_append, hmore]
          exact tree.walk_silent hpiece next more
      | some c =>
          rw [List.filterMap_cons_some hpiece, List.map_cons, text_of_componentOf? hpiece]
          exact tree.walk_cons_congr (fun _ => ih) piece

/-- However a base is spelled, a path behind it leads to the same place, unless one of the two is
too long to be looked for. -/
theorem locate_join_congr {a b : List Char} (h : components a = components b) (path : List Char)
    (ha : Text.byteLength (join a path) < maxPathBytes)
    (hb : Text.byteLength (join b path) < maxPathBytes) :
    tree.locate (join a path) = tree.locate (join b path) := by
  rcases join_cases h path with heq | ⟨hjoined, front, front', hfront, hfront', hsteps⟩
  · rw [heq]
  · have hspelled : Respelled (join a path) (join b path) := components_eq_iff.mp hjoined
    have hnul : (join a path).contains '\x00' = (join b path).contains '\x00' :=
      hspelled.congr fun _ _ => Shortens.contains_eq (by decide) (by decide)
    have hroot : isAbsolute (join a path) = isAbsolute (join b path) :=
      hspelled.congr fun _ _ => Shortens.isAbsolute_eq
    -- both fronts are walked along as their steps, and behind them stand the same pieces
    have hpieces (front : List Char) :
        pieces (front ++ '/' :: path) = pieces front ++ pieces path :=
      Text.pieces_append_cons '/' front path
    have hne : pieces path ≠ [] := Text.pieces_ne_nil '/' path
    have hwalk (location : Location) : tree.walk location (pieces (join a path)) =
        tree.walk location (pieces (join b path)) := by
      rw [hfront, hfront', hpieces, hpieces, tree.walk_append (pieces front) hne,
        tree.walk_append (pieces front') hne]
      show tree.walk location ((steps front).map Component.text ++ pieces path) =
        tree.walk location ((steps front').map Component.text ++ pieces path)
      rw [hsteps]
    have hane : join a path ≠ [] := by simp [hfront]
    have hbne : join b path ≠ [] := by simp [hfront']
    rw [locate, locate, hnul, hroot, hwalk, if_neg hane, if_neg hbne,
      if_neg (Nat.not_le.mpr ha), if_neg (Nat.not_le.mpr hb)]

end FileTree

/-! ## 3. Sources -/

namespace ConfigSource

/-- Sources are the same when their roots are respellings of each other and their names are equal.
-/
theorem same_iff {a b : ConfigSource} :
    (a == b) = true ↔ Respelled a.root.toList b.root.toList ∧ a.name = b.name := by
  show same a b = true ↔ _
  rw [same, Bool.and_eq_true, beq_iff_eq, beq_iff_eq, components_eq_iff]

theorem same_equivalence : Equivalence fun a b : ConfigSource => (a == b) = true where
  refl a := same_iff.mpr ⟨.refl _, rfl⟩
  symm h := by
    obtain ⟨hroot, hname⟩ := same_iff.mp h
    exact same_iff.mpr ⟨.symm _ _ hroot, hname.symm⟩
  trans h h' := by
    obtain ⟨hroot, hname⟩ := same_iff.mp h
    obtain ⟨hroot', hname'⟩ := same_iff.mp h'
    exact same_iff.mpr ⟨.trans _ _ _ hroot hroot', hname.trans hname'⟩

def Fits (path : String) : Prop := Text.byteLength path.toList < FileTree.maxPathBytes

instance (path : String) : Decidable (Fits path) := inferInstanceAs (Decidable (_ < _))

/-- Being the same source is an equivalence: the names are one text, and the roots differ in slashes
and lone dots that say nothing.  The paths of the same source have the same components, and the file
that is read at one of them is read at the other. -/
theorem same_sources_name_one_file :
    (Equivalence fun a b : ConfigSource => (a == b) = true) ∧
    (∀ a b : ConfigSource, (a == b) = true ↔
      Respelled a.root.toList b.root.toList ∧ a.name = b.name) ∧
    ∀ a b : ConfigSource, (a == b) = true →
      components a.path.toList = components b.path.toList ∧
      ∀ tree : FileTree, Fits a.path → Fits b.path → tree.read a.path = tree.read b.path := by
  refine ⟨same_equivalence, fun a b => same_iff, fun a b h => ?_⟩
  obtain ⟨hroot, hname⟩ := same_iff.mp h
  have hcomponents := components_eq_iff.mpr hroot
  have hpath (source : ConfigSource) :
      source.path.toList = join source.root.toList source.name.toList := String.toList_ofList
  refine ⟨?_, fun tree ha hb => ?_⟩
  · rw [hpath, hpath, hname]
    exact components_join_congr hcomponents _
  · rw [Fits, hpath, hname] at ha
    rw [Fits, hpath] at hb
    have hlocate := tree.locate_join_congr hcomponents b.name.toList ha hb
    rw [FileTree.read, FileTree.read, hpath, hpath, hname, hlocate]

def sampleTree : FileTree where
  workingDirectory := ["srv".toList]
  nodes := [(["srv".toList, "a".toList], .directory),
    (["srv".toList, "a".toList, "x".toList], .directory),
    (["srv".toList, "a".toList, "c.properties".toList], .file "k=v".toUTF8)]

def dottedSource : ConfigSource := ⟨".//a/.", "x/../c.properties"⟩

def slashedSource : ConfigSource := ⟨"./a/", "x/../c.properties"⟩

theorem same_sources_name_one_file_dotted :
    (dottedSource == slashedSource) = true ∧
      dottedSource.path = ".//a/./x/../c.properties" ∧
      slashedSource.path = "./a/x/../c.properties" ∧
      Fits dottedSource.path ∧ Fits slashedSource.path ∧
      components dottedSource.path.toList = components slashedSource.path.toList ∧
      sampleTree.read dottedSource.path = sampleTree.read slashedSource.path ∧
      (sampleTree.read slashedSource.path).toOption = some "k=v".toUTF8 := by
  have hsame : (dottedSource == slashedSource) = true := by decide +kernel
  have hdotted : Fits dottedSource.path := by decide +kernel
  have hslashed : Fits slashedSource.path := by decide +kernel
  obtain ⟨hcomponents, hread⟩ := same_sources_name_one_file.2.2 dottedSource slashedSource hsame
  exact ⟨hsame, by decide +kernel, by decide +kernel, hdotted, hslashed, hcomponents,
    hread sampleTree hdotted hslashed, by decide +kernel⟩

/-- A dot leads to where no text at all does, but shows as a component of the path. -/
example : (ConfigSource.mk "" "c" == ⟨".", "c"⟩) = false := by
  decide +kernel

end ConfigSource

end ProcessLaunch
