import ProcessLaunch.File

/-!
# Trees that differ in one file

Where two trees of files have the same entries and one file of two contents, every path leads to the
same place in both, and only that file reads differently.
-/

namespace ProcessLaunch.FileTree

/-- Two trees differ in nothing but the content of the file at a location. -/
structure DifferAt (location : Location) (a b : ByteArray) (s t : FileTree) : Prop where
  workingDirectory : s.workingDirectory = t.workingDirectory
  node : ∀ place, place ≠ location → s.node? place = t.node? place
  left : s.node? location = some (.file a)
  right : t.node? location = some (.file b)

theorem read_disk (tree : FileTree) : tree.disk.read = tree.read := rfl

variable {location : Location} {a b : ByteArray} {s t : FileTree}

theorem DifferAt.isNone_eq (h : DifferAt location a b s t) (place : Location) :
    (s.node? place).isNone = (t.node? place).isNone := by
  by_cases hplace : place = location
  · rw [hplace, h.left, h.right]
    rfl
  · rw [h.node place hplace]

/-- A walk asks only whether something stands at a place, and of what kind, so it does not see what
is in the file. -/
theorem DifferAt.walk_eq (h : DifferAt location a b s t) (place : Location)
    (pieces : List (List Char)) : s.walk place pieces = t.walk place pieces := by
  induction pieces generalizing place with
  | nil => rfl
  | cons piece rest ih =>
      unfold walk
      by_cases hplace : place = location
      · -- nothing leads on from the file in either tree
        rw [hplace, h.left, h.right]
      · simp only [h.node place hplace, ih, h.isNone_eq]

theorem DifferAt.locate_eq (h : DifferAt location a b s t) (path : List Char) :
    s.locate path = t.locate path := by
  rw [locate, locate, h.workingDirectory, h.walk_eq]

/-- Every other file reads the same in both trees. -/
theorem DifferAt.read_eq (h : DifferAt location a b s t) {path : String}
    (hpath : s.locate path.toList ≠ .ok location) : s.read path = t.read path := by
  rw [read, read, ← h.locate_eq]
  cases hlocate : s.locate path.toList with
  | error e => rfl
  | ok place =>
      have hplace : place ≠ location := by
        rintro rfl
        exact hpath hlocate
      simp only [h.node place hplace]

theorem DifferAt.read_left (h : DifferAt location a b s t) {path : String}
    (hpath : s.locate path.toList = .ok location) : s.read path = .ok a := by
  simp only [read, hpath, h.left]

theorem DifferAt.read_right (h : DifferAt location a b s t) {path : String}
    (hpath : s.locate path.toList = .ok location) : t.read path = .ok b := by
  simp only [read, ← h.locate_eq, hpath, h.right]

end ProcessLaunch.FileTree
