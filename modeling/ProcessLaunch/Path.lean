import ProcessLaunch.Text.Pieces

/-!
# Path texts

A path is a text of components between slashes.  Its components decide which file it names: empty
components and dots between others say nothing, and a dot at the very front is kept.  Joining works
on the text and normalises nothing.
-/

namespace ProcessLaunch.Path

inductive Component where
  | root
  | here
  | up
  | name (text : List Char)
deriving DecidableEq, Repr

def pieces (path : List Char) : List (List Char) := Text.pieces '/' path

def isAbsolute (path : List Char) : Bool := path.head? == some '/'

/-- The component that a piece stands for behind the first one. -/
def componentOf? : List Char → Option Component
  | [] => none
  | ['.'] => none
  | ['.', '.'] => some .up
  | piece => some (.name piece)

def components (path : List Char) : List Component :=
  if isAbsolute path then .root :: (pieces path).filterMap componentOf?
  else
    match pieces path with
    | ['.'] :: more => .here :: more.filterMap componentOf?
    | all => all.filterMap componentOf?

/-- A path taken relative to a base: an absolute path replaces the base, another is put behind it,
with a slash between them unless the base is empty or ends in one. -/
def join (base path : List Char) : List Char :=
  if isAbsolute path then path
  else if base = [] ∨ base.getLast? = some '/' then base ++ path
  else base ++ '/' :: path

def fileName? (path : List Char) : Option (List Char) :=
  match (components path).getLast? with
  | some (.name text) => some text
  | _ => none

/-- A name up to its last dot.  A name without a dot, or with none but the one at its front, is
kept whole. -/
def stem (name : List Char) : List Char :=
  match (name.reverse.dropWhile (· != '.')).reverse.dropLast with
  | [] => name
  | front => front

def relative (path : List Char) : List Char := path.dropWhile (· == '/')

/-- What a resource text names under a root: its leading slashes do not count. -/
def under (root resource : String) : String :=
  String.ofList (join root.toList (relative resource.toList))

theorem not_isAbsolute_relative (path : List Char) : isAbsolute (relative path) = false := by
  induction path with
  | nil => rfl
  | cons c rest ih =>
      rw [relative, List.dropWhile_cons]
      split
      · exact ih
      next h =>
        simp only [isAbsolute, List.head?_cons]
        simpa using h

end ProcessLaunch.Path
