import ProcessLaunch.Path
import ProcessLaunch.Text.Utf8

/-!
# Files

What can be read at a path, and a tree of files that answers such reads.  A path is walked piece by
piece: a piece leads from a directory to one of its entries, and nothing leads on from a file.
-/

namespace ProcessLaunch

inductive FileError where
  | notFound
  | isDirectory
  | notDirectory
  | nameTooLong
  | nulInName
  | notUtf8
  | other (text : String)
deriving DecidableEq, Repr

namespace FileError

def message : FileError → String
  | notFound => "No such file or directory (os error 2)"
  | isDirectory => "Is a directory (os error 21)"
  | notDirectory => "Not a directory (os error 20)"
  | nameTooLong => "File name too long (os error 36)"
  | nulInName => "file name contained an unexpected NUL byte"
  | notUtf8 => "stream did not contain valid UTF-8"
  | other text => text

end FileError

structure Disk where
  read : String → Except FileError ByteArray

namespace Disk

def readText (disk : Disk) (path : String) : Except FileError String :=
  match disk.read path with
  | .error e => .error e
  | .ok bytes =>
      match String.fromUTF8? bytes with
      | none => .error .notUtf8
      | some text => .ok text

end Disk

def latin1 (bytes : ByteArray) : String :=
  String.ofList (bytes.data.toList.map fun byte => Char.ofNat byte.toNat)

/-! ## File trees -/

inductive FileNode where
  | directory
  | file (content : ByteArray)

abbrev Location := List (List Char)

/-- A tree of files and directories.  `workingDirectory` is where relative paths begin. -/
structure FileTree where
  workingDirectory : Location
  nodes : List (Location × FileNode)

namespace FileTree

def maxNameBytes : Nat := 255

/-- The first number of bytes that a whole path cannot have. -/
def maxPathBytes : Nat := 4096

def empty (workingDirectory : Location) : FileTree := ⟨workingDirectory, []⟩

/-- What stands at a location.  The top, the working directory and what leads to it are always
there. -/
def node? (tree : FileTree) (location : Location) : Option FileNode :=
  if location.isPrefixOf tree.workingDirectory then some .directory
  else tree.nodes.lookup location

def walk (tree : FileTree) (location : Location) : List (List Char) → Except FileError Location
  | [] => .ok location
  | piece :: rest =>
      match tree.node? location with
      | none => .error .notFound
      | some (.file _) => .error .notDirectory
      | some .directory =>
          match piece with
          | [] => walk tree location rest
          | ['.'] => walk tree location rest
          | ['.', '.'] => walk tree location.dropLast rest
          | name =>
              if Text.byteLength name > maxNameBytes then .error .nameTooLong
              else if (tree.node? (location ++ [name])).isNone then .error .notFound
              else walk tree (location ++ [name]) rest

def locate (tree : FileTree) (path : List Char) : Except FileError Location :=
  if path.contains '\x00' then .error .nulInName
  else if path = [] then .error .notFound
  else if Text.byteLength path ≥ maxPathBytes then .error .nameTooLong
  else walk tree (if Path.isAbsolute path then [] else tree.workingDirectory) (Path.pieces path)

def read (tree : FileTree) (path : String) : Except FileError ByteArray :=
  match tree.locate path.toList with
  | .error e => .error e
  | .ok location =>
      match tree.node? location with
      | some (.file content) => .ok content
      | some .directory => .error .isDirectory
      | none => .error .notFound

def disk (tree : FileTree) : Disk := ⟨tree.read⟩

/-- The location that a path names by its text alone, whether anything stands there or not. -/
def target (tree : FileTree) (path : String) : Location :=
  (Path.pieces path.toList).foldl
    (fun location piece =>
      match piece with
      | [] => location
      | ['.'] => location
      | ['.', '.'] => location.dropLast
      | name => location ++ [name])
    (if Path.isAbsolute path.toList then [] else tree.workingDirectory)

def put (tree : FileTree) (location : Location) (node : FileNode) : FileTree :=
  { tree with
    nodes := (location, node) :: tree.nodes.filter fun entry => entry.1 != location }

def makeDirectories (tree : FileTree) (location : Location) : List (List Char) → FileTree
  | [] => tree
  | name :: rest =>
      let next := location ++ [name]
      match tree.node? next with
      | some .directory => makeDirectories tree next rest
      | _ => makeDirectories (tree.put next .directory) next rest

def makeDirectory (tree : FileTree) (path : String) : FileTree :=
  tree.makeDirectories [] (tree.target path)

def write (tree : FileTree) (path : String) (content : ByteArray) : FileTree :=
  let location := tree.target path
  (tree.makeDirectories [] location.dropLast).put location (.file content)

def remove (tree : FileTree) (path : String) : FileTree :=
  let location := tree.target path
  { tree with nodes := tree.nodes.filter fun entry => !location.isPrefixOf entry.1 }

end FileTree

end ProcessLaunch
