import ImageRetention.Failure
import ImageRetention.Path
import ImageRetention.Text.Split
import ImageRetention.World

/-
The files below a working directory.

* `FileTree`: directories and files, each by the names that lead to it;
* `FileTree.find`: what is at a path, or why there is nothing;
* `FileTree.existsAt`, `FileTree.contents`: the same as yes or no, and the bytes of a file;
* `World.withTree`: a world with the files of a tree.

What lies outside the working directory is not known: it is taken to be directories in which
nothing is found.
-/

namespace ImageRetention

/-- The directories and files below a working directory, each by the names that lead to it. -/
structure FileTree where
  directories : List (List String)
  files : List (List String × List UInt8)
  deriving DecidableEq, Repr

namespace FileTree

/-- A tree with nothing in it. -/
def empty : FileTree := ⟨[], []⟩

/-! ### Building -/

/-- The parts of a path between its slashes. -/
def parts (path : String) : List String :=
  (Text.split (· == '/') path.toList).map String.ofList

/-- The names in a path, those that lead nowhere left out. -/
def names (path : String) : List String :=
  (parts path).filter fun name => name ≠ "" && name ≠ "."

/-- The names that lead to a place and to all the directories above it. -/
def above (names : List String) : List (List String) :=
  (List.range (names.length + 1)).map names.take

/-- A tree with a directory, and those above it. -/
def withDirectory (tree : FileTree) (path : String) : FileTree :=
  { tree with directories := above (names path) ++ tree.directories }

/-- A tree with a file, and the directories above it. -/
def withFile (tree : FileTree) (path : String) (bytes : List UInt8) : FileTree :=
  let place := names path
  ⟨above place.dropLast ++ tree.directories, (place, bytes) :: tree.files⟩

/-! ### Finding -/

/-- What can be at a path. -/
inductive Node
  | directory
  | file (bytes : List UInt8)
  deriving DecidableEq, Repr

/-- Where a path has led so far. -/
inductive Place
  /-- A place in the tree, with what is there. -/
  | inside (names : List String) (node : Node)
  /-- A directory outside the tree. -/
  | outside
  deriving DecidableEq, Repr

/-- What is at a place in the tree. -/
def node? (tree : FileTree) (names : List String) : Option Node :=
  match tree.files.lookup names with
  | some bytes => some (.file bytes)
  | none => if names.isEmpty || tree.directories.contains names then some .directory else none

/-- The longest name that the file system allows, in bytes. -/
def longestName : Nat := 255

/-- The longest path that the file system allows, in bytes. -/
def longestPath : Nat := 4095

/-- One step of a path. -/
def step (tree : FileTree) (place : Place) (name : String) : Except IoError Place :=
  match place with
  | .inside _ (.file _) => .error .notADirectory
  | .inside names .directory =>
    if name = "." then .ok place
    else if name = ".." then
      .ok (if names.isEmpty then .outside else .inside names.dropLast .directory)
    else if longestName < name.utf8ByteSize then .error .nameTooLong
    else match tree.node? (names ++ [name]) with
      | some node => .ok (.inside (names ++ [name]) node)
      | none => .error .noSuchFile
  | .outside =>
    if name = "." || name = ".." then .ok .outside
    else if longestName < name.utf8ByteSize then .error .nameTooLong
    else .error .noSuchFile

/-- What is where a path has led.  What a slash follows must be a directory. -/
def Place.node (slash : Bool) : Place → Except IoError Node
  | .inside _ (.file bytes) => if slash then .error .notADirectory else .ok (.file bytes)
  | _ => .ok .directory

/-- What is at a path, or why there is nothing. -/
def find (tree : FileTree) (path : String) : Except IoError Node :=
  if path.toList.contains '\x00' then .error .nulInPath
  else if path = "" then .error .noSuchFile
  else if longestPath < path.utf8ByteSize then .error .nameTooLong
  else do
    let start : Place := if Path.isAbsolute path then .outside else .inside [] .directory
    let place ← ((parts path).filter (· ≠ "")).foldlM tree.step start
    place.node (path.toList.getLast? = some '/')

/-- Whether there is anything at a path. -/
def existsAt (tree : FileTree) (path : String) : Bool :=
  match tree.find path with
  | .ok _ => true
  | .error _ => false

/-- What is in the file at a path. -/
def contents (tree : FileTree) (path : String) : Except IoError (List UInt8) :=
  match tree.find path with
  | .ok (.file bytes) => .ok bytes
  | .ok .directory => .error .isADirectory
  | .error error => .error error

end FileTree

/-- A world with the files of a tree. -/
def World.withTree {σ : Type} (world : World σ) (tree : FileTree) : World σ :=
  { world with existsAt := tree.existsAt, contents := tree.contents }

end ImageRetention
