import SizeFlags.Obstacle
import SizeFlags.Path
import SizeFlags.Table
import SizeFlags.Utf8

set_option autoImplicit false

/-!
# File trees

The files below a working directory.  A location is the list of names that
lead down to it.  A path is followed name by name, each from a directory, and a
parent step leads up.  Nothing is known of what lies outside of the working
directory, and no name is found there.
-/

namespace SizeFlags

/-- Files by location, and the directories. -/
structure FileTree where
  files : Table (List Text) Utf8.Bytes
  directories : List (List Text)
  deriving Inhabited

namespace FileTree

/-- A working directory with nothing in it. -/
def empty : FileTree := ⟨[], []⟩

/-- The location is a directory. -/
def isDirectory (tree : FileTree) (location : List Text) : Bool :=
  location = [] || tree.directories.contains location

/-! ## Following a path -/

/-- The greatest number of bytes in a name. -/
def maxNameBytes : Nat := 255

/-- The greatest number of bytes in a path. -/
def maxPathBytes : Nat := 4095

/-- The name of the parent step. -/
def parentName : Text := ['.', '.']

/-- Where a path leads: to a location, whether or not there is anything, or to a
directory outside of the working directory. -/
inductive Place where
  | location (names : List Text)
  | outside
  deriving DecidableEq, Repr, Inhabited

/-- A name has to be short enough before it is looked for. -/
def lookFor (name : Text) (place : Except Obstacle Place) : Except Obstacle Place :=
  if (Utf8.encode name).length ≤ maxNameBytes then place else .error .nameTooLong

/-- Follow one name from a place. -/
def enter (tree : FileTree) (place : Place) (name : Text) : Except Obstacle Place :=
  match place with
  | .outside => if name = parentName then .ok .outside else lookFor name (.error .missing)
  | .location names =>
    if tree.isDirectory names then
      if name = parentName then .ok (if names = [] then .outside else .location names.dropLast)
      else lookFor name (.ok (.location (names ++ [name])))
    else if (tree.files.get? names).isSome then .error .notDirectory
    else .error .missing

/-- Follow a path from the working directory, or from the root, which is outside. -/
def follow (tree : FileTree) (path : Path) : Except Obstacle Place :=
  if '\x00' ∈ path.toText then .error .nul
  else if maxPathBytes < (Utf8.encode path.toText).length then .error .nameTooLong
  else path.names.foldlM tree.enter (if path.root = .relative then .location [] else .outside)

/-- The location and the bytes of the regular file at a path. -/
def find (tree : FileTree) (path : Path) : Except Obstacle (List Text × Utf8.Bytes) := do
  match ← tree.follow path with
  | .outside => .error .directory
  | .location names =>
    match tree.files.get? names with
    | some bytes => .ok (names, bytes)
    | none => .error (if tree.isDirectory names then .directory else .missing)

/-- The bytes of the regular file at a path. -/
def look (tree : FileTree) (path : Path) : Except Obstacle Utf8.Bytes :=
  (tree.find path).map (·.2)

/-! ## Changes -/

/-- The location that names lead to when the directories on the way are made, unless
they lead outside. -/
def settle? (names : List Text) : Option (List Text) :=
  names.foldlM (fun location name =>
    if name = parentName then if location = [] then none else some location.dropLast
    else some (location ++ [name])) []

/-- The names above names, from the top. -/
def above : List Text → List (List Text)
  | [] => []
  | name :: rest => [] :: (above rest).map (name :: ·)

/-- Make the directories that lead to a path. -/
def makeAbove (tree : FileTree) (path : Path) : FileTree :=
  { tree with directories := (above path.names).filterMap settle? ++ tree.directories }

/-- Make a directory, and those that lead to it. -/
def makeDirectory (tree : FileTree) (path : Path) : FileTree :=
  let made := tree.makeAbove path
  { made with directories := (settle? path.names).toList ++ made.directories }

/-- A file stands where a directory would have to be on the way to a path. -/
def isBarred (tree : FileTree) (path : Path) : Bool :=
  ((above path.names).filterMap settle?).any fun names => (tree.files.get? names).isSome

/-- Write a file, in place of any other, in directories that are made.  What is
written outside of the working directory is not seen. -/
def write (tree : FileTree) (path : Path) (bytes : Utf8.Bytes) : Except Obstacle FileTree :=
  if '\x00' ∈ path.toText then .error .nul
  else if tree.isBarred path then .error .notDirectory
  else
    match path.root, settle? path.names with
    | .relative, some location =>
      if tree.isDirectory location then .error .directory
      else
        let made := tree.makeAbove path
        .ok { made with files := made.files.put location bytes }
    | _, _ => .ok tree

/-- Remove the regular file at a path; its directory stays. -/
def remove (tree : FileTree) (path : Path) : Except Obstacle FileTree := do
  let (location, _) ← tree.find path
  return { tree with files := tree.files.remove location }

example : ((empty.write (Path.ofText "sub/a".toList) [0x31]).bind fun tree =>
    tree.look (Path.ofText "sub/../sub/a".toList)) = .ok [0x31] := by rfl

example : ((empty.write (Path.ofText "a".toList) []).bind fun tree =>
    tree.look (Path.ofText "a/b".toList)) = .error .notDirectory := by rfl

end FileTree

end SizeFlags
