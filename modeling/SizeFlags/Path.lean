import SizeFlags.Text.Basic

set_option autoImplicit false

/-!
# Paths

A path is a root and the names below it.  Reading drops what has no meaning:
repeated and trailing slashes, and names that are a single dot.  Two leading
slashes are a root of their own; three or more are one.  A parent step stays,
since what it leads to depends on the files.
-/

namespace SizeFlags

/-- What a path starts from. -/
inductive Root where
  /-- the working directory -/
  | relative
  /-- the root directory, one slash -/
  | single
  /-- the root directory written with exactly two slashes -/
  | double
  deriving DecidableEq, Repr, Inhabited

namespace Root

/-- The root of a text by the number of its leading slashes. -/
def ofSlashes : Nat → Root
  | 0 => relative
  | 2 => double
  | _ => single

/-- The slashes that a root is written with. -/
def toText : Root → Text
  | relative => []
  | single => ['/']
  | double => ['/', '/']

end Root

/-- A path to a file or a directory. -/
structure Path where
  root : Root
  names : List Text
  deriving DecidableEq, Repr, Inhabited

namespace Path

/-- Read a path. -/
def ofText (t : Text) : Path where
  root := Root.ofSlashes (t.takeWhile fun c => c = '/').length
  names := (Text.splitAt '/' t).filter fun name => ¬ (name = [] ∨ name = ['.'])

/-- Write a path; the working directory is a single dot. -/
def toText (path : Path) : Text :=
  if path.root = .relative ∧ path.names = [] then ['.']
  else path.root.toText ++ Text.join ['/'] path.names

/-- The directory that home names: the text without its trailing slashes, or the
root directory if nothing is left. -/
def ofHome (home : Text) : Path :=
  let trimmed := Text.trimEnd (fun c => c = '/') home
  ofText (if trimmed = [] then ['/'] else trimmed)

/-- The user whose home directory the path starts from, if it starts with `~`; the
user who runs the program has no name here. -/
def owner? (path : Path) : Option Text :=
  match path.root, path.names with
  | .relative, ('~' :: user) :: _ => some user
  | _, _ => none

/-- Why a home directory cannot be put in. -/
inductive HomeFault where
  /-- the directory is not known -/
  | unknown
  /-- the name of the user holds the character NUL -/
  | nul
  deriving DecidableEq, Repr, Inhabited

/-- The home directory of a user.  One that again starts with `~` counts as not known. -/
def homeOf (home? : Text → Option Text) (user : Text) : Except HomeFault Path :=
  if '\x00' ∈ user then .error .nul
  else
    match home? user with
    | some directory =>
      if directory.head? = some '~' then .error .unknown else .ok (ofHome directory)
    | none => .error .unknown

/-- Replace a leading `~`, and the name of a user behind it, by the home directory. -/
def expandHome (home? : Text → Option Text) (path : Path) : Except HomeFault Path :=
  match path.owner? with
  | none => .ok path
  | some user => do
    let start ← homeOf home? user
    return { start with names := start.names ++ path.names.drop 1 }

/-- Only a path that starts with `~` needs a home. -/
theorem expandHome_of_owner?_eq_none {path : Path} (h : path.owner? = none)
    (home? : Text → Option Text) : expandHome home? path = .ok path := by
  simp [expandHome, h]

example : (ofText "sub//./a.flags/".toList).toText = "sub/a.flags".toList := by decide

example : ((ofText "~u/h.flags".toList).expandHome fun user => "home/".toList ++ user).toOption
    = some (ofText "home/u/h.flags".toList) := by decide

end Path

end SizeFlags
