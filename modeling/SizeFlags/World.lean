import SizeFlags.Fault
import SizeFlags.Integer.Numeral

set_option autoImplicit false

/-!
# The world

What the program can see of its surroundings: the regular files that paths lead
to, the values of the variables that are set, and the home directories of users.  The
program only looks; what it finds under one path or one name does not depend on
where else it looked.
-/

namespace SizeFlags

/-- Files, variables and users, as far as they can be seen. -/
structure World where
  /-- the bytes of the regular file at a path -/
  look : Path → Except Hindrance Utf8.Bytes
  /-- the value of a variable -/
  valueOf? : Text → Option Text
  /-- the home directory that the system keeps of a user; the user who runs the program
  has no name here -/
  userHome? : Text → Option Text

namespace World

/-! ## Variables -/

/-- The home directory of a user.  For the user who runs the program the variable for it
counts first. -/
def home? (world : World) : Text → Option Text
  | [] => (world.valueOf? "HOME".toList).or (world.userHome? [])
  | user => world.userHome? user

/-- The columns of a terminal that says nothing of itself. -/
def defaultColumns : Nat := 80

/-- The number of columns to write in: what the variable for it says, if that is a
positive number. -/
def columns (world : World) : Nat :=
  match (world.valueOf? "COLUMNS".toList).bind Integer.ofNumeral? with
  | some (.ofNat (n + 1)) => n + 1
  | _ => defaultColumns

/-! ## Files -/

/-- The path that a text stands for, home directories replaced. -/
def locate (world : World) (path : Text) : Except Fault Path :=
  match (Path.ofText path).expandHome world.home? with
  | .ok found => .ok found
  | .error .unknown => .error .unknownHome
  | .error .nul => .error .embeddedNul

/-- The text that the bytes of a file are the form of. -/
def textOf (bytes : Utf8.Bytes) : Except Fault Text :=
  match Utf8.decode bytes with
  | .ok text => .ok text
  | .error fault => .error (.undecodable fault)

/-- The text of the file at a path. -/
def readText (world : World) (path : Path) : Except Fault Text :=
  match world.look path with
  | .ok bytes => textOf bytes
  | .error hindrance => .error (.ofHindrance path hindrance)

/-- The text of the flags file at a path.  Where there is no regular file it is missing. -/
def readFlagsFile (world : World) (path : Path) : Except Fault Text :=
  match world.look path with
  | .ok bytes => textOf bytes
  | .error hindrance =>
    .error (if hindrance.isMissing then .missingFile path else .ofHindrance path hindrance)

end World

end SizeFlags
