import SizeFlags.Text.Decimal
import SizeFlags.Text.Quoted

set_option autoImplicit false

/-!
# Obstacles

A path need not lead to a regular file, and the system need not show a file that is
there.  An obstacle says why there is none; an error of the system is for any other
reason.  Both are worded as the system words them: by a number, a sentence and the path.
-/

namespace SizeFlags

/-- Why a path leads to no regular file. -/
inductive Obstacle where
  /-- nothing has this name -/
  | missing
  /-- a name is looked for below something that is no directory -/
  | notDirectory
  /-- the path leads to a directory -/
  | directory
  /-- a name, or the path as a whole, has too many bytes -/
  | nameTooLong
  /-- the path holds the character NUL, with which nothing is looked for -/
  | nul
  deriving DecidableEq, Repr, Inhabited

/-- The wording of an error of the system, which has a number. -/
def systemMessage (number : Nat) (sentence : Text) : Text :=
  "[Errno ".toList ++ Text.ofNat number ++ "] ".toList ++ sentence

/-- The wording of an error of the system that is about a path. -/
def systemMessageOn (path : Text) (number : Nat) (sentence : Text) : Text :=
  systemMessage number sentence ++ ": ".toList ++ Text.quoted path

/-- The wording for a text that the system cannot take because it holds the
character NUL. -/
def nulMessage : Text := "embedded null byte".toList

namespace Obstacle

/-- The wording of an obstacle on a path. -/
def message (path : Text) : Obstacle → Text
  | missing => systemMessageOn path 2 "No such file or directory".toList
  | notDirectory => systemMessageOn path 20 "Not a directory".toList
  | directory => systemMessageOn path 21 "Is a directory".toList
  | nameTooLong => systemMessageOn path 36 "File name too long".toList
  | nul => nulMessage

end Obstacle

/-- What the system does on the way to the bytes of a file. -/
inductive Stage where
  /-- it follows the names of a path -/
  | following
  /-- it opens the regular file -/
  | opening
  /-- it reads the file that is open -/
  | reading
  deriving DecidableEq, Repr, Inhabited

/-- An error of the system for a reason of its own, such as a permission. -/
structure SystemError where
  stage : Stage
  number : Nat
  sentence : Text
  deriving DecidableEq, Repr, Inhabited

namespace SystemError

/-- The errors by which the system says that nothing can be at a path: no such file, a
descriptor that is none, no directory on the way, and links that lead in a circle. -/
def missingNumbers : List Nat := [2, 9, 20, 40]

/-- The system only says that nothing is there. -/
def isMissing (error : SystemError) : Bool :=
  error.stage = .following && missingNumbers.contains error.number

/-- The wording of an error.  It shows the path, unless the file is open already. -/
def message (path : Text) (error : SystemError) : Text :=
  match error.stage with
  | .following | .opening => systemMessageOn path error.number error.sentence
  | .reading => systemMessage error.number error.sentence

end SystemError

/-- Why the bytes of a regular file cannot be had. -/
inductive Hindrance where
  /-- there is no regular file -/
  | obstacle (obstacle : Obstacle)
  /-- the system does not let the path be followed or the file be read -/
  | system (error : SystemError)
  deriving DecidableEq, Repr, Inhabited

namespace Hindrance

/-- The path counts as one at which there is no file.  A path that is too long is not
looked for at all. -/
def isMissing : Hindrance → Bool
  | .obstacle .nameTooLong => false
  | .obstacle _ => true
  | .system error => error.isMissing

end Hindrance

end SizeFlags
