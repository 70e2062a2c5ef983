import SizeFlags.Obstacle
import SizeFlags.Operand
import SizeFlags.Path
import SizeFlags.Utf8
import SizeFlags.WordSize

set_option autoImplicit false

/-!
# Faults

Everything that can keep the program from an answer, by cause, with its
wording.  Most faults are the user's and end the program with their message;
the others are not meant for the user and leave it as they are.
-/

namespace SizeFlags

/-- Why there is no answer. -/
inductive Fault where
  /-- an integer shape of a width other than 32 and 64 bits -/
  | unsupportedWidth (bits : Int)
  /-- a radix other than 10 and 16 -/
  | unsupportedRadix (base : Int)
  /-- a word size other than 32 and 64 bits -/
  | unsupportedWordSize (word : WordSize)
  /-- a type name that names no shape -/
  | unknownType (name : Text)
  /-- no type name where one is needed -/
  | emptyTypeName
  /-- a text that is no size of the shape -/
  | invalidSize (shape : Text) (value : Operand)
  /-- no path where one is needed -/
  | emptyPath
  /-- a path that starts with a home directory which is not known -/
  | unknownHome
  /-- the name of a user, or a variable, that holds the character NUL -/
  | embeddedNul
  /-- no flags file at the path -/
  | missingFile (path : Path)
  /-- a path that cannot be followed to a regular file -/
  | obstructed (obstacle : Obstacle) (path : Path)
  /-- a path, or the file at it, that the system refuses -/
  | refused (error : SystemError) (path : Path)
  /-- a file that is not UTF-8 -/
  | undecodable (fault : Utf8.Fault)
  /-- a flag without a type of its own that the registry does not know -/
  | untypedFlag (name : Text)
  /-- a flags file without a flag -/
  | noFlags (path : Path)
  /-- an action other than parse and check -/
  | unsupportedAction (name : Text)
  /-- a variable without a name -/
  | unnamedVariable
  /-- a variable whose name holds an equals sign -/
  | malformedVariable
  deriving DecidableEq, Repr, Inhabited

namespace Fault

/-- The fault of a path whose bytes cannot be had. -/
def ofHindrance (path : Path) : Hindrance → Fault
  | .obstacle obstacle => .obstructed obstacle path
  | .system error => .refused error path

/-- The wording of a fault. -/
def message : Fault → Text
  | unsupportedWidth bits => "Unsupported integer width: ".toList ++ Text.ofInt bits
  | unsupportedRadix base => "Unsupported radix: ".toList ++ Text.ofInt base
  | unsupportedWordSize word => "Unsupported word size: ".toList ++ word.toText
  | unknownType name => "Unknown integer type: ".toList ++ name
  | emptyTypeName => "'list' object has no attribute 'strip'".toList
  | invalidSize shape value =>
    "Invalid memory size for ".toList ++ shape ++ ": ".toList ++ value.toText
  | emptyPath => "expected str, bytes or os.PathLike object, not list".toList
  | unknownHome => "Could not determine home directory.".toList
  | embeddedNul => nulMessage
  | missingFile path => "Missing flags file: ".toList ++ path.toText
  | obstructed obstacle path => obstacle.message path.toText
  | refused error path => error.message path.toText
  | undecodable fault => fault.message
  | untypedFlag name => "Unknown flag without type: ".toList ++ name
  | noFlags path => "No flags found in: ".toList ++ path.toText
  | unsupportedAction name => "Unsupported action: ".toList ++ name
  | unnamedVariable => systemMessage 22 "Invalid argument".toList
  | malformedVariable => "illegal environment variable name".toList

/-- The fault is told to the user, who can mend it. -/
def isReported : Fault → Bool
  | unsupportedWordSize _ | unknownType _ | invalidSize .. | missingFile _ | untypedFlag _
  | noFlags _ | unsupportedAction _ => true
  | _ => false

end Fault

end SizeFlags
