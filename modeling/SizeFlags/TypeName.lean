import SizeFlags.Shape
import SizeFlags.Text.Blank

set_option autoImplicit false

/-!
# Type names

A flag's type is one of ten names.  Four name a shape outright; the others are
aliases, three of which stand for the machine word and follow the word size.
-/

namespace SizeFlags

/-- The names of integer types. -/
inductive TypeName where
  | int32
  | uint32
  | int64
  | uint64
  | int
  | uint
  /-- a signed word -/
  | intx
  /-- an unsigned word -/
  | uintx
  | uint64_t
  /-- an unsigned word, for sizes -/
  | size_t
  deriving DecidableEq, Repr, Inhabited

namespace TypeName

/-- The names that name a shape outright. -/
def canonical : List TypeName := [int32, uint32, int64, uint64]

/-- The names that stand for a shape of another name. -/
def aliases : List TypeName := [int, uint, intx, uintx, uint64_t, size_t]

/-- How a name is written. -/
def toText : TypeName → Text
  | int32 => "int32".toList
  | uint32 => "uint32".toList
  | int64 => "int64".toList
  | uint64 => "uint64".toList
  | int => "int".toList
  | uint => "uint".toList
  | intx => "intx".toList
  | uintx => "uintx".toList
  | uint64_t => "uint64_t".toList
  | size_t => "size_t".toList

/-- The name written so. -/
def ofText? (t : Text) : Option TypeName :=
  (canonical ++ aliases).find? fun name => name.toText = t

/-- Every name is read back from its text. -/
theorem ofText?_toText (name : TypeName) : ofText? name.toText = some name := by
  cases name <;> decide

/-- The shape of a name for words of a width. -/
def shape (word : Width) : TypeName → Shape
  | int32 | int => .int32
  | uint32 | uint => .uint32
  | int64 => .int64
  | uint64 | uint64_t => .uint64
  | intx => match word with
    | .bits32 => .int32
    | .bits64 => .int64
  | uintx | size_t => match word with
    | .bits32 => .uint32
    | .bits64 => .uint64

/-- Find the shape that a text names.  An unsupported word size is found first;
blanks around the name do not count, but a fault shows them. -/
def resolve (name : Text) (word : WordSize) : Except Fault Shape :=
  match word.width? with
  | none => .error (.unsupportedWordSize word)
  | some width =>
    match ofText? (Text.strip name) with
    | none => .error (.unknownType name)
    | some known => .ok (known.shape width)

end TypeName

end SizeFlags
