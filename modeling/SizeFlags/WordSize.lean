import SizeFlags.Text.Decimal
import SizeFlags.Width

set_option autoImplicit false

/-!
# Word sizes

A word size is kept as it was asked for.  It is supported if it is the number
of bits of a width.
-/

namespace SizeFlags

/-- A word size as it was asked for, supported or not. -/
inductive WordSize where
  | bits (count : Int)
  /-- none was given where one is needed -/
  | empty
  deriving DecidableEq, Repr, Inhabited

namespace WordSize

/-- How a word size is shown. -/
def toText : WordSize → Text
  | bits count => Text.ofInt count
  | empty => "[]".toList

/-- The width of a supported word size. -/
def width? : WordSize → Option Width
  | bits count => Width.ofBits? count
  | empty => none

end WordSize

end SizeFlags
