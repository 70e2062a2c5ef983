import SizeFlags.Text.Basic

set_option autoImplicit false

/-!
# Operands

What the command line hands on.  A value may be given as nothing at all, when
the separator stands in its place; it is then empty, which is not the same as
the text without characters.
-/

namespace SizeFlags

/-- A value from the command line. -/
inductive Operand where
  | text (value : Text)
  | empty
  deriving DecidableEq, Repr, Inhabited

/-- How an operand is shown; an empty one as a pair of brackets. -/
def Operand.toText : Operand → Text
  | .text value => value
  | .empty => "[]".toList

end SizeFlags
