import SizeFlags.Text.Basic

set_option autoImplicit false

/-!
# Ranges of code points

A character property is a table of ranges.  A table says in full which
characters have the property; membership reads the table from its start.
-/

namespace SizeFlags.Text

/-- The code points from `first` to `last`, both included. -/
structure CodeRange where
  first : Nat
  last : Nat
  deriving DecidableEq, Repr, Inhabited

namespace CodeRange

/-- The code point lies in the range. -/
def holds (range : CodeRange) (code : Nat) : Bool :=
  decide (range.first ≤ code) && decide (code ≤ range.last)

/-- Some range of a table holds the character. -/
def anyHolds (table : List CodeRange) (c : Char) : Bool :=
  table.any fun range => range.holds c.toNat

end CodeRange

end SizeFlags.Text
