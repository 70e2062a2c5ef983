set_option autoImplicit false

/-!
# Widths

Integers are kept in 32 or in 64 bits, and machine words have one of these
widths.  Any other number of bits can be asked for, but names no width.
-/

namespace SizeFlags

/-- The supported widths. -/
inductive Width where
  | bits32
  | bits64
  deriving DecidableEq, Repr, Inhabited

namespace Width

/-- The number of bits. -/
def bits : Width → Nat
  | bits32 => 32
  | bits64 => 64

/-- The width of a number of bits. -/
def ofBits? (count : Int) : Option Width :=
  if count = 32 then some bits32 else if count = 64 then some bits64 else none

/-- A width is found by its number of bits, and by no other number. -/
theorem ofBits?_eq_some_iff {count : Int} {width : Width} :
    ofBits? count = some width ↔ count = width.bits := by
  unfold ofBits?
  cases width <;> simp only [bits] <;> split <;> (try split) <;> simp <;> omega

end Width

end SizeFlags
