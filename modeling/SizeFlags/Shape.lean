import SizeFlags.Fault

set_option autoImplicit false

/-!
# Integer shapes

A shape says which integers fit: it has a name, a width and a sign.  All
arithmetic is over the integers; a shape only bounds its results, and nothing
ever wraps.
-/

namespace SizeFlags

/-- A named set of integers that are neighbours: those of a width, with or
without a sign. -/
structure Shape where
  name : Text
  width : Width
  signed : Bool
  deriving DecidableEq, Repr, Inhabited

namespace Shape

/-- The shape of a number of bits. -/
def ofBits (name : Text) (bits : Int) (signed : Bool) : Except Fault Shape :=
  match Width.ofBits? bits with
  | some width => .ok ⟨name, width, signed⟩
  | none => .error (.unsupportedWidth bits)

/-- The least integer of a shape. -/
def min (shape : Shape) : Int := if shape.signed then -(1 <<< (shape.width.bits - 1)) else 0

/-- The greatest integer of a shape. -/
def max (shape : Shape) : Int :=
  if shape.signed then 1 <<< (shape.width.bits - 1) - 1 else 1 <<< shape.width.bits - 1

/-- The integer fits the shape. -/
def Contains (shape : Shape) (n : Int) : Prop := shape.min ≤ n ∧ n ≤ shape.max

instance (shape : Shape) (n : Int) : Decidable (shape.Contains n) :=
  inferInstanceAs (Decidable (_ ∧ _))

/-- A signed shape of 32 bits. -/
def int32 : Shape := ⟨"int32".toList, .bits32, true⟩

/-- An unsigned shape of 32 bits. -/
def uint32 : Shape := ⟨"uint32".toList, .bits32, false⟩

/-- A signed shape of 64 bits. -/
def int64 : Shape := ⟨"int64".toList, .bits64, true⟩

/-- An unsigned shape of 64 bits. -/
def uint64 : Shape := ⟨"uint64".toList, .bits64, false⟩

/-- Zero fits every shape. -/
theorem contains_zero (shape : Shape) : shape.Contains 0 := by
  obtain ⟨name, width, signed⟩ := shape
  cases width <;> cases signed <;> simp [Contains, min, max, Width.bits]

/-- Only a signed shape has negative integers. -/
theorem signed_of_contains_neg {shape : Shape} {n : Int} (h : shape.Contains n) (hn : n < 0) :
    shape.signed = true := by
  by_cases hsigned : shape.signed = true
  · exact hsigned
  · have hmin : shape.min ≤ n := h.1
    simp only [min, hsigned] at hmin
    exact absurd hmin (by simpa using hn)

end Shape

end SizeFlags
