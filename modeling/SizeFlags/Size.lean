import SizeFlags.Integer.Reading

set_option autoImplicit false

/-!
# Memory sizes

A size is an integer, decimal or hexadecimal, and an optional unit letter that
multiplies it by a power of 1024.  It starts with its digits or its minus sign.
The product is taken in steps of 1024, each only if it fits the shape.
-/

namespace SizeFlags.Size

/-! ## Scaling -/

/-- Multiply by 1024 if the product fits the shape. -/
def step (shape : Shape) (n : Int) : Option Int :=
  if shape.min.fdiv 1024 ≤ n ∧ n ≤ shape.max.fdiv 1024 then some (n * 1024) else none

/-- Multiply by 1024 a number of times, and stop where a product does not fit. -/
def scale (shape : Shape) : (steps : Nat) → Int → Option Int
  | 0, n => some n
  | steps + 1, n => (step shape n).bind (scale shape steps)

/-- The exponent of 1024 that a unit letter stands for. -/
def unitExponent? (c : Char) : Option Nat :=
  if c = 'K' ∨ c = 'k' then some 1
  else if c = 'M' ∨ c = 'm' then some 2
  else if c = 'G' ∨ c = 'g' then some 3
  else if c = 'T' ∨ c = 't' then some 4
  else none

/-! ## Reading -/

/-- The character may start a size: an ASCII digit or a minus sign. -/
def isFirst (c : Char) : Bool := c = '-' || (decide (0x30 ≤ c.toNat) && decide (c.toNat ≤ 0x39))

/-- The size is read as hexadecimal: it is marked by `0x` or `0X`, or after a minus
sign by `0x`.  A negative size with a zero in front is also taken so if its
fourth character is `X`. -/
def isHexadecimal (t : Text) : Bool :=
  (t[0]? = some '0' && (t[1]? = some 'x' || t[1]? = some 'X')) ||
    (t[0]? = some '-' && t[1]? = some '0' && (t[2]? = some 'x' || t[3]? = some 'X'))

/-- The radix that a size is read in. -/
def radixOf (t : Text) : Radix := if isHexadecimal t then .hexadecimal else .decimal

/-- Apply what follows the digits: nothing, or one unit letter. -/
def applyUnit? (shape : Shape) (n : Int) : Text → Option Int
  | [] => some n
  | [c] => (unitExponent? c).bind fun steps => scale shape steps n
  | _ => none

/-- Read a size of a shape in a given radix. -/
def readIn? (radix : Radix) (shape : Shape) (t : Text) : Option Int :=
  if t.head?.any isFirst then
    (Integer.read? radix shape t).bind fun reading =>
      if reading.length = 0 then none
      else applyUnit? shape reading.value (t.drop reading.length)
  else none

/-- Read a size of a shape. -/
def read? (shape : Shape) (t : Text) : Option Int := readIn? (radixOf t) shape t

/-- Read a size that has to be one. -/
def read (shape : Shape) (value : Operand) : Except Fault Int :=
  let size? := match value with
    | .text t => read? shape t
    | .empty => none
  match size? with
  | some n => .ok n
  | none => .error (.invalidSize shape.name value)

example : read? .uint64 "0x10K".toList = some 16384 := by decide

example : read? .int32 "2G".toList = none := by decide

end SizeFlags.Size
