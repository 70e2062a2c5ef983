import SizeFlags.Radix
import SizeFlags.Shape
import SizeFlags.Text.Blank

set_option autoImplicit false

/-!
# Reading an integer at the start of a text

An integer stands behind blanks and a sign; a hexadecimal one may carry a mark,
which counts only if a digit follows it, so that a bare mark is a zero followed
by a letter.  The reader takes as many characters as it can and says how many
it took, none if there is no digit.  It refuses an integer that does not fit
its shape, and any minus sign for an unsigned one.
-/

namespace SizeFlags.Integer

/-- An integer and the number of characters that it was read from. -/
structure Reading where
  value : Int
  length : Nat
  deriving DecidableEq, Repr, Inhabited

/-- The signs. -/
inductive Sign where
  | plus
  | minus
  deriving DecidableEq, Repr, Inhabited

/-- Take a sign from the start of a text. -/
def takeSign : Text → Option Sign × Text
  | '+' :: rest => (some .plus, rest)
  | '-' :: rest => (some .minus, rest)
  | t => (none, t)

/-- A magnitude under a sign. -/
def withSign (sign : Option Sign) (magnitude : Nat) : Int :=
  if sign = some .minus then -(magnitude : Int) else magnitude

/-- Drop a hexadecimal mark that a digit follows. -/
def dropMark (radix : Radix) (t : Text) : Text :=
  match radix, t with
  | .hexadecimal, '0' :: x :: c :: rest =>
    if (x = 'x' ∨ x = 'X') ∧ radix.isDigit c then c :: rest else t
  | _, _ => t

/-- Read the integer at the start of a text. -/
def read? (radix : Radix) (shape : Shape) (t : Text) : Option Reading :=
  let (sign, unsigned) := takeSign (t.dropWhile Text.isAsciiBlank)
  if sign = some .minus ∧ shape.signed = false then none
  else
    let body := dropMark radix unsigned
    let digits := body.takeWhile radix.isDigit
    if digits = [] then some ⟨0, 0⟩
    else
      let value := withSign sign (radix.ofDigits digits)
      if shape.Contains value then some ⟨value, t.length - (body.length - digits.length)⟩
      else none

example : read? .hexadecimal .int32 " -0x1fg".toList = some ⟨-31, 6⟩ := by decide

/-- A bare mark is a zero and a letter. -/
example : read? .hexadecimal .int32 "0xg".toList = some ⟨0, 1⟩ := by decide

end SizeFlags.Integer
