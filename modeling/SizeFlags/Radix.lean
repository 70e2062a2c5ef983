import SizeFlags.Fault

set_option autoImplicit false

/-!
# Digits and radices

The ASCII digits and letters are worth 0 to 35, a letter the same in either
case; a base admits those worth less than it.  Numerals are read in base ten
or sixteen.
-/

namespace SizeFlags

namespace Digit

/-- The worth of an ASCII digit or letter. -/
def worth? (c : Char) : Option Nat :=
  if 0x30 ≤ c.toNat ∧ c.toNat ≤ 0x39 then some (c.toNat - 0x30)
  else if 0x61 ≤ c.toNat ∧ c.toNat ≤ 0x7A then some (c.toNat - 0x61 + 10)
  else if 0x41 ≤ c.toNat ∧ c.toNat ≤ 0x5A then some (c.toNat - 0x41 + 10)
  else none

/-- The value of a digit of a base. -/
def value? (base : Nat) (c : Char) : Option Nat := (worth? c).filter fun worth => worth < base

end Digit

/-- The bases of numerals. -/
inductive Radix where
  | decimal
  | hexadecimal
  deriving DecidableEq, Repr, Inhabited

namespace Radix

/-- The base of a radix. -/
def base : Radix → Nat
  | decimal => 10
  | hexadecimal => 16

/-- The radix of a base. -/
def ofBase (base : Int) : Except Fault Radix :=
  if base = 10 then .ok decimal
  else if base = 16 then .ok hexadecimal
  else .error (.unsupportedRadix base)

/-- The character is a digit of the radix. -/
def isDigit (radix : Radix) (c : Char) : Bool := (Digit.value? radix.base c).isSome

/-- The number that digits write, the most significant first. -/
def ofDigits (radix : Radix) (digits : Text) : Nat :=
  digits.foldl (fun n c => n * radix.base + (Digit.value? radix.base c).getD 0) 0

example : hexadecimal.ofDigits "0fF".toList = 255 := by decide

end Radix

end SizeFlags
