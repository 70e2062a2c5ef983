import SizeFlags.Text.Basic

set_option autoImplicit false

/-!
# Decimal numerals

Numbers are written in base ten with as few digits as they have, a negative
one after a minus sign.
-/

namespace SizeFlags.Text

/-- The decimal digits of a natural number. -/
def ofNat (n : Nat) : Text := Nat.toDigits 10 n

/-- The decimal numeral of an integer. -/
def ofInt (n : Int) : Text :=
  if n < 0 then '-' :: ofNat n.natAbs else ofNat n.natAbs

/-- A numeral is made of ASCII digits. -/
theorem isDigit_of_mem_ofNat {n : Nat} {c : Char} (h : c ∈ ofNat n) : c.isDigit = true :=
  Nat.isDigit_of_mem_toDigits (by decide) (by decide) h

example : ofInt (-1024) = "-1024".toList := by decide

end SizeFlags.Text
