import SizeFlags.Integer.Reading
import SizeFlags.Text.DecimalDigit

set_option autoImplicit false

/-!
# Decimal numerals of all scripts

An option's number is more freely written than a size: with the decimal digits
of any script, with single underscores between digits, and with blanks around
it.  The four ASCII separators are no blanks here.  A numeral of more digits
than the limit is not read.
-/

namespace SizeFlags.Integer

/-- The greatest number of digits that a numeral may have. -/
def maxDigits : Nat := 4300

/-- White space around a numeral. -/
def isNumeralBlank (c : Char) : Bool :=
  Text.isBlank c && !(decide (0x1C ≤ c.toNat) && decide (c.toNat ≤ 0x1F))

/-- The digits of groups that underscores separate. -/
def groupedDigits? (t : Text) : Option Text :=
  let groups := Text.splitAt '_' t
  if groups.all fun group => group ≠ [] && group.all Text.isDecimalDigit then some groups.flatten
  else none

/-- The number that decimal digits of any script write. -/
def ofDecimalDigits (digits : Text) : Nat :=
  digits.foldl (fun n c => n * 10 + (Text.decimalDigit? c).getD 0) 0

/-- Read a numeral. -/
def ofNumeral? (t : Text) : Option Int :=
  let (sign, unsigned) := takeSign (Text.trim isNumeralBlank t)
  (groupedDigits? unsigned).bind fun digits =>
    if digits.length ≤ maxDigits then some (withSign sign (ofDecimalDigits digits)) else none

example : ofNumeral? " 6_4".toList = some 64 := by decide

example : ofNumeral? "6__4".toList = none := by decide

end SizeFlags.Integer
