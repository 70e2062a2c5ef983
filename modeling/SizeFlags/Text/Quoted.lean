import SizeFlags.Text.Printable

set_option autoImplicit false

/-!
# Quoted texts

A quoted text shows every character: what would not print is escaped, so that
the quoted form stands on one line and two texts that look alike are told
apart.  Apostrophes quote, unless the text has one and no quotation mark.
-/

namespace SizeFlags.Text

/-- The reverse solidus, U+005C, which opens an escape. -/
def backslash : Char := '\x5c'

/-- The last `width` hexadecimal digits of a number, in lower case. -/
def hexDigits : (width : Nat) → Nat → Text
  | 0, _ => []
  | width + 1, n => hexDigits width (n / 16) ++ [(n % 16).digitChar]

@[simp] theorem length_hexDigits (width n : Nat) : (hexDigits width n).length = width := by
  induction width generalizing n with
  | zero => rfl
  | succ width ih => simp [hexDigits, ih]

/-- How a character is written between two quotes. -/
def escape (quote c : Char) : Text :=
  if c = quote ∨ c = backslash then [backslash, c]
  else if c = '\t' then [backslash, 't']
  else if c = '\n' then [backslash, 'n']
  else if c = '\r' then [backslash, 'r']
  else if isPrintable c then [c]
  else if c.toNat < 0x100 then backslash :: 'x' :: hexDigits 2 c.toNat
  else if c.toNat < 0x10000 then backslash :: 'u' :: hexDigits 4 c.toNat
  else backslash :: 'U' :: hexDigits 8 c.toNat

/-- The quote that needs no escape, the apostrophe if both or neither do. -/
def quoteFor (t : Text) : Char :=
  if t.contains apostrophe && !t.contains quotationMark then quotationMark else apostrophe

/-- A text between quotes, with all its characters to be seen. -/
def quoted (t : Text) : Text :=
  quoteFor t :: t.flatMap (escape (quoteFor t)) ++ [quoteFor t]

example : quoted "4G\u00a0".toList = apostrophe :: "4G\\xa0".toList ++ [apostrophe] := by decide

end SizeFlags.Text
