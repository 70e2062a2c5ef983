import Mathlib.Tactic.Ring
import Mathlib.Tactic.SplitIfs
import SizeFlags.Radix
import SizeFlags.Text.Decimal
import SizeFlags.Text.Quoted

set_option autoImplicit false

/-!
# Printed texts that can be read back

Numerals and quoted texts tell what they were printed for.  A numeral starts with a minus
sign or is made of digits only.  In a quoted text the letter behind a reverse solidus tells
how many digits its escape has, and what is printed as itself is no reverse solidus; so the
characters are read one by one, and texts that look alike are quoted differently.
-/

namespace SizeFlags.Text

/-! ## Numerals -/

theorem ofNat_injective {n m : Nat} (h : ofNat n = ofNat m) : n = m := by
  have hread : ∀ k, Nat.ofDigitChars 10 (ofNat k) 0 = k :=
    fun k => Nat.ofDigitChars_toDigits (by decide) (by decide)
  rw [← hread n, h, hread m]

/-- A numeral has digits and, at its start, a minus sign. -/
theorem mem_ofInt {n : Int} {c : Char} (h : c ∈ ofInt n) : c = '-' ∨ c.isDigit = true := by
  rw [ofInt] at h
  split at h
  · exact (List.mem_cons.mp h).imp_right isDigit_of_mem_ofNat
  · exact Or.inr (isDigit_of_mem_ofNat h)

theorem minus_cons_ne_ofNat (t : Text) (m : Nat) : '-' :: t ≠ ofNat m := by
  intro h
  have hdigit : '-'.isDigit = true := isDigit_of_mem_ofNat (h ▸ List.mem_cons_self)
  exact absurd hdigit (by decide)

theorem ofInt_injective {n m : Int} (h : ofInt n = ofInt m) : n = m := by
  rw [ofInt, ofInt] at h
  split at h <;> split at h
  · have habs : n.natAbs = m.natAbs := ofNat_injective (List.cons.inj h).2
    omega
  · exact absurd h (minus_cons_ne_ofNat _ _)
  · exact absurd h.symm (minus_cons_ne_ofNat _ _)
  · have habs : n.natAbs = m.natAbs := ofNat_injective h
    omega

/-! ## Quoted texts -/

/-- Read a character from the hexadecimal digits of its code point. -/
def readCode (width : Nat) (t : Text) : Char × Text :=
  (Char.ofNat (Radix.hexadecimal.ofDigits (t.take width)), t.drop width)

/-- Read what stands behind a reverse solidus. -/
def readBehindBackslash : Text → Option (Char × Text)
  | [] => none
  | 't' :: rest => some ('\t', rest)
  | 'n' :: rest => some ('\n', rest)
  | 'r' :: rest => some ('\r', rest)
  | 'x' :: rest => some (readCode 2 rest)
  | 'u' :: rest => some (readCode 4 rest)
  | 'U' :: rest => some (readCode 8 rest)
  | c :: rest => some (c, rest)

/-- Read the first character of a text in which characters are escaped. -/
def readEscape : Text → Option (Char × Text)
  | [] => none
  | c :: rest => if c = backslash then readBehindBackslash rest else some (c, rest)

/-- Hexadecimal digits keep a number as far as they reach. -/
theorem ofDigits_hexDigits (width n : Nat) :
    Radix.hexadecimal.ofDigits (hexDigits width n) = n % 16 ^ width := by
  induction width generalizing n with
  | zero => simp [hexDigits, Radix.ofDigits, Nat.mod_one]
  | succ width ih =>
    have hdigit : ∀ d < 16, Digit.value? 16 d.digitChar = some d := by decide
    have hrest := ih (n / 16)
    rw [Radix.ofDigits] at hrest
    rw [hexDigits, Radix.ofDigits, List.foldl_append, hrest, List.foldl_cons, List.foldl_nil,
      Radix.base, hdigit _ (Nat.mod_lt n (by decide)), Option.getD_some, Nat.pow_succ',
      Nat.mod_mul]
    omega

/-- Digits that reach far enough are read back as the character. -/
theorem readCode_hexDigits {width : Nat} {c : Char} (rest : Text) (h : c.toNat < 16 ^ width) :
    readCode width (hexDigits width c.toNat ++ rest) = (c, rest) := by
  have hlength : (hexDigits width c.toNat).length = width := length_hexDigits width c.toNat
  rw [readCode, List.take_left' hlength, List.drop_left' hlength, ofDigits_hexDigits,
    Nat.mod_eq_of_lt h, Char.ofNat_toNat]

section

variable {quote : Char} (hquote : quote = apostrophe ∨ quote = quotationMark)
include hquote

theorem readEscape_escape_append (c : Char) (rest : Text) :
    readEscape (escape quote c ++ rest) = some (c, rest) := by
  unfold escape
  split_ifs with hself htab hfeed hreturn hprintable hbyte hpair
  · rcases hself with rfl | rfl
    · rcases hquote with rfl | rfl <;> rfl
    · rfl
  · rw [htab]
    rfl
  · rw [hfeed]
    rfl
  · rw [hreturn]
    rfl
  · exact if_neg fun hbackslash => hself (Or.inr hbackslash)
  · exact congrArg some (readCode_hexDigits rest hbyte)
  · exact congrArg some (readCode_hexDigits rest hpair)
  · exact congrArg some (readCode_hexDigits rest c.val.toNat_lt)

/-- The characters of a text are read back from their escapes, one by one. -/
theorem flatMap_escape_injective {t u : Text}
    (h : t.flatMap (escape quote) = u.flatMap (escape quote)) : t = u := by
  induction t generalizing u with
  | nil =>
    cases u with
    | nil => rfl
    | cons d u =>
      have hread := congrArg readEscape h
      rw [List.flatMap_cons, readEscape_escape_append hquote] at hread
      cases hread
  | cons c t ih =>
    have hread := congrArg readEscape h
    rw [List.flatMap_cons, readEscape_escape_append hquote] at hread
    cases u with
    | nil => cases hread
    | cons d u =>
      rw [List.flatMap_cons, readEscape_escape_append hquote] at hread
      obtain ⟨rfl, hrest⟩ := Prod.mk.inj (Option.some.inj hread)
      rw [ih hrest]

end

theorem quoteFor_cases (t : Text) : quoteFor t = apostrophe ∨ quoteFor t = quotationMark := by
  unfold quoteFor
  split
  · exact Or.inr rfl
  · exact Or.inl rfl

/-- Texts that are quoted alike are the same, whatever of them is to be seen. -/
theorem quoted_injective {t u : Text} (h : quoted t = quoted u) : t = u := by
  obtain ⟨hquote, hbody⟩ := List.cons.inj h
  rw [hquote] at hbody
  exact flatMap_escape_injective (quoteFor_cases u) (List.append_cancel_right hbody)

end SizeFlags.Text
