import Mathlib.Data.List.Basic
import Mathlib.Data.List.Induction
import Mathlib.Data.Nat.Digits.Defs
import Mathlib.Tactic.Ring
import Mathlib.Tactic.SplitIfs
import SizeFlags.Radix
import SizeFlags.Text.Blank

set_option autoImplicit false

/-!
# Digits and positional values

A radix has an alphabet: its digits in the order of their worth, letters in
lower case.  A digit is a character that is in the alphabet when it is written
in lower case, and digits stand for the number that they are the positional
form of.  The tests on code points that the readers make, and the running total
that they keep, agree with that on all characters.
-/

namespace SizeFlags.Radix

/-- The digits of a radix in the order of their worth. -/
def alphabet : Radix → Text
  | decimal => "0123456789".toList
  | hexadecimal => "0123456789abcdef".toList

/-- The place of a digit in the alphabet. -/
def worth (radix : Radix) (c : Char) : Nat := radix.alphabet.idxOf c.toLower

/-- The number that digits are the positional form of, the most significant digit
first. -/
def positional (radix : Radix) (digits : Text) : Nat :=
  Nat.ofDigits radix.base (digits.reverse.map radix.worth)

/-! ## One digit -/

theorem toNat_lt_of_mem_alphabet {radix : Radix} {c : Char} (h : c ∈ radix.alphabet) :
    c.toNat < 0x80 := by
  have hall : radix.alphabet.all (fun d => decide (d.toNat < 0x80)) = true := by
    cases radix <;> decide
  exact of_decide_eq_true (List.all_eq_true.mp hall c h)

/-- A digit is neither a blank nor a sign. -/
theorem no_blank_or_sign_of_mem_alphabet {radix : Radix} {c : Char} (h : c.toLower ∈ radix.alphabet) :
    Text.isAsciiBlank c = false ∧ c ≠ '+' ∧ c ≠ '-' := by
  refine ⟨?_, ?_, ?_⟩
  · rw [Bool.eq_false_iff]
    intro hblank
    simp only [Text.isAsciiBlank, Bool.or_eq_true, decide_eq_true_eq, or_assoc] at hblank
    rcases hblank with rfl | rfl | rfl | rfl | rfl | rfl <;> cases radix <;> exact absurd h (by decide)
  · rintro rfl
    cases radix <;> exact absurd h (by decide)
  · rintro rfl
    cases radix <;> exact absurd h (by decide)

theorem toLower_eq_self_of_le {c : Char} (h : 0x80 ≤ c.toNat) : c.toLower = c := by
  have hupper : ¬ (c.val ≥ 'A'.val ∧ c.val ≤ 'Z'.val) := by
    rintro ⟨_, hle⟩
    have hle' : c.toNat ≤ 'Z'.toNat := hle
    have hZ : 'Z'.toNat = 0x5A := rfl
    omega
  exact dif_neg hupper

theorem value?_eq_none_of_le {base : Nat} {c : Char} (h : 0x80 ≤ c.toNat) :
    Digit.value? base c = none := by
  have hworth : Digit.worth? c = none := by
    rw [Digit.worth?, if_neg (by omega), if_neg (by omega), if_neg (by omega)]
  rw [Digit.value?, hworth]
  rfl

/-- The value of a digit is its place in the alphabet; other characters have none. -/
theorem value?_base (radix : Radix) (c : Char) :
    Digit.value? radix.base c = radix.alphabet.idxOf? c.toLower := by
  rcases Nat.lt_or_ge c.toNat 0x80 with hascii | hother
  · have hall : ∀ n < 0x80, ∀ radix ∈ [decimal, hexadecimal],
        Digit.value? radix.base (Char.ofNat n) = radix.alphabet.idxOf? (Char.ofNat n).toLower := by
      decide +kernel
    have h := hall c.toNat hascii radix (by cases radix <;> simp)
    rwa [Char.ofNat_toNat] at h
  · rw [value?_eq_none_of_le hother, toLower_eq_self_of_le hother, eq_comm,
      List.idxOf?_eq_none_iff]
    intro hmem
    have := toNat_lt_of_mem_alphabet hmem
    omega

theorem isDigit_iff {radix : Radix} {c : Char} :
    radix.isDigit c = true ↔ c.toLower ∈ radix.alphabet := by
  rw [isDigit, value?_base, List.isSome_idxOf?]

theorem value?_of_mem {radix : Radix} {c : Char} (h : c.toLower ∈ radix.alphabet) :
    Digit.value? radix.base c = some (radix.worth c) := by
  obtain ⟨place, hplace⟩ := Option.isSome_iff_exists.mp (List.isSome_idxOf?.mpr h)
  rw [value?_base, worth, List.idxOf_eq_getD_idxOf?, hplace, Option.getD_some]

theorem mem_decimal_alphabet_iff {c : Char} :
    c.toLower ∈ decimal.alphabet ↔ 0x30 ≤ c.toNat ∧ c.toNat ≤ 0x39 := by
  rw [← isDigit_iff, isDigit, Digit.value?, Digit.worth?, base]
  split_ifs with hdigit hlower hupper
  · simp [Option.filter]
    omega
  · simp [Option.filter]
    omega
  · simp [Option.filter]
    omega
  · simp [hdigit]

/-! ## Many digits -/

theorem positional_append_singleton (radix : Radix) (digits : Text) (c : Char) :
    radix.positional (digits ++ [c]) = radix.positional digits * radix.base + radix.worth c := by
  rw [positional, positional, List.reverse_append, List.reverse_singleton, List.singleton_append,
    List.map_cons, Nat.ofDigits_cons]
  ring

/-- The running total over digits is their positional value. -/
theorem ofDigits_eq_positional {radix : Radix} {digits : Text}
    (h : ∀ c ∈ digits, c.toLower ∈ radix.alphabet) :
    radix.ofDigits digits = radix.positional digits := by
  induction digits using List.reverseRecOn with
  | nil => rfl
  | append_singleton digits c ih =>
    have hc : Digit.value? radix.base c = some (radix.worth c) := value?_of_mem (h c (by simp))
    have hdigits := ih fun d hd => h d (by simp [hd])
    rw [ofDigits] at hdigits
    rw [ofDigits, List.foldl_append, List.foldl_cons, List.foldl_nil, hdigits, hc,
      Option.getD_some, positional_append_singleton]

end SizeFlags.Radix
