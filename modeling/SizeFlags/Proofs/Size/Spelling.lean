import SizeFlags.Proofs.Size.Digits
import SizeFlags.Proofs.Size.Reading
import SizeFlags.Proofs.Size.Scaling

set_option autoImplicit false

/-!
# Spellings of sizes

What a size may look like, said without the reader: an optional minus sign, an
optional hexadecimal mark, digits, and an optional unit.  Only a size without a
sign may write the letter of its mark in upper case.  Main statement: the reader
takes exactly the texts that are spellings, with the value that the spelling
stands for, if the shape has it.
-/

namespace SizeFlags.Size

/-! ## Spellings -/

/-- The case of a letter. -/
inductive LetterCase where
  | lower
  | upper
  deriving DecidableEq, Repr, Inhabited

/-- The units, each 1024 times the one before. -/
inductive Multiple where
  | kilo
  | mega
  | giga
  | tera
  deriving DecidableEq, Repr, Inhabited

namespace Multiple

/-- The power of 1024 that a unit stands for. -/
def exponent : Multiple → Nat
  | kilo => 1
  | mega => 2
  | giga => 3
  | tera => 4

/-- How a unit is written. -/
def letter : Multiple → LetterCase → Char
  | kilo, .upper => 'K'
  | kilo, .lower => 'k'
  | mega, .upper => 'M'
  | mega, .lower => 'm'
  | giga, .upper => 'G'
  | giga, .lower => 'g'
  | tera, .upper => 'T'
  | tera, .lower => 't'

end Multiple

/-- A unit and the case that it is written in, or no unit. -/
abbrev Suffix : Type := Option (Multiple × LetterCase)

namespace Suffix

/-- How a suffix is written. -/
def toText : Suffix → Text
  | none => []
  | some (unit, letterCase) => [unit.letter letterCase]

/-- The power of 1024 that a suffix stands for. -/
def exponent : Suffix → Nat
  | none => 0
  | some (unit, _) => unit.exponent

end Suffix

/-- A hexadecimal mark by the case of its letter, or no mark. -/
abbrev Mark : Type := Option LetterCase

namespace Mark

/-- How a mark is written. -/
def toText : Mark → Text
  | none => []
  | some .lower => ['0', 'x']
  | some .upper => ['0', 'X']

/-- The radix of the digits behind a mark. -/
def radix : Mark → Radix
  | none => .decimal
  | some _ => .hexadecimal

end Mark

/-- The parts of a written size. -/
structure Spelling where
  /-- it starts with a minus sign -/
  negative : Bool
  mark : Mark
  digits : Text
  suffix : Suffix
  digits_ne_nil : digits ≠ []
  mem_alphabet : ∀ c ∈ digits, c.toLower ∈ mark.radix.alphabet
  /-- behind a minus sign the letter of the mark is in lower case -/
  lower_of_negative : negative = true → mark ≠ some .upper

namespace Spelling

/-- How a minus sign is written, if there is one. -/
def signText (s : Spelling) : Text := if s.negative then ['-'] else []

/-- The text of a spelling. -/
def toText (s : Spelling) : Text := s.signText ++ s.mark.toText ++ s.digits ++ s.suffix.toText

/-- The integer that the sign and the digits stand for. -/
def numeral (s : Spelling) : Int :=
  if s.negative then -(s.mark.radix.positional s.digits : Int) else s.mark.radix.positional s.digits

/-- The integer that a spelling stands for. -/
def value (s : Spelling) : Int := s.numeral * 1024 ^ s.suffix.exponent

/-- A shape has the spelling if it has the minus sign and the value. -/
def Fits (s : Spelling) (shape : Shape) : Prop :=
  (s.negative = true → shape.signed = true) ∧ shape.min ≤ s.value ∧ s.value ≤ shape.max

end Spelling

/-! ## Suffixes -/

theorem unitExponent?_letter (unit : Multiple) (letterCase : LetterCase) :
    unitExponent? (unit.letter letterCase) = some unit.exponent := by
  cases unit <;> cases letterCase <;> rfl

theorem exists_letter_of_unitExponent? {c : Char} {steps : Nat} (h : unitExponent? c = some steps) :
    ∃ (unit : Multiple) (letterCase : LetterCase),
      c = unit.letter letterCase ∧ steps = unit.exponent := by
  unfold unitExponent? at h
  split_ifs at h with hkilo hmega hgiga htera
  · obtain rfl := Option.some.inj h
    rcases hkilo with rfl | rfl
    · exact ⟨.kilo, .upper, rfl, rfl⟩
    · exact ⟨.kilo, .lower, rfl, rfl⟩
  · obtain rfl := Option.some.inj h
    rcases hmega with rfl | rfl
    · exact ⟨.mega, .upper, rfl, rfl⟩
    · exact ⟨.mega, .lower, rfl, rfl⟩
  · obtain rfl := Option.some.inj h
    rcases hgiga with rfl | rfl
    · exact ⟨.giga, .upper, rfl, rfl⟩
    · exact ⟨.giga, .lower, rfl, rfl⟩
  · obtain rfl := Option.some.inj h
    rcases htera with rfl | rfl
    · exact ⟨.tera, .upper, rfl, rfl⟩
    · exact ⟨.tera, .lower, rfl, rfl⟩

/-- What follows the digits is a suffix, and scales the integer. -/
theorem applyUnit?_eq_some_iff {shape : Shape} {n v : Int} {rest : Text}
    (hn : shape.Contains n) :
    applyUnit? shape n rest = some v ↔
      ∃ suffix : Suffix, rest = suffix.toText ∧ v = n * 1024 ^ suffix.exponent ∧
        shape.Contains v := by
  constructor
  · intro h
    match rest with
    | [] =>
      obtain rfl : n = v := by simpa [applyUnit?] using h
      exact ⟨none, rfl, by simp [Suffix.exponent], hn⟩
    | [c] =>
      obtain ⟨steps, hsteps, hscale⟩ := Option.bind_eq_some_iff.mp h
      obtain ⟨unit, letterCase, rfl, rfl⟩ := exists_letter_of_unitExponent? hsteps
      exact ⟨some (unit, letterCase), rfl, (scale_eq_some_iff hn).mp hscale⟩
    | _ :: _ :: _ => simp [applyUnit?] at h
  · rintro ⟨suffix, rfl, hv⟩
    match suffix with
    | none =>
      obtain rfl : v = n := by simpa [Suffix.exponent] using hv.1
      rfl
    | some (unit, letterCase) =>
      simp only [Suffix.toText, applyUnit?, unitExponent?_letter, Option.bind_some]
      exact (scale_eq_some_iff hn).mpr hv

/-- No letter of a unit is a digit, nor the letter of a mark. -/
theorem letter_ne (unit : Multiple) (letterCase : LetterCase) (radix : Radix) :
    unit.letter letterCase ≠ 'x' ∧ unit.letter letterCase ≠ 'X' ∧
      radix.isDigit (unit.letter letterCase) = false := by
  cases unit <;> cases letterCase <;> cases radix <;> decide

end SizeFlags.Size
