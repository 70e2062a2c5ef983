import SizeFlags.Command
import SizeFlags.Proofs.Results
import SizeFlags.Proofs.Size.Grammar

set_option autoImplicit false

/-!
# Writing sizes

An integer can be written in many ways: in either radix, with zeros in front, with its
letters in either case, and with every unit that divides it.  Main statement: an integer
of a shape is read back from all of them, and what is printed for a size is read back too.
-/

namespace SizeFlags

namespace Radix

variable {radix : Radix}

theorem digitChar_mem_alphabet {d : Nat} (h : d < radix.base) : d.digitChar ∈ radix.alphabet := by
  revert d
  cases radix <;> decide

theorem worth_digitChar {d : Nat} (h : d < radix.base) : radix.worth d.digitChar = d := by
  revert d
  cases radix <;> decide

theorem one_lt_base (radix : Radix) : 1 < radix.base := by
  cases radix <;> decide

/-- The digits of a number are its positional form, by induction on all but the last digit. -/
theorem toDigits_spec (radix : Radix) (n : Nat) :
    (∀ c ∈ Nat.toDigits radix.base n, c ∈ radix.alphabet) ∧
      radix.positional (Nat.toDigits radix.base n) = n := by
  induction n using Nat.strong_induction_on with
  | _ n ih =>
    rw [Nat.toDigits_eq_if radix.one_lt_base]
    split
    · rename_i hn
      refine ⟨by simpa using digitChar_mem_alphabet hn, ?_⟩
      simpa [positional] using worth_digitChar hn
    · rename_i hn
      have hpos : 0 < n := by
        have := radix.one_lt_base
        omega
      obtain ⟨hmem, hvalue⟩ := ih (n / radix.base) (Nat.div_lt_self hpos radix.one_lt_base)
      have hlast : n % radix.base < radix.base :=
        Nat.mod_lt n (Nat.lt_trans Nat.zero_lt_one radix.one_lt_base)
      constructor
      · intro c hc
        rcases List.mem_append.mp hc with hc | hc
        · exact hmem c hc
        · rw [List.mem_singleton.mp hc]
          exact digitChar_mem_alphabet hlast
      · rw [positional_append_singleton, hvalue, worth_digitChar hlast, Nat.mul_comm]
        exact Nat.div_add_mod n radix.base

theorem positional_replicate_zero_append (radix : Radix) (zeros : Nat) (digits : Text) :
    radix.positional (List.replicate zeros '0' ++ digits) = radix.positional digits := by
  have hworth : radix.worth '0' = 0 := by
    cases radix <;> decide
  rw [positional, List.reverse_append, List.map_append, List.reverse_replicate,
    List.map_replicate, hworth, Nat.ofDigits_append_replicate_zero]
  rfl

theorem toLower_of_mem_alphabet {c : Char} (h : c ∈ radix.alphabet) : c.toLower = c := by
  have hall : radix.alphabet.all (fun d => decide (d.toLower = d)) = true := by
    cases radix <;> decide
  exact of_decide_eq_true (List.all_eq_true.mp hall c h)

/-- Digits stand for the same number in either case. -/
theorem positional_map_toLower {digits : Text} (h : ∀ c ∈ digits, c.toLower ∈ radix.alphabet) :
    radix.positional (digits.map Char.toLower) = radix.positional digits := by
  have hworth : ∀ c ∈ digits.reverse, radix.worth c.toLower = radix.worth c := by
    intro c hc
    rw [worth, worth, toLower_of_mem_alphabet (h c (List.mem_reverse.mp hc))]
  rw [positional, positional, ← List.map_reverse, List.map_map]
  exact congrArg (Nat.ofDigits radix.base) (List.map_congr_left hworth)

end Radix

namespace Size

/-- Write a letter in a case. -/
def LetterCase.apply : LetterCase → Char → Char
  | lower, c => c.toLower
  | upper, c => c.toUpper

theorem LetterCase.toLower_apply {radix : Radix} {c : Char} (letterCase : LetterCase)
    (h : c ∈ radix.alphabet) : (letterCase.apply c).toLower = c := by
  have hall : radix.alphabet.all (fun d => decide ((letterCase.apply d).toLower = d)) = true := by
    cases radix <;> cases letterCase <;> decide
  exact of_decide_eq_true (List.all_eq_true.mp hall c h)

/-- What the writer of a size may choose. -/
structure Style where
  mark : Mark
  /-- the number of zeros in front of the digits -/
  zeros : Nat
  /-- the case of the digit at each place, if it is a letter -/
  letterCase : Nat → LetterCase
  suffix : Suffix

namespace Style

/-- Write a number with at least one digit. -/
def digits (style : Style) (n : Nat) : Text :=
  List.replicate style.zeros '0' ++
    (Nat.toDigits style.mark.radix.base n).mapIdx fun place c => (style.letterCase place).apply c

/-- Write an integer that is a multiple of the unit. -/
def write (style : Style) (n : Int) : Text :=
  (if n < 0 then ['-'] else []) ++ style.mark.toText ++
    style.digits (n.natAbs / 1024 ^ style.suffix.exponent) ++ style.suffix.toText

theorem digits_ne_nil (style : Style) (n : Nat) : style.digits n ≠ [] := by
  simp [digits, Nat.toDigits_ne_nil]

/-- In lower case the digits of a number are as they are always written. -/
theorem map_toLower_mapIdx (style : Style) (n : Nat) :
    ((Nat.toDigits style.mark.radix.base n).mapIdx
      fun place c => (style.letterCase place).apply c).map Char.toLower =
      Nat.toDigits style.mark.radix.base n := by
  apply List.ext_getElem
  · simp
  · intro place hplace hplace'
    simp only [List.getElem_map, List.getElem_mapIdx]
    exact LetterCase.toLower_apply _ ((style.mark.radix.toDigits_spec n).1 _ (List.getElem_mem _))

/-- The digits of a number are digits of the radix, and stand for the number. -/
theorem digits_spec (style : Style) (n : Nat) :
    (∀ c ∈ style.digits n, c.toLower ∈ style.mark.radix.alphabet) ∧
      style.mark.radix.positional (style.digits n) = n := by
  obtain ⟨hplain, hvalue⟩ := style.mark.radix.toDigits_spec n
  have hcased : ∀ c ∈ (Nat.toDigits style.mark.radix.base n).mapIdx
      fun place c => (style.letterCase place).apply c, c.toLower ∈ style.mark.radix.alphabet := by
    intro c hc
    have hlower := List.mem_map_of_mem (f := Char.toLower) hc
    rw [style.map_toLower_mapIdx n] at hlower
    exact hplain _ hlower
  constructor
  · intro c hc
    rcases List.mem_append.mp hc with hzero | hdigit
    · rw [List.eq_of_mem_replicate hzero]
      cases style.mark.radix <;> decide
    · exact hcased c hdigit
  · rw [digits, Radix.positional_replicate_zero_append, ← Radix.positional_map_toLower hcased,
      style.map_toLower_mapIdx n, hvalue]

/-- What is written is a spelling. -/
def spelling (style : Style) (n : Int) (hmark : n < 0 → style.mark ≠ some .upper) : Spelling where
  negative := n < 0
  mark := style.mark
  digits := style.digits (n.natAbs / 1024 ^ style.suffix.exponent)
  suffix := style.suffix
  digits_ne_nil := style.digits_ne_nil _
  mem_alphabet := (style.digits_spec _).1
  lower_of_negative := fun hnegative => hmark (of_decide_eq_true hnegative)

variable {style : Style} {n : Int} (hmark : n < 0 → style.mark ≠ some .upper)
include hmark

theorem toText_spelling : (style.spelling n hmark).toText = style.write n := by
  simp [spelling, Spelling.toText, Spelling.signText, write]

/-- No part of an integer is lost if the unit divides it. -/
theorem value_spelling (hdvd : (1024 ^ style.suffix.exponent : Int) ∣ n) :
    (style.spelling n hmark).value = n := by
  have hnat : 1024 ^ style.suffix.exponent ∣ n.natAbs := Int.natCast_dvd.mp (by exact_mod_cast hdvd)
  have hmul : ((n.natAbs / 1024 ^ style.suffix.exponent : Nat) : Int) * 1024 ^ style.suffix.exponent
      = n.natAbs := by
    exact_mod_cast Nat.div_mul_cancel hnat
  have hdigits := (style.digits_spec (n.natAbs / 1024 ^ style.suffix.exponent)).2
  rw [Spelling.value, Spelling.numeral]
  simp only [spelling, hdigits, decide_eq_true_eq]
  split
  · rw [Int.neg_mul, hmul]
    omega
  · rw [hmul]
    omega

end Style

/-- Without a mark, zeros in front or a unit an integer is written as it is printed. -/
theorem ofInt_eq_write (n : Int) : Text.ofInt n = Style.write ⟨none, 0, fun _ => .lower, none⟩ n := by
  have hdigits : (Nat.toDigits 10 n.natAbs).mapIdx (fun _ c => LetterCase.lower.apply c) =
      Nat.toDigits 10 n.natAbs := by
    rw [List.mapIdx_eq_iff]
    intro place
    cases hplace : (Nat.toDigits 10 n.natAbs)[place]? with
    | none => rfl
    | some c =>
      have hc := (Radix.decimal.toDigits_spec n.natAbs).1 c (List.mem_of_getElem? hplace)
      exact congrArg some (Radix.toLower_of_mem_alphabet hc).symm
  rw [Text.ofInt, Style.write, Style.digits]
  simp [Mark.toText, Mark.radix, Radix.base, Suffix.toText, Suffix.exponent, hdigits, Text.ofNat]
  split <;> rfl

theorem read?_write_of_contains {shape : Shape} {style : Style} {n : Int} (hn : shape.Contains n)
    (hdvd : (1024 ^ style.suffix.exponent : Int) ∣ n)
    (hmark : n < 0 → style.mark ≠ some .upper) : read? shape (style.write n) = some n := by
  have hvalue : (style.spelling n hmark).value = n := Style.value_spelling hmark hdvd
  have hfits : (style.spelling n hmark).Fits shape := by
    refine ⟨?_, hvalue.symm ▸ hn⟩
    intro hnegative
    exact Shape.signed_of_contains_neg hn (of_decide_eq_true hnegative)
  rw [← Style.toText_spelling hmark, Spelling.read?_toText hfits, hvalue]

theorem read?_ofInt {shape : Shape} {n : Int} (hn : shape.Contains n) :
    read? shape (Text.ofInt n) = some n := by
  rw [ofInt_eq_write]
  exact read?_write_of_contains hn (one_dvd n) (by simp)

/-- A size is printed in decimal. -/
theorem run_parse_of_read {shape : Shape} {value : Operand} {n : Int}
    (h : read shape value = .ok n) :
    Command.run (.parse value shape) = .ok (.success (Text.ofInt n ++ ['\n'])) :=
  bind_eq_ok_iff.mpr ⟨n, h, rfl⟩

/-- Nothing is printed but a size. -/
theorem exists_read_of_run_parse {shape : Shape} {value : Operand} {outcome : Outcome}
    (h : Command.run (.parse value shape) = .ok outcome) :
    ∃ n, read shape value = .ok n ∧ outcome = .success (Text.ofInt n ++ ['\n']) := by
  obtain ⟨n, hread, hend⟩ := bind_eq_ok_iff.mp h
  exact ⟨n, hread, (Except.ok.inj hend).symm⟩

/-- An integer of a shape is read back, however it is written: in either radix, with any number
of zeros in front, any letters in upper case and any unit that divides it; only behind a minus
sign the mark has to be in lower case.  What is printed for a size is its decimal numeral, which
is the same size of the shape and is printed for itself. -/
theorem read?_write (shape : Shape) :
    (∀ (style : Style) (n : Int), shape.min ≤ n → n ≤ shape.max →
      (1024 ^ style.suffix.exponent : Int) ∣ n → (n < 0 → style.mark ≠ some .upper) →
      read? shape (style.write n) = some n) ∧
    (∀ value n, read shape value = .ok n →
      Command.run (.parse value shape) = .ok (.success (Text.ofInt n ++ ['\n'])) ∧
        read? shape (Text.ofInt n) = some n ∧
        Command.run (.parse (.text (Text.ofInt n)) shape) =
          .ok (.success (Text.ofInt n ++ ['\n']))) ∧
    ∀ value outcome, Command.run (.parse value shape) = .ok outcome →
      ∃ n, read shape value = .ok n ∧ outcome = .success (Text.ofInt n ++ ['\n']) := by
  refine ⟨?written, ?printed, fun _ _ h => exists_read_of_run_parse h⟩
  case written =>
    intro style n hmin hmax hdvd hmark
    exact read?_write_of_contains ⟨hmin, hmax⟩ hdvd hmark
  case printed =>
    intro value n hread
    obtain ⟨t, _, ht⟩ := read_eq_ok_iff.mp hread
    have hback : read? shape (Text.ofInt n) = some n := read?_ofInt (contains_of_read? ht)
    have hprinted : read shape (.text (Text.ofInt n)) = .ok n :=
      read_eq_ok_iff.mpr ⟨_, rfl, hback⟩
    exact ⟨run_parse_of_read hread, hback, run_parse_of_read hprinted⟩

/-- Every second digit in upper case, behind two zeros and with a unit. -/
def mixedStyle : Style :=
  ⟨some .lower, 2, fun place => if place % 2 = 0 then .lower else .upper, some (.tera, .lower)⟩

/-- What is written in a style of its own is printed in decimal, and the decimal numeral is
printed unchanged. -/
theorem read?_write_mixedStyle :
    mixedStyle.write (-0x7abcde0000000000) = "-0x007AbCdEt".toList ∧
      read .int64 (.text "-0x007AbCdEt".toList) = .ok (-0x7abcde0000000000) ∧
      Command.run (.parse (.text "-0x007AbCdEt".toList) .int64) =
        .ok (.success "-8844187859830177792\n".toList) ∧
      read? .int64 "-8844187859830177792".toList = some (-0x7abcde0000000000) ∧
      Command.run (.parse (.text "-8844187859830177792".toList) .int64) =
        .ok (.success "-8844187859830177792\n".toList) := by
  have hwritten : mixedStyle.write (-0x7abcde0000000000) = "-0x007AbCdEt".toList := by decide
  have hback : read? .int64 (mixedStyle.write (-0x7abcde0000000000)) =
      some (-0x7abcde0000000000) :=
    (read?_write .int64).1 mixedStyle _ (by decide) (by decide) (by decide) (by decide)
  rw [hwritten] at hback
  have hread : read .int64 (.text "-0x007AbCdEt".toList) = .ok (-0x7abcde0000000000) :=
    read_eq_ok_iff.mpr ⟨_, rfl, hback⟩
  obtain ⟨hrun, hagain, hsame⟩ := (read?_write .int64).2.1 _ _ hread
  have hdecimal : Text.ofInt (-0x7abcde0000000000) = "-8844187859830177792".toList := by decide
  rw [hdecimal] at hrun hagain hsame
  exact ⟨hwritten, hread, hrun, hagain, hsame⟩

end Size

end SizeFlags
