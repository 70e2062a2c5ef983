import SizeFlags.Proofs.Size.Spelling

set_option autoImplicit false

/-!
# The texts that are read as sizes

Both directions of the grammar of sizes.  A spelling that fits its shape is
read with its value.  And a text that is read is a spelling: its parts are the
sign, the mark, the digits and the suffix that the reader took, provided that
the radix was rightly chosen.  The choice looks at single characters and may be
wrong, but then a letter of a mark is left behind the digits, where no suffix
has one.
-/

namespace SizeFlags.Size

open Integer (Sign signText takeSign dropMark withSign)

/-! ## The first character -/

theorem isFirst_iff {c : Char} :
    isFirst c = true ↔ c = '-' ∨ c.toLower ∈ Radix.decimal.alphabet := by
  rw [Radix.mem_decimal_alphabet_iff]
  simp [isFirst]

/-- The reader of integers finds no blanks to skip. -/
theorem dropWhile_of_isFirst {c : Char} (rest : Text) (h : isFirst c = true) :
    (c :: rest).dropWhile Text.isAsciiBlank = c :: rest := by
  have hblank : Text.isAsciiBlank c = false := by
    rcases isFirst_iff.mp h with rfl | hc
    · rfl
    · exact (Radix.no_blank_or_sign_of_mem_alphabet hc).1
  rw [List.dropWhile_cons, hblank]
  rfl

/-! ## The choice of the radix -/

theorem mem_of_isHexadecimal {t : Text} (h : isHexadecimal t = true) : 'x' ∈ t ∨ 'X' ∈ t := by
  simp only [isHexadecimal, Bool.or_eq_true, Bool.and_eq_true, decide_eq_true_eq] at h
  rcases h with ⟨_, h | h⟩ | ⟨_, h | h⟩
  · exact Or.inl (List.mem_of_getElem? h)
  · exact Or.inr (List.mem_of_getElem? h)
  · exact Or.inl (List.mem_of_getElem? h)
  · exact Or.inr (List.mem_of_getElem? h)

/-- The letters of marks stand neither among digits nor in a suffix. -/
theorem not_mem_digits_append {radix : Radix} {digits : Text} {suffix : Suffix} {c : Char}
    (hdigits : ∀ d ∈ digits, d.toLower ∈ radix.alphabet) (hc : c = 'x' ∨ c = 'X') :
    c ∉ digits ++ suffix.toText := by
  intro hmem
  rcases List.mem_append.mp hmem with hdigit | hsuffix
  · have hlower : c.toLower ∈ radix.alphabet := hdigits c hdigit
    rcases hc with rfl | rfl <;> cases radix <;> exact absurd hlower (by decide)
  · match suffix with
    | none => simp [Suffix.toText] at hsuffix
    | some (unit, letterCase) =>
      obtain rfl : c = unit.letter letterCase := by simpa [Suffix.toText] using hsuffix
      obtain ⟨hx, hX, _⟩ := letter_ne unit letterCase radix
      exact hc.elim hx hX

/-- A size is read as hexadecimal only for a letter that no digit and no unit is. -/
theorem radixOf_of_no_mark (negative : Bool) {radix : Radix} {digits : Text} (suffix : Suffix)
    (hdigits : ∀ c ∈ digits, c.toLower ∈ radix.alphabet) :
    radixOf ((if negative then ['-'] else []) ++ (digits ++ suffix.toText)) = .decimal := by
  have hletter : ∀ letter, letter = 'x' ∨ letter = 'X' →
      letter ∉ (if negative then ['-'] else []) ++ (digits ++ suffix.toText) := by
    intro letter hletter hmem
    rcases List.mem_append.mp hmem with hsign | hrest
    · rcases hletter with rfl | rfl <;> cases negative <;> simp at hsign
    · exact not_mem_digits_append hdigits hletter hrest
  unfold radixOf
  apply if_neg
  intro hhexadecimal
  rcases mem_of_isHexadecimal hhexadecimal with hlower | hupper
  · exact hletter 'x' (Or.inl rfl) hlower
  · exact hletter 'X' (Or.inr rfl) hupper

namespace Spelling

/-- A spelling is read in its own radix. -/
theorem radixOf_toText (s : Spelling) : radixOf s.toText = s.mark.radix := by
  cases hmark : s.mark with
  | none =>
    rw [toText, hmark, Mark.toText, List.append_nil, List.append_assoc]
    exact radixOf_of_no_mark s.negative s.suffix s.mem_alphabet
  | some letterCase =>
    have hhexadecimal : isHexadecimal s.toText = true := by
      rw [toText, hmark, Spelling.signText]
      cases letterCase with
      | lower => cases s.negative <;> rfl
      | upper =>
        cases hnegative : s.negative with
        | false => rfl
        | true => exact absurd hmark (s.lower_of_negative hnegative)
    rw [radixOf, if_pos hhexadecimal]
    rfl

/-! ## Spellings are read -/

/-- Behind its sign a spelling starts with a decimal digit. -/
theorem exists_eq_cons (s : Spelling) :
    ∃ c rest, s.mark.toText ++ (s.digits ++ s.suffix.toText) = c :: rest ∧
      c.toLower ∈ Radix.decimal.alphabet := by
  obtain ⟨negative, mark, digits, suffix, hne, hdigits, hlower⟩ := s
  match mark with
  | none =>
    obtain ⟨c, rest, rfl⟩ := List.exists_cons_of_ne_nil hne
    exact ⟨c, rest ++ suffix.toText, rfl, hdigits c (by simp)⟩
  | some .lower => exact ⟨'0', _, rfl, by decide⟩
  | some .upper => exact ⟨'0', _, rfl, by decide⟩

theorem dropMark_toText (s : Spelling) :
    dropMark s.mark.radix (s.mark.toText ++ (s.digits ++ s.suffix.toText)) =
      s.digits ++ s.suffix.toText := by
  obtain ⟨negative, mark, digits, suffix, hne, hdigits, hlower⟩ := s
  obtain ⟨c, rest, rfl⟩ := List.exists_cons_of_ne_nil hne
  have hc : mark.radix.isDigit c = true := Radix.isDigit_iff.mpr (hdigits c (by simp))
  match mark with
  | none => rfl
  | some .lower => exact Integer.dropMark_mark rfl (Or.inl rfl) hc
  | some .upper => exact Integer.dropMark_mark rfl (Or.inr rfl) hc

/-- The sign that a reader takes from a spelling. -/
def sign? (s : Spelling) : Option Sign := if s.negative then some .minus else none

/-- A spelling starts as a size has to; there are no blanks, and the sign is taken. -/
theorem takeSign_toText (s : Spelling) :
    s.toText.head?.any isFirst = true ∧
      takeSign (s.toText.dropWhile Text.isAsciiBlank) =
        (s.sign?, s.mark.toText ++ (s.digits ++ s.suffix.toText)) := by
  obtain ⟨c, rest, hrest, hc⟩ := s.exists_eq_cons
  have htext : s.toText = s.signText ++ (c :: rest) := by
    rw [toText, List.append_assoc, List.append_assoc, hrest]
  rw [htext, hrest, Spelling.signText, sign?]
  cases s.negative with
  | true => exact ⟨rfl, rfl⟩
  | false =>
    have hfirst : isFirst c = true := isFirst_iff.mpr (Or.inr hc)
    refine ⟨by simpa using hfirst, ?_⟩
    simp only [Bool.false_eq_true, if_false, List.nil_append, dropWhile_of_isFirst rest hfirst]
    obtain ⟨_, hplus, hminus⟩ := Radix.no_blank_or_sign_of_mem_alphabet hc
    exact Integer.takeSign_signText_append none rest hplus hminus

theorem withSign_ofDigits (s : Spelling) :
    withSign s.sign? (s.mark.radix.ofDigits s.digits) = s.numeral := by
  rw [Radix.ofDigits_eq_positional s.mem_alphabet, sign?, numeral]
  cases s.negative <;> rfl

theorem read?_toText {s : Spelling} {shape : Shape} (h : s.Fits shape) :
    read? shape s.toText = some s.value := by
  obtain ⟨hsigned, hvalue⟩ := h
  obtain ⟨hfirst, hsign⟩ := s.takeSign_toText
  have hnumeral : shape.Contains s.numeral := Shape.contains_of_contains_mul (by positivity) hvalue
  have hdigits : ∀ c ∈ s.digits, s.mark.radix.isDigit c = true := fun c hc =>
    Radix.isDigit_iff.mpr (s.mem_alphabet c hc)
  have hrest : ∀ c ∈ s.suffix.toText.head?, s.mark.radix.isDigit c = false := by
    intro c hc
    match hsuffix : s.suffix with
    | none => simp [hsuffix, Suffix.toText] at hc
    | some (unit, letterCase) =>
      obtain rfl : unit.letter letterCase = c := by simpa [hsuffix, Suffix.toText] using hc
      exact (letter_ne unit letterCase _).2.2
  have hread : Integer.read? s.mark.radix shape s.toText =
      some ⟨s.numeral, s.toText.length - s.suffix.toText.length⟩ := by
    rw [Integer.read?_of_digits hsign s.dropMark_toText s.digits_ne_nil hdigits hrest,
      s.withSign_ofDigits]
    refine if_pos ⟨?_, hnumeral⟩
    intro hminus
    refine hsigned ?_
    rw [sign?] at hminus
    cases hnegative : s.negative with
    | true => rfl
    | false => simp [hnegative] at hminus
  have hlength : s.toText.length - s.suffix.toText.length ≠ 0 := by
    have hpos : 0 < s.digits.length := List.length_pos_iff.mpr s.digits_ne_nil
    rw [toText, List.length_append, List.length_append, List.length_append]
    omega
  have hdrop : s.toText.drop (s.toText.length - s.suffix.toText.length) = s.suffix.toText :=
    (List.suffix_iff_eq_drop.mp (List.suffix_append _ _)).symm
  simp only [Size.read?, radixOf_toText, readIn?, hfirst, if_true, hread, Option.bind_some, hlength,
    if_false, hdrop]
  exact (applyUnit?_eq_some_iff hnumeral).mpr ⟨s.suffix, rfl, rfl, hvalue⟩

end Spelling

/-! ## What is read is a spelling -/

/-- A text that is read, in whatever radix, falls into a sign that the shape has,
digits of the radix behind their mark, and a suffix. -/
theorem exists_parts_of_readIn? {radix : Radix} {shape : Shape} {t : Text} {v : Int}
    (h : readIn? radix shape t = some v) :
    ∃ (negative : Bool) (u digits : Text) (suffix : Suffix),
      t = (if negative then ['-'] else []) ++ u ∧
      (negative = true → shape.signed = true) ∧
      dropMark radix u = digits ++ suffix.toText ∧ digits ≠ [] ∧
      (∀ c ∈ digits, c.toLower ∈ radix.alphabet) ∧
      v = withSign (if negative then some .minus else none) (radix.positional digits)
        * 1024 ^ suffix.exponent ∧
      shape.Contains v := by
  rw [readIn?] at h
  split at h
  · rename_i hfirst
    obtain ⟨reading, hread, hunit⟩ := Option.bind_eq_some_iff.mp h
    split at hunit
    · simp at hunit
    · rename_i hlength
      obtain ⟨sign, u, digits, hsign, hbody, hne, hdigits, hallowed, hvalue, hfits⟩ :=
        Integer.exists_digits_of_read? hread hlength
      obtain ⟨suffix, hsuffix, hv, hcontains⟩ := (applyUnit?_eq_some_iff hfits).mp hunit
      have halphabet : ∀ c ∈ digits, c.toLower ∈ radix.alphabet := fun c hc =>
        Radix.isDigit_iff.mp (hdigits c hc)
      rw [hsuffix] at hbody
      rw [hvalue, Radix.ofDigits_eq_positional halphabet] at hv
      obtain ⟨c, rest, rfl⟩ : ∃ c rest, t = c :: rest := by
        refine List.exists_cons_of_ne_nil ?_
        rintro rfl
        simp at hfirst
      have hc : isFirst c = true := by simpa using hfirst
      rw [dropWhile_of_isFirst rest hc] at hsign
      have htext : c :: rest = signText sign ++ u := Integer.signText_append_of_takeSign hsign
      match sign with
      | none => exact ⟨false, u, digits, suffix, htext, by simp, hbody, hne, halphabet, hv, hcontains⟩
      | some .minus =>
        exact ⟨true, u, digits, suffix, htext, fun _ => hallowed rfl, hbody, hne, halphabet, hv,
          hcontains⟩
      | some .plus =>
        obtain ⟨rfl, _⟩ := List.cons.inj htext
        exact absurd hc (by decide)
  · simp at h

/-- Behind a minus sign a mark in upper case does not make a size hexadecimal. -/
theorem radixOf_minus_upper {c : Char} (rest : Text) (hc : c ≠ 'X') :
    radixOf ('-' :: '0' :: 'X' :: c :: rest) = .decimal := by
  have hnot : ¬ isHexadecimal ('-' :: '0' :: 'X' :: c :: rest) = true := by
    simp [isHexadecimal, hc]
  rw [radixOf, if_neg hnot]

theorem exists_spelling_of_read? {shape : Shape} {t : Text} {v : Int}
    (h : read? shape t = some v) :
    ∃ s : Spelling, s.toText = t ∧ s.Fits shape ∧ s.value = v := by
  rw [read?] at h
  obtain ⟨negative, u, digits, suffix, ht, hsigned, hbody, hne, hdigits, hv, hfits⟩ :=
    exists_parts_of_readIn? h
  have hspelt : ∀ s : Spelling, s.negative = negative → s.digits = digits → s.suffix = suffix →
      s.mark.radix = radixOf t → u = s.mark.toText ++ (digits ++ suffix.toText) →
      s.toText = t ∧ s.Fits shape ∧ s.value = v := by
    rintro s rfl rfl rfl hradix hu
    have hvalue : s.value = v := by
      rw [hv, Spelling.value, Spelling.numeral, hradix]
      cases s.negative <;> rfl
    refine ⟨?_, ⟨hsigned, hvalue ▸ hfits⟩, hvalue⟩
    rw [ht, hu, Spelling.toText, Spelling.signText, List.append_assoc, List.append_assoc]
  rcases Integer.dropMark_cases (radixOf t) u with hkept | ⟨x, c, rest, hradix, hx, hc, hu, hdropped⟩
  · rw [hkept] at hbody
    have hradix : radixOf t = .decimal := by
      rw [ht, hbody]
      exact radixOf_of_no_mark negative suffix hdigits
    rw [hradix] at hdigits
    exact ⟨⟨negative, none, digits, suffix, hne, hdigits, by simp⟩,
      hspelt _ rfl rfl rfl hradix.symm hbody⟩
  · rw [hdropped] at hbody
    rw [hbody] at hu
    rw [hradix] at hdigits
    rcases hx with rfl | rfl
    · exact ⟨⟨negative, some .lower, digits, suffix, hne, hdigits, by simp⟩,
        hspelt _ rfl rfl rfl hradix.symm hu⟩
    · cases negative with
      | false =>
        exact ⟨⟨false, some .upper, digits, suffix, hne, hdigits, by simp⟩,
          hspelt _ rfl rfl rfl hradix.symm hu⟩
      | true =>
        have hcX : c ≠ 'X' := by
          rintro rfl
          rw [hradix] at hc
          exact absurd hc (by decide)
        rw [ht, hu, ← hbody, if_pos rfl] at hradix
        exact absurd ((radixOf_minus_upper rest hcX).symm.trans hradix) (by decide)

/-! ## The grammar -/

/-- A size is read with the value of its spelling, if the shape has it; a text
that has no such spelling is refused. -/
theorem read?_eq_some_iff_exists_spelling (shape : Shape) (t : Text) :
    (∀ v, read? shape t = some v ↔
      ∃ s : Spelling, s.toText = t ∧ (s.negative = true → shape.signed = true) ∧
        s.value = v ∧ shape.min ≤ v ∧ v ≤ shape.max) ∧
    (read? shape t = none ↔
      ¬ ∃ s : Spelling, s.toText = t ∧ (s.negative = true → shape.signed = true) ∧
        shape.min ≤ s.value ∧ s.value ≤ shape.max) := by
  refine ⟨?_, ?_⟩
  · intro v
    constructor
    · intro h
      obtain ⟨s, ht, ⟨hsigned, hfits⟩, rfl⟩ := exists_spelling_of_read? h
      exact ⟨s, ht, hsigned, rfl, hfits⟩
    · rintro ⟨s, rfl, hsigned, rfl, hfits⟩
      exact Spelling.read?_toText ⟨hsigned, hfits⟩
  · constructor
    · rintro h ⟨s, rfl, hfits⟩
      rw [Spelling.read?_toText hfits] at h
      exact Option.some_ne_none _ h
    · intro h
      rw [Option.eq_none_iff_forall_ne_some]
      intro v hv
      obtain ⟨s, ht, hfits, _⟩ := exists_spelling_of_read? hv
      exact h ⟨s, ht, hfits⟩

/-- What is read fits the shape. -/
theorem contains_of_read? {shape : Shape} {t : Text} {v : Int} (h : read? shape t = some v) :
    shape.Contains v := by
  obtain ⟨s, _, ⟨_, hfits⟩, rfl⟩ := exists_spelling_of_read? h
  exact hfits

theorem read_eq_ok_iff {shape : Shape} {value : Operand} {v : Int} :
    read shape value = .ok v ↔ ∃ t, value = .text t ∧ read? shape t = some v := by
  unfold read
  match value with
  | .empty => simp
  | .text t => cases hread : read? shape t <;> simp [hread]

/-- A wider shape reads what a narrower one reads. -/
theorem read?_of_narrower {narrow wide : Shape} {t : Text} {v : Int}
    (hsigned : narrow.signed = true → wide.signed = true) (hmin : wide.min ≤ narrow.min)
    (hmax : narrow.max ≤ wide.max) (h : read? narrow t = some v) : read? wide t = some v := by
  obtain ⟨s, rfl, ⟨hminus, hlow, hhigh⟩, rfl⟩ := exists_spelling_of_read? h
  refine Spelling.read?_toText ⟨fun hnegative => hsigned (hminus hnegative), ?_, ?_⟩
  · exact hmin.trans hlow
  · exact hhigh.trans hmax

end SizeFlags.Size
