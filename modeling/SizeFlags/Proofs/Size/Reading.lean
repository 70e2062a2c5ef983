import SizeFlags.Integer.Reading

set_option autoImplicit false

/-!
# The integer at the start of a text

The reader of integers in two equations, one for a text with digits behind its
blanks, sign and mark, and one for a text without.  Every text is one or the
other, since the digits taken and what they leave make up the text again.
-/

namespace SizeFlags.Integer

/-! ## Signs and marks -/

/-- How a sign is written. -/
def signText : Option Sign → Text
  | none => []
  | some .plus => ['+']
  | some .minus => ['-']

/-- Taking a sign loses nothing. -/
theorem signText_append_of_takeSign {t u : Text} {sign : Option Sign}
    (h : takeSign t = (sign, u)) : t = signText sign ++ u := by
  unfold takeSign at h
  split at h
  · obtain ⟨rfl, rfl⟩ := Prod.mk.inj h
    rfl
  · obtain ⟨rfl, rfl⟩ := Prod.mk.inj h
    rfl
  · obtain ⟨rfl, rfl⟩ := Prod.mk.inj h
    rfl

/-- A sign that is written is taken, if no other one follows. -/
theorem takeSign_signText_append (sign : Option Sign) {c : Char} (rest : Text) (hplus : c ≠ '+')
    (hminus : c ≠ '-') : takeSign (signText sign ++ c :: rest) = (sign, c :: rest) := by
  match sign with
  | some .plus => rfl
  | some .minus => rfl
  | none =>
    rw [signText, List.nil_append]
    unfold takeSign
    split
    · rename_i heq
      exact absurd (List.cons.inj heq).1 hplus
    · rename_i heq
      exact absurd (List.cons.inj heq).1 hminus
    · rfl

/-- A mark is dropped or the text is left as it is. -/
theorem dropMark_cases (radix : Radix) (t : Text) :
    dropMark radix t = t ∨
      ∃ x c rest, radix = .hexadecimal ∧ (x = 'x' ∨ x = 'X') ∧ radix.isDigit c = true ∧
        t = '0' :: x :: c :: rest ∧ dropMark radix t = c :: rest := by
  unfold dropMark
  split
  · rename_i x c rest
    split
    · rename_i h
      exact Or.inr ⟨x, c, rest, rfl, h.1, h.2, rfl, rfl⟩
    · exact Or.inl rfl
  · exact Or.inl rfl

theorem dropMark_mark {radix : Radix} {x c : Char} {rest : Text} (hradix : radix = .hexadecimal)
    (hx : x = 'x' ∨ x = 'X') (hc : radix.isDigit c = true) :
    dropMark radix ('0' :: x :: c :: rest) = c :: rest := by
  subst hradix
  rw [dropMark, if_pos ⟨hx, hc⟩]

/-- What is left of a text without its mark stands at its end. -/
theorem dropMark_isSuffix (radix : Radix) (t : Text) : dropMark radix t <:+ t := by
  rcases dropMark_cases radix t with h | ⟨x, c, rest, _, _, _, ht, h⟩
  · exact ⟨[], h⟩
  · rw [h, ht]
    exact ⟨['0', x], rfl⟩

/-! ## The two equations of the reader -/

section

variable {radix : Radix} {shape : Shape} {t u : Text} {sign : Option Sign}

/-- What follows the sign stands at the end of the text. -/
theorem isSuffix_of_takeSign (h : takeSign (t.dropWhile Text.isAsciiBlank) = (sign, u)) :
    u <:+ t := by
  have hsign : t.dropWhile Text.isAsciiBlank = signText sign ++ u := signText_append_of_takeSign h
  have hsuffix : u <:+ t.dropWhile Text.isAsciiBlank := by
    rw [hsign]
    exact List.suffix_append _ _
  exact hsuffix.trans (List.dropWhile_suffix _)

/-- A minus sign is refused where the shape has no sign. -/
theorem refused_iff :
    (sign = some .minus ∧ shape.signed = false) ↔ ¬ (sign = some .minus → shape.signed = true) := by
  simp

/-- Digits are read to their end, and refused if they do not fit. -/
theorem read?_of_digits {digits rest : Text}
    (hsign : takeSign (t.dropWhile Text.isAsciiBlank) = (sign, u))
    (hbody : dropMark radix u = digits ++ rest) (hne : digits ≠ [])
    (hdigits : ∀ c ∈ digits, radix.isDigit c = true)
    (hrest : ∀ c ∈ rest.head?, radix.isDigit c = false) :
    read? radix shape t =
      if (sign = some .minus → shape.signed = true) ∧
          shape.Contains (withSign sign (radix.ofDigits digits)) then
        some ⟨withSign sign (radix.ofDigits digits), t.length - rest.length⟩
      else none := by
  have htake : (digits ++ rest).takeWhile radix.isDigit = digits := by
    rw [List.takeWhile_append_of_pos hdigits]
    cases rest with
    | nil => simp
    | cons c rest => simp [hrest c (by simp)]
  have hlength : (digits ++ rest).length - digits.length = rest.length := by simp
  simp only [read?, hsign, hbody, htake, hne, if_false, hlength, refused_iff]
  by_cases hallowed : sign = some .minus → shape.signed = true
  · rw [if_neg (not_not_intro hallowed)]
    by_cases hfits : shape.Contains (withSign sign (radix.ofDigits digits))
    · rw [if_pos hfits, if_pos ⟨hallowed, hfits⟩]
    · rw [if_neg hfits, if_neg fun h => hfits h.2]
  · rw [if_pos hallowed, if_neg fun h => hallowed h.1]

/-- Without a digit nothing is read. -/
theorem read?_of_no_digit (hsign : takeSign (t.dropWhile Text.isAsciiBlank) = (sign, u))
    (hbody : ∀ c ∈ (dropMark radix u).head?, radix.isDigit c = false) :
    read? radix shape t =
      if sign = some .minus → shape.signed = true then some ⟨0, 0⟩ else none := by
  have htake : (dropMark radix u).takeWhile radix.isDigit = [] := by
    cases hcase : dropMark radix u with
    | nil => rfl
    | cons c rest => simp [hbody c (by simp [hcase])]
  simp only [read?, hsign, htake, if_true, refused_iff]
  by_cases hallowed : sign = some .minus → shape.signed = true
  · rw [if_neg (not_not_intro hallowed), if_pos hallowed]
  · rw [if_pos hallowed, if_neg hallowed]

/-- A reading that took characters took digits that fit; what it left is behind
its length. -/
theorem exists_digits_of_read? {reading : Reading} (h : read? radix shape t = some reading)
    (hlength : reading.length ≠ 0) :
    ∃ (sign : Option Sign) (u digits : Text),
      takeSign (t.dropWhile Text.isAsciiBlank) = (sign, u) ∧
      dropMark radix u = digits ++ t.drop reading.length ∧ digits ≠ [] ∧
      (∀ c ∈ digits, radix.isDigit c = true) ∧
      (sign = some .minus → shape.signed = true) ∧
      reading.value = withSign sign (radix.ofDigits digits) ∧ shape.Contains reading.value := by
  obtain ⟨sign, u, hsign⟩ : ∃ sign u, takeSign (t.dropWhile Text.isAsciiBlank) = (sign, u) :=
    ⟨_, _, rfl⟩
  have hbody : dropMark radix u = (dropMark radix u).takeWhile radix.isDigit ++
      (dropMark radix u).dropWhile radix.isDigit := List.takeWhile_append_dropWhile.symm
  have hdigits : ∀ c ∈ (dropMark radix u).takeWhile radix.isDigit, radix.isDigit c = true :=
    fun c hc => List.all_eq_true.mp List.all_takeWhile c hc
  have hrest : ∀ c ∈ ((dropMark radix u).dropWhile radix.isDigit).head?, radix.isDigit c = false := by
    intro c hc
    have hstop := List.head?_dropWhile_not radix.isDigit (dropMark radix u)
    rwa [Option.mem_def.mp hc] at hstop
  by_cases hne : (dropMark radix u).takeWhile radix.isDigit = []
  · have hnone : ∀ c ∈ (dropMark radix u).head?, radix.isDigit c = false := by
      rw [hne, List.nil_append] at hbody
      rwa [← hbody] at hrest
    rw [read?_of_no_digit hsign hnone] at h
    split at h
    · obtain rfl := Option.some.inj h
      exact absurd rfl hlength
    · simp at h
  · rw [read?_of_digits hsign hbody hne hdigits hrest] at h
    split at h
    · rename_i hfits
      obtain rfl := Option.some.inj h
      have hsuffix : (dropMark radix u).dropWhile radix.isDigit <:+ t :=
        (List.dropWhile_suffix _).trans ((dropMark_isSuffix radix u).trans
          (isSuffix_of_takeSign hsign))
      refine ⟨sign, u, _, hsign, ?_, hne, hdigits, hfits.1, rfl, hfits.2⟩
      rw [← List.suffix_iff_eq_drop.mp hsuffix]
      exact hbody
    · simp at h

end

end SizeFlags.Integer
