import SizeFlags.Proofs.Size.Spelling

set_option autoImplicit false

/-!
# The longest integer at the start of a text

What an integer at the start of a text may look like, said without the reader.  Several
starts of one text may do: a zero before a letter is one, and with a hexadecimal mark and
its digits so is more of the text.  Main statement: the reader takes the longest of them.
If nothing can be put behind a spelling, its digits end where the digits of the text end,
and a mark that could have been part of it is.
-/

namespace SizeFlags.Integer

open Size (Mark LetterCase)

/-- An integer of a radix as it is written: blanks, a sign, in the hexadecimal radix a mark,
and at least one digit. -/
structure Spelling (radix : Radix) where
  blanks : Text
  sign : Option Sign
  mark : Mark
  digits : Text
  isBlank : ∀ c ∈ blanks, Text.isAsciiBlank c = true
  hexadecimal_of_mark : mark ≠ none → radix = .hexadecimal
  digits_ne_nil : digits ≠ []
  mem_alphabet : ∀ c ∈ digits, c.toLower ∈ radix.alphabet

/-- A text starts with a minus sign, blanks apart. -/
def IsNegative (t : Text) : Prop :=
  ∃ blanks rest, t = blanks ++ '-' :: rest ∧ ∀ c ∈ blanks, Text.isAsciiBlank c = true

/-! ## Characters of an integer -/

theorem dropWhile_signText_append (sign : Option Sign) {c : Char} (rest : Text)
    (hc : Text.isAsciiBlank c = false) :
    (signText sign ++ c :: rest).dropWhile Text.isAsciiBlank = signText sign ++ c :: rest := by
  match sign with
  | none => exact List.dropWhile_cons_of_neg (by rw [hc]; exact Bool.false_ne_true)
  | some .plus => rfl
  | some .minus => rfl

namespace Spelling

variable {radix : Radix}

/-- The text of a spelling. -/
def toText (s : Spelling radix) : Text := s.blanks ++ signText s.sign ++ s.mark.toText ++ s.digits

/-- The integer that a spelling stands for. -/
def value (s : Spelling radix) : Int :=
  if s.sign = some .minus then -(radix.positional s.digits : Int) else radix.positional s.digits

/-- A text starts with the spelling and with no longer one. -/
structure IsLongest (s : Spelling radix) (t : Text) : Prop where
  isPrefix : s.toText <+: t
  length_le : ∀ other : Spelling radix, other.toText <+: t → other.toText.length ≤ s.toText.length

/-! ## How a spelling is read -/

/-- A spelling ends with a digit. -/
theorem mem_alphabet_of_getLast? {s : Spelling radix} {c : Char} (h : s.toText.getLast? = some c) :
    c.toLower ∈ radix.alphabet := by
  rw [toText, List.getLast?_append_of_ne_nil _ s.digits_ne_nil] at h
  exact s.mem_alphabet c (List.mem_of_getLast? h)

theorem exists_eq_cons (s : Spelling radix) :
    ∃ c rest, s.mark.toText ++ s.digits = c :: rest ∧ c.toLower ∈ radix.alphabet := by
  match hmark : s.mark with
  | none =>
    obtain ⟨c, rest, hdigits⟩ := List.exists_cons_of_ne_nil s.digits_ne_nil
    exact ⟨c, rest, hdigits, s.mem_alphabet c (by simp [hdigits])⟩
  | some letterCase =>
    have hradix : radix = .hexadecimal := s.hexadecimal_of_mark (by simp [hmark])
    subst hradix
    cases letterCase <;> exact ⟨'0', _, rfl, by decide⟩

/-- The blanks and the sign of a spelling are taken from the text that starts with it. -/
theorem takeSign_append (s : Spelling radix) (rest : Text) :
    takeSign ((s.toText ++ rest).dropWhile Text.isAsciiBlank) =
      (s.sign, s.mark.toText ++ (s.digits ++ rest)) := by
  obtain ⟨c, more, hbody, hc⟩ := s.exists_eq_cons
  obtain ⟨hblank, hplus, hminus⟩ := Radix.no_blank_or_sign_of_mem_alphabet hc
  have htext : s.toText ++ rest = s.blanks ++ (signText s.sign ++ c :: (more ++ rest)) := by
    simp only [toText, List.append_assoc, ← List.cons_append, ← hbody]
  have hrest : s.mark.toText ++ (s.digits ++ rest) = c :: (more ++ rest) := by
    rw [← List.append_assoc, hbody, List.cons_append]
  rw [htext, List.dropWhile_append_of_pos s.isBlank, dropWhile_signText_append _ _ hblank,
    takeSign_signText_append _ _ hplus hminus, hrest]

/-- What is behind the sign of a text is the start of a spelling if it starts with one
without a sign. -/
theorem exists_toText_append {t u : Text} {sign : Option Sign} (mark : Mark) (digits rest : Text)
    (hsign : takeSign (t.dropWhile Text.isAsciiBlank) = (sign, u))
    (hmark : mark ≠ none → radix = .hexadecimal) (hu : u = mark.toText ++ (digits ++ rest))
    (hne : digits ≠ []) (hdigits : ∀ c ∈ digits, radix.isDigit c = true) :
    ∃ s : Spelling radix, s.toText ++ rest = t := by
  refine ⟨⟨t.takeWhile Text.isAsciiBlank, sign, mark, digits,
    fun c hc => List.all_eq_true.mp List.all_takeWhile c hc, hmark, hne,
    fun c hc => Radix.isDigit_iff.mp (hdigits c hc)⟩, ?_⟩
  have ht : t.dropWhile Text.isAsciiBlank = signText sign ++ u := signText_append_of_takeSign hsign
  rw [hu] at ht
  calc _ = t.takeWhile Text.isAsciiBlank ++ (signText sign ++ (mark.toText ++ (digits ++ rest))) := by
        simp only [toText, List.append_assoc]
    _ = t := by rw [← ht, List.takeWhile_append_dropWhile]

theorem withSign_ofDigits (s : Spelling radix) : withSign s.sign (radix.ofDigits s.digits) = s.value := by
  rw [Radix.ofDigits_eq_positional s.mem_alphabet]
  rfl

/-! ## The longest spelling -/

variable {shape : Shape} {t : Text}

/-- A text that starts with a spelling starts with a longest one. -/
theorem exists_isLongest (s : Spelling radix) (hs : s.toText <+: t) :
    ∃ longest : Spelling radix, longest.IsLongest t := by
  classical
  let IsLength : Nat → Prop := fun n => ∃ other : Spelling radix, other.toText <+: t ∧ other.toText.length = n
  obtain ⟨longest, hprefix, hlength⟩ : IsLength (Nat.findGreatest IsLength t.length) :=
    Nat.findGreatest_spec hs.length_le ⟨s, hs, rfl⟩
  refine ⟨longest, hprefix, fun other hother => ?_⟩
  rw [hlength]
  exact Nat.le_findGreatest hother.length_le ⟨other, hother, rfl⟩

/-- Behind a longest spelling there is no digit. -/
theorem IsLongest.not_isDigit {s : Spelling radix} {rest : Text} (h : s.IsLongest (s.toText ++ rest)) :
    ∀ c ∈ rest.head?, radix.isDigit c = false := by
  intro c hc
  rw [Bool.eq_false_iff]
  intro hdigit
  obtain ⟨more, rfl⟩ : ∃ more, rest = c :: more := List.head?_eq_some_iff.mp hc
  have hdigits : ∀ d ∈ s.digits ++ [c], radix.isDigit d = true := by
    intro d hd
    rcases List.mem_append.mp hd with hd | hd
    · exact Radix.isDigit_iff.mpr (s.mem_alphabet d hd)
    · rwa [List.mem_singleton.mp hd]
  obtain ⟨longer, htext⟩ := exists_toText_append s.mark
    (s.digits ++ [c]) more (s.takeSign_append (c :: more)) s.hexadecimal_of_mark (by simp) (by simp)
    hdigits
  have hle := h.length_le longer ⟨more, htext⟩
  have hlength := congrArg List.length htext
  simp only [List.length_append, List.length_cons] at hlength
  omega

/-- A mark in front of digits is part of a longest spelling. -/
theorem IsLongest.dropMark {s : Spelling radix} {rest : Text} (h : s.IsLongest (s.toText ++ rest)) :
    dropMark radix (s.mark.toText ++ (s.digits ++ rest)) = s.digits ++ rest := by
  obtain ⟨first, others, hdigits⟩ := List.exists_cons_of_ne_nil s.digits_ne_nil
  have hfirst : radix.isDigit first = true :=
    Radix.isDigit_iff.mpr (s.mem_alphabet first (by simp [hdigits]))
  match hmark : s.mark with
  | some letterCase =>
    have hradix : radix = .hexadecimal := s.hexadecimal_of_mark (by simp [hmark])
    rw [hdigits]
    cases letterCase with
    | lower => exact dropMark_mark hradix (Or.inl rfl) hfirst
    | upper => exact dropMark_mark hradix (Or.inr rfl) hfirst
  | none =>
    rcases dropMark_cases radix (s.digits ++ rest) with hkept | ⟨x, c, more, hradix, hx, hc, htext, _⟩
    · exact hkept
    · -- the spelling is the zero of a mark; with the mark and a digit it would be longer
      obtain ⟨letterCase, hletter⟩ : ∃ letterCase : LetterCase,
          Mark.toText (some letterCase) = ['0', x] := by
        rcases hx with rfl | rfl
        · exact ⟨.lower, rfl⟩
        · exact ⟨.upper, rfl⟩
      have hdigit : ∀ d ∈ [c], radix.isDigit d = true := List.forall_mem_singleton.mpr hc
      have hsign := s.takeSign_append rest
      rw [hmark] at hsign
      obtain ⟨longer, hlonger⟩ := exists_toText_append (some letterCase) [c] more
        hsign (fun _ => hradix) (by rw [hletter]; exact htext) (by simp) hdigit
      have hshort : s.digits.length ≤ 1 := by
        by_contra hlong
        have hmore : others ≠ [] := by
          rintro rfl
          simp [hdigits] at hlong
        obtain ⟨second, others, rfl⟩ := List.exists_cons_of_ne_nil hmore
        rw [hdigits] at htext
        obtain ⟨_, htext⟩ := List.cons.inj htext
        obtain ⟨rfl, _⟩ := List.cons.inj htext
        have hsecond := s.mem_alphabet second (by simp [hdigits])
        rcases hx with rfl | rfl <;> cases radix <;> exact absurd hsecond (by decide)
      have hle := h.length_le longer ⟨more, hlonger⟩
      have hlength := congrArg List.length hlonger
      have hbody := congrArg List.length htext
      simp only [List.length_append, List.length_cons] at hlength hbody
      omega

/-- The reader takes a longest spelling, unless it refuses the minus sign. -/
theorem IsLongest.read? {s : Spelling radix} (h : s.IsLongest t)
    (hallowed : s.sign = some .minus → shape.signed = true) :
    Integer.read? radix shape t =
      if shape.Contains s.value then some ⟨s.value, s.toText.length⟩ else none := by
  obtain ⟨rest, rfl⟩ := h.isPrefix
  have hdigits : ∀ c ∈ s.digits, radix.isDigit c = true := fun c hc =>
    Radix.isDigit_iff.mpr (s.mem_alphabet c hc)
  rw [read?_of_digits (s.takeSign_append rest) h.dropMark s.digits_ne_nil hdigits h.not_isDigit,
    s.withSign_ofDigits, List.length_append, Nat.add_sub_cancel]
  exact if_congr (and_iff_right hallowed) rfl rfl

end Spelling

/-! ## The reader -/

section

variable {radix : Radix} {shape : Shape} {t u : Text} {sign : Option Sign}
variable (hsign : takeSign (t.dropWhile Text.isAsciiBlank) = (sign, u))
include hsign

theorem isNegative_iff : IsNegative t ↔ sign = some .minus := by
  constructor
  · rintro ⟨blanks, rest, rfl, hblanks⟩
    rw [List.dropWhile_append_of_pos hblanks] at hsign
    exact (Prod.mk.inj hsign).1.symm
  · rintro rfl
    refine ⟨t.takeWhile Text.isAsciiBlank, u, ?_, fun c hc => List.all_eq_true.mp List.all_takeWhile c hc⟩
    have ht : t.dropWhile Text.isAsciiBlank = '-' :: u := signText_append_of_takeSign hsign
    rw [← ht, List.takeWhile_append_dropWhile]

/-- Where there is no spelling, there is no digit behind the sign. -/
theorem not_isDigit_of_no_spelling (h : ∀ s : Spelling radix, ¬ s.toText <+: t) :
    ∀ c ∈ (dropMark radix u).head?, radix.isDigit c = false := by
  intro c hc
  rw [Bool.eq_false_iff]
  intro hdigit
  have hnone : ∀ (mark : Mark) (more : Text), (mark ≠ none → radix = .hexadecimal) →
      u ≠ mark.toText ++ ([c] ++ more) := by
    intro mark more hmark hu
    obtain ⟨s, htext⟩ := Spelling.exists_toText_append mark [c] more hsign hmark hu
      (by simp) (List.forall_mem_singleton.mpr hdigit)
    exact h s ⟨more, htext⟩
  rcases dropMark_cases radix u with hkept | ⟨x, d, more, hradix, hx, _, hu, hdropped⟩
  · rw [hkept] at hc
    obtain ⟨more, rfl⟩ := List.head?_eq_some_iff.mp hc
    exact hnone none more (by simp) rfl
  · rw [hdropped] at hc
    obtain rfl : d = c := by simpa using hc
    rcases hx with rfl | rfl
    · exact hnone (some .lower) more (fun _ => hradix) hu
    · exact hnone (some .upper) more (fun _ => hradix) hu

end

/-- The reader refuses a minus sign for a shape that has none, whatever follows.  Otherwise it
takes the longest spelling that the text starts with, and refuses its value if that does
not fit; and a text that starts with no spelling is read as zero, from no characters. -/
theorem read?_eq_longest (radix : Radix) (shape : Shape) (t : Text) :
    (IsNegative t ∧ shape.signed = false → read? radix shape t = none) ∧
    (¬ (IsNegative t ∧ shape.signed = false) →
      ((∀ s : Spelling radix, ¬ s.toText <+: t) → read? radix shape t = some ⟨0, 0⟩) ∧
      ∀ s : Spelling radix, s.IsLongest t →
        read? radix shape t =
          if shape.min ≤ s.value ∧ s.value ≤ shape.max then some ⟨s.value, s.toText.length⟩
          else none) ∧
    ((∃ s : Spelling radix, s.toText <+: t) → ∃ s : Spelling radix, s.IsLongest t) := by
  obtain ⟨sign, u, hsign⟩ : ∃ sign u, takeSign (t.dropWhile Text.isAsciiBlank) = (sign, u) :=
    ⟨_, _, rfl⟩
  rw [isNegative_iff hsign]
  refine ⟨?refused, ?allowed, fun ⟨s, hs⟩ => s.exists_isLongest hs⟩
  case refused =>
    intro hrefused
    simp only [read?, hsign, hrefused, and_self, if_true]
  case allowed =>
    rw [refused_iff, not_not]
    intro hallowed
    refine ⟨fun hnone => ?_, fun s hs => ?_⟩
    · rw [read?_of_no_digit hsign (not_isDigit_of_no_spelling hsign hnone), if_pos hallowed]
    · obtain ⟨rest, hrest⟩ := hs.isPrefix
      have hsame : s.sign = sign := by
        have htaken := s.takeSign_append rest
        rw [hrest, hsign] at htaken
        exact (Prod.mk.inj htaken).1.symm
      exact hs.read? (hsame ▸ hallowed)

/-- With a mark in front of its digits a spelling is longer than the zero of the mark alone. -/
theorem read?_eq_longest_marked :
    ∃ s : Spelling .hexadecimal, s.toText = "\t-0x1F".toList ∧ s.IsLongest "\t-0x1Fg".toList ∧
      ¬ (IsNegative "\t-0x1Fg".toList ∧ Shape.int32.signed = false) ∧
      read? .hexadecimal .int32 "\t-0x1Fg".toList = some ⟨-31, 6⟩ := by
  let s : Spelling .hexadecimal :=
    { blanks := ['\t'], sign := some .minus, mark := some .lower, digits := ['1', 'F']
      isBlank := List.forall_mem_singleton.mpr (by decide)
      hexadecimal_of_mark := fun _ => rfl
      digits_ne_nil := List.cons_ne_nil _ _
      mem_alphabet := List.forall_mem_cons.mpr ⟨by decide, List.forall_mem_singleton.mpr (by decide)⟩ }
  have hlongest : s.IsLongest "\t-0x1Fg".toList := by
    refine ⟨⟨['g'], rfl⟩, fun other hother => ?_⟩
    by_contra hlonger
    have hwhole : other.toText = "\t-0x1Fg".toList :=
      hother.eq_of_length_le (Nat.succ_le_of_lt (Nat.lt_of_not_le hlonger))
    have hlast : other.toText.getLast? = some 'g' := by rw [hwhole]; rfl
    exact absurd (Spelling.mem_alphabet_of_getLast? hlast) (by decide)
  have hnegative : ¬ (IsNegative "\t-0x1Fg".toList ∧ Shape.int32.signed = false) :=
    fun h => absurd h.2 (by decide)
  exact ⟨s, rfl, hlongest, hnegative,
    (((read?_eq_longest .hexadecimal .int32 "\t-0x1Fg".toList).2.1 hnegative).2 s hlongest).trans rfl⟩

end SizeFlags.Integer
