import SizeFlags.Proofs.Size.Grammar

set_option autoImplicit false

/-!
# Marks and the choice of the radix

The radix of a size is told from single characters, and behind a minus sign the test for
an `X` looks one place too far.  Main statement: no size is read differently for it.  What
only this test takes for hexadecimal has an `X` as its fourth character, and is refused in
either radix.
-/

namespace SizeFlags.Size

/-! ## Marks -/

/-- The starts that mark a size as hexadecimal. -/
def marks : List Text := ["0x".toList, "0X".toList, "-0x".toList]

/-- The text starts with a mark. -/
def isMarked (t : Text) : Bool := marks.any fun mark => mark.isPrefixOf t

/-- Read a size of a shape as hexadecimal exactly if it starts with a mark. -/
def readMarked? (shape : Shape) (t : Text) : Option Int :=
  readIn? (if isMarked t then .hexadecimal else .decimal) shape t

theorem isMarked_iff {t : Text} : isMarked t = true ↔ ∃ mark ∈ marks, ∃ rest, t = mark ++ rest := by
  rw [isMarked, List.any_eq_true]
  simp only [List.isPrefixOf_iff_prefix, List.prefix_iff_exists_eq_append]

theorem isHexadecimal_of_isMarked {t : Text} (h : isMarked t = true) : isHexadecimal t = true := by
  obtain ⟨mark, hmark, rest, rfl⟩ := isMarked_iff.mp h
  simp only [marks, List.mem_cons, List.not_mem_nil, or_false] at hmark
  rcases hmark with rfl | rfl | rfl <;> rfl

/-- Without a mark only an `X` behind a minus sign, a zero and one more character counts. -/
theorem isHexadecimal_cases {t : Text} (h : isHexadecimal t = true) :
    isMarked t = true ∨ ∃ c rest, t = '-' :: '0' :: c :: 'X' :: rest := by
  have hmarked : ∀ mark ∈ marks, ∀ rest, isMarked (mark ++ rest) = true :=
    fun mark hmark rest => isMarked_iff.mpr ⟨mark, hmark, rest, rfl⟩
  simp only [isHexadecimal, Bool.or_eq_true, Bool.and_eq_true, decide_eq_true_eq] at h
  rcases t with _ | ⟨a, _ | ⟨b, rest⟩⟩
  · simp at h
  · simp at h
  · simp only [List.getElem?_cons_zero, List.getElem?_cons_succ, Option.some.injEq] at h
    rcases h with ⟨rfl, rfl | rfl⟩ | ⟨⟨rfl, rfl⟩, hthird | hfourth⟩
    · exact Or.inl (hmarked ['0', 'x'] (by decide) rest)
    · exact Or.inl (hmarked ['0', 'X'] (by decide) rest)
    · obtain ⟨rest, rfl⟩ := List.head?_eq_some_iff.mp (List.head?_eq_getElem?.trans hthird)
      exact Or.inl (hmarked ['-', '0', 'x'] (by decide) rest)
    · obtain ⟨c, rest, rfl⟩ : ∃ c more, rest = c :: more := by
        refine List.exists_cons_of_ne_nil ?_
        rintro rfl
        simp at hfourth
      obtain ⟨rest, rfl⟩ := List.head?_eq_some_iff.mp (List.head?_eq_getElem?.trans hfourth)
      exact Or.inr ⟨c, rest, rfl⟩

/-! ## An `X` as the fourth character -/

/-- The `X` is no digit and no unit, and it stands where a mark has its first digit. -/
theorem readIn?_of_upper (radix : Radix) (shape : Shape) (c : Char) (rest : Text) :
    readIn? radix shape ('-' :: '0' :: c :: 'X' :: rest) = none := by
  rw [Option.eq_none_iff_forall_ne_some]
  intro v hread
  obtain ⟨negative, u, digits, suffix, ht, _, hbody, _, hdigits, _⟩ := exists_parts_of_readIn? hread
  rcases Integer.dropMark_cases radix u with hkept | ⟨x, d, more, rfl, _, hd, rfl, _⟩
  · have hupper : 'X' ∈ u := by
      have hmem : 'X' ∈ (if negative then ['-'] else []) ++ u := by
        rw [← ht]
        simp
      cases negative <;> simpa using hmem
    rw [← hkept, hbody] at hupper
    exact not_mem_digits_append hdigits (Or.inr rfl) hupper
  · cases negative with
    | false => exact absurd (List.cons.inj ht).1 (by decide)
    | true =>
      obtain rfl : 'X' = d := by
        simp only [if_true, List.singleton_append, List.cons.injEq] at ht
        exact ht.2.2.2.1
      exact absurd hd (by decide)

/-- Every text is read with the same value, or refused, as if the radix were chosen by the
mark alone. -/
theorem read?_eq_readMarked? (shape : Shape) (t : Text) : read? shape t = readMarked? shape t := by
  rw [read?, readMarked?, radixOf]
  cases hmark : isMarked t with
  | true => rw [if_pos (isHexadecimal_of_isMarked hmark), if_pos rfl]
  | false =>
    cases hhexadecimal : isHexadecimal t with
    | false => rfl
    | true =>
      -- the radices differ here, and neither reads the text
      rcases isHexadecimal_cases hhexadecimal with hmarked | ⟨c, rest, rfl⟩
      · exact absurd (hmark.symm.trans hmarked) Bool.false_ne_true
      · rw [readIn?_of_upper, readIn?_of_upper]

end SizeFlags.Size
