import SizeFlags.Proofs.Size.Scaling

set_option autoImplicit false

/-!
# Scaling in machine words

A machine keeps an integer in a word of the shape's width.  A word is a residue: its
products are taken modulo the number of words, and it is read as the integer of the shape
that has this residue.  Steps of 1024 give the same in words as over the integers, since a
product is only taken where it fits.  Main statement: when a run of steps succeeds, what it
gives, and that a machine gives the same after every step.
-/

namespace SizeFlags

namespace Shape

/-- A machine word of the shape's width. -/
abbrev Word (shape : Shape) : Type := BitVec shape.width.bits

/-- The word that an integer is kept in. -/
def toWord (shape : Shape) (n : Int) : shape.Word := BitVec.ofInt shape.width.bits n

/-- The integer that a word is read as. -/
def ofWord (shape : Shape) (word : shape.Word) : Int :=
  if shape.signed then word.toInt else word.toNat

theorem bounds_of_signed {shape : Shape} {n : Int} (hsigned : shape.signed = true)
    (h : shape.Contains n) :
    -((2 ^ shape.width.bits : Nat) : Int) ≤ n * 2 ∧ n * 2 < ((2 ^ shape.width.bits : Nat) : Int) := by
  obtain ⟨name, width, signed⟩ := shape
  obtain rfl : signed = true := hsigned
  cases width <;> simp [Contains, min, max, Width.bits] at h ⊢ <;> omega

theorem bounds_of_unsigned {shape : Shape} {n : Int} (hsigned : shape.signed = false)
    (h : shape.Contains n) : 0 ≤ n ∧ n < ((2 ^ shape.width.bits : Nat) : Int) := by
  obtain ⟨name, width, signed⟩ := shape
  obtain rfl : signed = false := hsigned
  cases width <;> simp [Contains, min, max, Width.bits] at h ⊢ <;> omega

/-- An integer of the shape is read back from its word. -/
theorem ofWord_toWord {shape : Shape} {n : Int} (h : shape.Contains n) :
    shape.ofWord (shape.toWord n) = n := by
  rw [ofWord, toWord]
  cases hsigned : shape.signed with
  | true =>
    obtain ⟨hlow, hhigh⟩ := bounds_of_signed hsigned h
    rw [if_pos rfl, BitVec.toInt_ofInt]
    exact Int.bmod_eq_of_le_mul_two hlow hhigh
  | false =>
    obtain ⟨hlow, hhigh⟩ := bounds_of_unsigned hsigned h
    rw [if_neg Bool.false_ne_true, BitVec.toNat_ofInt, Int.emod_eq_of_lt hlow hhigh]
    exact Int.toNat_of_nonneg hlow

end Shape

namespace Size

variable {shape : Shape} {n : Int}

/-- Multiply by 1024 in words, between the same bounds as over the integers. -/
def wordStep (shape : Shape) (word : shape.Word) : Option shape.Word :=
  if shape.min.fdiv 1024 ≤ shape.ofWord word ∧ shape.ofWord word ≤ shape.max.fdiv 1024 then
    some (word * 1024)
  else none

/-- Multiply by 1024 in words a number of times, and stop where a step does. -/
def wordScale (shape : Shape) : (steps : Nat) → shape.Word → Option shape.Word
  | 0, word => some word
  | steps + 1, word => (wordStep shape word).bind (wordScale shape steps)

theorem wordStep_toWord (hn : shape.Contains n) :
    wordStep shape (shape.toWord n) = (step shape n).map shape.toWord := by
  have hproduct : shape.toWord n * 1024 = shape.toWord (n * 1024) := (BitVec.ofInt_mul n 1024).symm
  rw [wordStep, step, Shape.ofWord_toWord hn, hproduct]
  split <;> rfl

/-- What a run gives fits, and so does what it gives on the way. -/
theorem contains_of_scale {steps : Nat} {product : Int} (hn : shape.Contains n)
    (h : scale shape steps n = some product) : shape.Contains product :=
  ((scale_eq_some_iff hn).mp h).2

/-- A run in words goes through the words of the products. -/
theorem wordScale_toWord (steps : Nat) (hn : shape.Contains n) :
    wordScale shape steps (shape.toWord n) = (scale shape steps n).map shape.toWord := by
  induction steps generalizing n with
  | zero => rfl
  | succ steps ih =>
    rw [wordScale, scale, wordStep_toWord hn, step_eq]
    split
    · rename_i hproduct
      exact ih hproduct
    · rfl

theorem map_ofWord_wordScale (steps : Nat) (hn : shape.Contains n) :
    (wordScale shape steps (shape.toWord n)).map shape.ofWord = scale shape steps n := by
  rw [wordScale_toWord steps hn]
  cases hscale : scale shape steps n with
  | none => rfl
  | some product => exact congrArg some (Shape.ofWord_toWord (contains_of_scale hn hscale))

/-- Steps of 1024 succeed exactly if their whole product fits, and then give it, wherever they
start.  From an integer of the shape all products on the way fit too, so that a machine that
multiplies modulo the number of words has the same answer after every number of steps. -/
theorem scale_exact (shape : Shape) (n : Int) :
    (∀ steps, 1 ≤ steps →
      scale shape steps n =
        if shape.min ≤ n * 1024 ^ steps ∧ n * 1024 ^ steps ≤ shape.max then
          some (n * 1024 ^ steps)
        else none) ∧
    (shape.min ≤ n → n ≤ shape.max → ∀ steps,
      (∀ product, scale shape steps n = some product →
        shape.min ≤ product ∧ product ≤ shape.max) ∧
      (wordScale shape steps (shape.toWord n)).map shape.ofWord = scale shape steps n) := by
  constructor
  · intro steps hsteps
    obtain ⟨steps, rfl⟩ := Nat.exists_eq_add_of_le' hsteps
    exact scale_succ_eq shape steps n
  · intro hmin hmax steps
    have hn : shape.Contains n := ⟨hmin, hmax⟩
    exact ⟨fun product hscale => contains_of_scale hn hscale, map_ofWord_wordScale steps hn⟩

/-- Two steps end at the least integer of the shape, and a machine does not wrap there. -/
theorem scale_exact_least :
    1 ≤ 2 ∧ Shape.int32.min ≤ -2048 ∧ -2048 ≤ Shape.int32.max ∧
      scale .int32 2 (-2048) = some Shape.int32.min ∧
      (wordScale .int32 2 (Shape.int32.toWord (-2048))).map Shape.int32.ofWord =
        some Shape.int32.min := by
  have hmin : Shape.int32.min ≤ -2048 := by decide
  have hmax : -2048 ≤ Shape.int32.max := by decide
  obtain ⟨hproduct, hwords⟩ := scale_exact .int32 (-2048)
  have hscale : scale .int32 2 (-2048) = some Shape.int32.min :=
    (hproduct 2 (by decide)).trans (by decide)
  exact ⟨by decide, hmin, hmax, hscale, (hwords hmin hmax 2).2.trans hscale⟩

end Size

end SizeFlags
