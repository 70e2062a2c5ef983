import Mathlib.Tactic.Linarith
import Mathlib.Tactic.Ring
import SizeFlags.Size

set_option autoImplicit false

/-!
# Scaling by powers of 1024

A step of 1024 tests the factor against bounds that are divided downwards; here
it is shown to test the product.  A run of steps gives up at the first product
that does not fit.  That is no earlier than it must be: a shape holds zero, so
with a product it holds every factor that lies nearer to zero.
-/

namespace SizeFlags

namespace Shape

theorem min_nonpos (shape : Shape) : shape.min ≤ 0 := shape.contains_zero.1

theorem max_nonneg (shape : Shape) : 0 ≤ shape.max := shape.contains_zero.2

/-- The lower bound is a multiple of 1024, so dividing it loses nothing. -/
theorem dvd_min (shape : Shape) : (1024 : Int) ∣ shape.min := by
  obtain ⟨name, width, signed⟩ := shape
  cases width <;> cases signed <;> simp [min, Width.bits]

/-- A shape that holds a multiple of an integer holds the integer. -/
theorem contains_of_contains_mul {shape : Shape} {n factor : Int} (hfactor : 0 < factor)
    (h : shape.Contains (n * factor)) : shape.Contains n := by
  have hmin : shape.min ≤ 0 := shape.min_nonpos
  have hmax : 0 ≤ shape.max := shape.max_nonneg
  obtain ⟨hlow, hhigh⟩ := h
  rcases Int.le_total 0 n with hn | hn
  · have hle : n ≤ n * factor := le_mul_of_one_le_right hn hfactor
    exact ⟨by omega, by omega⟩
  · have hle : n * factor ≤ n := mul_le_of_one_le_right hn hfactor
    exact ⟨by omega, by omega⟩

end Shape

namespace Size

/-- A step succeeds exactly if the product fits. -/
theorem step_eq (shape : Shape) (n : Int) :
    step shape n = if shape.Contains (n * 1024) then some (n * 1024) else none := by
  have hlow : shape.min.fdiv 1024 ≤ n ↔ shape.min ≤ n * 1024 := by
    obtain ⟨quotient, hquotient⟩ := shape.dvd_min
    rw [hquotient, Int.fdiv_eq_ediv_of_nonneg _ (by omega)]
    omega
  have hhigh : n ≤ shape.max.fdiv 1024 ↔ n * 1024 ≤ shape.max := by
    rw [Int.fdiv_eq_ediv_of_nonneg _ (by omega)]
    omega
  by_cases h : shape.Contains (n * 1024)
  · rw [if_pos h, step, if_pos ⟨hlow.mpr h.1, hhigh.mpr h.2⟩]
  · rw [if_neg h, step, if_neg fun hbounds => h ⟨hlow.mp hbounds.1, hhigh.mp hbounds.2⟩]

/-- Steps of 1024 succeed exactly if their whole product fits, and give it. -/
theorem scale_succ_eq (shape : Shape) (steps : Nat) (n : Int) :
    scale shape (steps + 1) n =
      if shape.Contains (n * 1024 ^ (steps + 1)) then some (n * 1024 ^ (steps + 1)) else none := by
  induction steps generalizing n with
  | zero =>
    rw [scale, step_eq, Nat.zero_add, pow_one]
    split <;> rfl
  | succ steps ih =>
    have hproduct : n * 1024 * 1024 ^ (steps + 1) = n * 1024 ^ (steps + 1 + 1) := by ring
    rw [scale, step_eq]
    split
    · rw [Option.bind_some, ih, hproduct]
    · rename_i hstep
      -- the run ends early here, so the whole product must not fit either
      have hwhole : ¬ shape.Contains (n * 1024 ^ (steps + 1 + 1)) := by
        intro h
        rw [← hproduct] at h
        exact hstep (Shape.contains_of_contains_mul (by positivity) h)
      rw [if_neg hwhole]
      rfl

/-- From an integer that fits, any number of steps succeeds exactly if the whole
product fits. -/
theorem scale_eq_some_iff {shape : Shape} {steps : Nat} {n product : Int}
    (hn : shape.Contains n) :
    scale shape steps n = some product ↔
      product = n * 1024 ^ steps ∧ shape.Contains product := by
  cases steps with
  | zero =>
    rw [scale, pow_zero, mul_one, Option.some.injEq]
    constructor
    · rintro rfl
      exact ⟨rfl, hn⟩
    · rintro ⟨h, _⟩
      exact h.symm
  | succ steps =>
    rw [scale_succ_eq]
    split
    · rename_i hfits
      rw [Option.some.injEq]
      constructor
      · rintro rfl
        exact ⟨rfl, hfits⟩
      · rintro ⟨h, _⟩
        exact h.symm
    · rename_i hfits
      constructor
      · intro h
        exact absurd h (by simp)
      · rintro ⟨rfl, h⟩
        exact absurd h hfits

end Size

end SizeFlags
