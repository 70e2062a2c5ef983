import Mathlib.Data.List.DropRight
import SizeFlags.Text.Basic

set_option autoImplicit false

/-!
# Trimming and cutting

What trimming does to a text that is put together from parts.  Padding goes and
nothing else, a text that has no padding stays, and trimming first or cutting
first makes no difference as long as the mark is not trimmed itself.
-/

namespace SizeFlags.Text

variable {drop : Char → Bool} {t before after : Text} {c : Char}

/-- Neither end of a text is of the class. -/
structure Trimmed (drop : Char → Bool) (t : Text) : Prop where
  head : ∀ c ∈ t.head?, drop c = false
  last : ∀ c ∈ t.getLast?, drop c = false

instance (drop : Char → Bool) (t : Text) : Decidable (Trimmed drop t) :=
  decidable_of_iff ((t.head?.all fun c => !drop c) && t.getLast?.all fun c => !drop c) (by
    rw [Bool.and_eq_true, Option.all_eq_true, Option.all_eq_true]
    simp only [Bool.not_eq_true']
    exact ⟨fun h => ⟨h.1, h.2⟩, fun h => ⟨h.head, h.last⟩⟩)

theorem Trimmed.of_imp {other : Char → Bool} (h : Trimmed other t)
    (himp : ∀ c, drop c = true → other c = true) : Trimmed drop t := by
  have hnot : ∀ c, other c = false → drop c = false := by
    intro c hc
    rw [Bool.eq_false_iff]
    intro hdrop
    exact Bool.false_ne_true (hc.symm.trans (himp c hdrop))
  exact ⟨fun c hc => hnot c (h.head c hc), fun c hc => hnot c (h.last c hc)⟩

/-- A text between two characters that stay is not trimmed. -/
theorem trimmed_between (hc : drop c = false) (t : Text) : Trimmed drop ([c] ++ t ++ [c]) := by
  constructor
  · intro d hd
    obtain rfl : c = d := by simpa using hd
    exact hc
  · intro d hd
    rw [List.getLast?_concat] at hd
    obtain rfl : c = d := by simpa using hd
    exact hc

/-! ## One end -/

theorem trimEnd_eq_rdropWhile (drop : Char → Bool) (t : Text) :
    trimEnd drop t = t.rdropWhile drop := rfl

theorem trimStart_append_of_all (h : ∀ c ∈ before, drop c = true) :
    trimStart drop (before ++ t) = trimStart drop t :=
  List.dropWhile_append_of_pos h

theorem trimEnd_append_of_all (h : ∀ c ∈ after, drop c = true) :
    trimEnd drop (t ++ after) = trimEnd drop t := by
  have hreverse : ∀ c ∈ after.reverse, drop c = true := fun c hc => h c (List.mem_reverse.mp hc)
  rw [trimEnd, trimEnd, List.reverse_append, List.dropWhile_append_of_pos hreverse]

/-- A character that stays protects what is behind it. -/
theorem trimStart_append_cons (hc : drop c = false) :
    trimStart drop (before ++ c :: after) = trimStart drop before ++ c :: after := by
  have hstop : (c :: after).dropWhile drop = c :: after := by rw [List.dropWhile_cons, hc]; rfl
  rw [trimStart, trimStart, List.dropWhile_append, hstop]
  split
  · rename_i hempty
    rw [List.isEmpty_iff.mp hempty, List.nil_append]
  · rfl

theorem trimEnd_append_cons (hc : drop c = false) :
    trimEnd drop (before ++ c :: after) = before ++ c :: trimEnd drop after := by
  have hreverse : (before ++ c :: after).reverse = after.reverse ++ c :: before.reverse := by simp
  have hstart : (after.reverse ++ c :: before.reverse).dropWhile drop =
      after.reverse.dropWhile drop ++ c :: before.reverse := trimStart_append_cons hc
  rw [trimEnd, hreverse, hstart, trimEnd]
  simp

/-! ## Both ends -/

/-- Padding around a text does not count. -/
theorem trim_append_append (hbefore : ∀ c ∈ before, drop c = true)
    (hafter : ∀ c ∈ after, drop c = true) :
    trim drop (before ++ t ++ after) = trim drop t := by
  rw [trim, trim, List.append_assoc, trimStart_append_of_all hbefore, trimStart, trimStart,
    List.dropWhile_append]
  split
  · rename_i hempty
    rw [List.isEmpty_iff.mp hempty, List.dropWhile_eq_nil_iff.mpr hafter]
  · exact trimEnd_append_of_all hafter

theorem Trimmed.trim_eq (h : Trimmed drop t) : trim drop t = t := by
  have hstart : trimStart drop t = t := by
    cases t with
    | nil => rfl
    | cons c rest => rw [trimStart, List.dropWhile_cons, h.head c rfl]; rfl
  rw [trim, hstart, trimEnd_eq_rdropWhile, List.rdropWhile_eq_self_iff]
  intro hne
  rw [h.last _ (List.getLast?_eq_some_getLast hne)]
  exact Bool.false_ne_true

/-- A text without padding is found again inside of padding. -/
theorem Trimmed.trim_padded (h : Trimmed drop t) (hbefore : ∀ c ∈ before, drop c = true)
    (hafter : ∀ c ∈ after, drop c = true) : trim drop (before ++ t ++ after) = t := by
  rw [trim_append_append hbefore hafter, h.trim_eq]

theorem trim_trimStart (drop : Char → Bool) (t : Text) : trim drop (trimStart drop t) = trim drop t := by
  rw [trim, trim, trimStart, trimStart, List.dropWhile_idempotent]

theorem trim_trimEnd (drop : Char → Bool) (t : Text) : trim drop (trimEnd drop t) = trim drop t := by
  have hsplit : t = [] ++ trimEnd drop t ++ t.rtakeWhile drop :=
    List.rdropWhile_append_rtakeWhile.symm
  have hall : ∀ c ∈ t.rtakeWhile drop, drop c = true := fun c hc => List.mem_rtakeWhile_imp hc
  calc trim drop (trimEnd drop t) = trim drop ([] ++ trimEnd drop t ++ t.rtakeWhile drop) :=
        (trim_append_append (by simp) hall).symm
    _ = trim drop t := by rw [← hsplit]

theorem trim_trim (drop : Char → Bool) (t : Text) : trim drop (trim drop t) = trim drop t :=
  (trim_trimEnd drop (trimStart drop t)).trans (trim_trimStart drop t)

/-- Trimming shows the first character that is not dropped. -/
theorem head?_trim (drop : Char → Bool) (t : Text) :
    (trim drop t).head? = (trimStart drop t).head? := by
  cases hstart : trimStart drop t with
  | nil => rw [trim, hstart]; rfl
  | cons c rest =>
    have hc : drop c = false := by
      have hstop := List.head?_dropWhile_not drop t
      rwa [show t.dropWhile drop = c :: rest from hstart] at hstop
    have hend : trimEnd drop ([] ++ c :: rest) = [] ++ c :: trimEnd drop rest :=
      trimEnd_append_cons hc
    rw [trim, hstart, ← List.nil_append (c :: rest), hend]
    rfl

theorem mem_of_mem_trim (h : c ∈ trim drop t) : c ∈ t :=
  (List.dropWhile_suffix drop).mem ((List.rdropWhile_prefix drop _).mem h)

/-! ## Cutting -/

/-- Cutting a trimmed text trims the outer ends of the parts. -/
theorem cutAt?_trim {mark : Char} (hmark : drop mark = false) (t : Text) :
    cutAt? mark (trim drop t) =
      (cutAt? mark t).map fun parts => (trimStart drop parts.1, trimEnd drop parts.2) := by
  cases hcut : cutAt? mark t with
  | none =>
    have hnot : mark ∉ t := cutAt?_eq_none_iff.mp hcut
    exact cutAt?_eq_none_iff.mpr fun hmem => hnot (mem_of_mem_trim hmem)
  | some parts =>
    obtain ⟨rfl, hnot⟩ := eq_of_cutAt? hcut
    have hstart : mark ∉ trimStart drop parts.1 := fun hmem =>
      hnot ((List.dropWhile_suffix drop).mem hmem)
    rw [trim, trimStart_append_cons hmark, trimEnd_append_cons hmark, cutAt?_append _ hstart]
    rfl

end SizeFlags.Text
