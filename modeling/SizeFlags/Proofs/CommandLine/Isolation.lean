import SizeFlags.CommandLine.Isolation

set_option autoImplicit false

/-!
# Where isolation puts a negative size

Isolation leaves a command line as it is if nothing on it looks negative, or if
it has a separator already.  Otherwise it takes the first argument that looks
negative out of its place, so that the place makes no difference.
-/

namespace SizeFlags.CommandLine

theorem looksNegative_of_head?_ne {t : Text} (h : t.head? ≠ some '-') : looksNegative t = false := by
  unfold looksNegative
  split
  · exact absurd rfl h
  · rfl

/-- A second dash is no digit. -/
theorem looksNegative_of_two_dashes (rest : Text) : looksNegative ('-' :: '-' :: rest) = false := by
  rw [looksNegative]
  decide

theorem ne_separator_of_looksNegative {t : Text} (h : looksNegative t = true) : t ≠ separator := by
  rintro rfl
  exact Bool.false_ne_true ((looksNegative_of_two_dashes []).symm.trans h)

theorem isolate_of_separator_mem {arguments : List Text} (h : separator ∈ arguments) :
    isolate arguments = arguments := if_pos h

theorem isolate_of_not_looksNegative {arguments : List Text}
    (h : ∀ t ∈ arguments, looksNegative t = false) : isolate arguments = arguments := by
  have hfind : arguments.find? looksNegative = none := by
    rw [List.find?_eq_none]
    intro t ht
    rw [h t ht]
    exact Bool.false_ne_true
  unfold isolate moveNegative
  rw [hfind, ite_self]

theorem separator_mem_insert_iff {left right : List Text} {negative : Text}
    (hnegative : looksNegative negative = true) :
    separator ∈ left ++ negative :: right ↔ separator ∈ left ++ right := by
  rw [List.mem_append, List.mem_append, List.mem_cons,
    or_iff_right (ne_separator_of_looksNegative hnegative).symm]

/-- The first argument that looks negative ends up behind a separator, wherever it was. -/
theorem isolate_insert {left right : List Text} {negative : Text}
    (hseparator : separator ∉ left ++ right) (hplain : ∀ t ∈ left, looksNegative t = false)
    (hnegative : looksNegative negative = true) :
    isolate (left ++ negative :: right) = left ++ right ++ [separator, negative] := by
  have hleft : ∀ t ∈ left, ¬ looksNegative t = true := by
    intro t ht
    rw [hplain t ht]
    exact Bool.false_ne_true
  have hfind : (left ++ negative :: right).find? looksNegative = some negative := by
    rw [List.find?_append, List.find?_eq_none.mpr hleft, Option.none_or,
      List.find?_cons_of_pos hnegative]
  have herase : (left ++ negative :: right).eraseP looksNegative = left ++ right := by
    rw [List.eraseP_append_right _ hleft, List.eraseP_cons_of_pos hnegative]
  have hnone : separator ∉ left ++ negative :: right :=
    mt (separator_mem_insert_iff hnegative).mp hseparator
  rw [isolate, if_neg hnone, moveNegative, hfind, herase]

/-- Isolation leaves a command line as it is, or moves the first argument that looks negative
behind a new separator at its end. -/
theorem isolate_cases (arguments : List Text) :
    isolate arguments = arguments ∨
      ∃ left negative right, arguments = left ++ negative :: right ∧
        isolate arguments = left ++ right ++ [separator, negative] := by
  by_cases hseparator : separator ∈ arguments
  · exact Or.inl (isolate_of_separator_mem hseparator)
  · cases hfind : arguments.find? looksNegative with
    | none =>
      refine Or.inl (isolate_of_not_looksNegative fun t ht => ?_)
      exact Bool.eq_false_iff.mpr (List.find?_eq_none.mp hfind t ht)
    | some negative =>
      obtain ⟨hnegative, left, right, rfl, hleft⟩ := List.find?_eq_some_iff_append.mp hfind
      have hothers : separator ∉ left ++ right :=
        mt (separator_mem_insert_iff hnegative).mpr hseparator
      have hplain : ∀ t ∈ left, looksNegative t = false := fun t ht => by simpa using hleft t ht
      exact Or.inr ⟨left, negative, right, rfl, isolate_insert hothers hplain hnegative⟩

/-- No argument is lost or doubled; at most a separator is added. -/
theorem exists_perm_isolate (arguments : List Text) :
    ∃ added, (added = [] ∨ added = [separator]) ∧
      (isolate arguments).Perm (arguments ++ added) := by
  rcases isolate_cases arguments with hsame | ⟨left, negative, right, rfl, hmoved⟩
  · refine ⟨[], Or.inl rfl, ?_⟩
    rw [hsame, List.append_nil]
  · refine ⟨[separator], Or.inr rfl, ?_⟩
    rw [hmoved]
    have hswap : (left ++ right ++ [separator, negative]).Perm
        (negative :: (left ++ right ++ [separator])) := by
      rw [List.append_cons]
      exact List.perm_append_singleton negative _
    have hmiddle : (negative :: (left ++ right)).Perm (left ++ negative :: right) :=
      List.perm_middle.symm
    exact hswap.trans (hmiddle.append_right [separator])

theorem isolate_isolate (arguments : List Text) :
    isolate (isolate arguments) = isolate arguments := by
  rcases isolate_cases arguments with hsame | ⟨left, negative, right, _, hmoved⟩
  · rw [hsame, hsame]
  · refine isolate_of_separator_mem ?_
    rw [hmoved]
    exact List.mem_append_right _ List.mem_cons_self

end SizeFlags.CommandLine
