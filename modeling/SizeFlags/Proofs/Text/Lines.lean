import SizeFlags.Text.Lines

set_option autoImplicit false

/-!
# Lines of texts that are put together

A line with a break behind it is the first line of its text.  Only the carriage
return looks ahead: before a line feed it does not break.  Lines that hold no
break are therefore read back from the text that they are written to.
-/

namespace SizeFlags.Text

/-- The breaks between two lines: one character that ends a line, or a carriage
return and a line feed. -/
def breaks : List Text := lineBreaks.map (fun c => [c]) ++ [['\r', '\n']]

/-- A text that stands on one line. -/
def Unbroken (t : Text) : Prop := ∀ c ∈ t, isLineBreak c = false

-- the instance is named: a search could also find one that goes through all characters
instance (t : Text) : Decidable (Unbroken t) :=
  List.decidableBAll (fun c => isLineBreak c = false) t

/-- A class that no line break is of has no line breaks. -/
theorem not_isLineBreak_of_all {p : Char → Bool} (hbreaks : lineBreaks.all (fun c => !p c) = true)
    {c : Char} (hc : p c = true) : isLineBreak c = false := by
  rw [Bool.eq_false_iff]
  intro hbreak
  have hmem : c ∈ lineBreaks := List.contains_iff_mem.mp hbreak
  have hnone : (!p c) = true := List.all_eq_true.mp hbreaks c hmem
  rw [hc] at hnone
  exact Bool.false_ne_true hnone

theorem unbroken_nil : Unbroken [] := fun _ hc => absurd hc List.not_mem_nil

theorem unbroken_append {t u : Text} : Unbroken (t ++ u) ↔ Unbroken t ∧ Unbroken u := by
  simp only [Unbroken, List.mem_append]
  constructor
  · intro h
    exact ⟨fun c hc => h c (Or.inl hc), fun c hc => h c (Or.inr hc)⟩
  · rintro ⟨ht, hu⟩ c (hc | hc)
    · exact ht c hc
    · exact hu c hc

theorem unbroken_cons {c : Char} {t : Text} :
    Unbroken (c :: t) ↔ isLineBreak c = false ∧ Unbroken t := by
  simp only [Unbroken, List.mem_cons, forall_eq_or_imp]

theorem Unbroken.of_subset {t u : Text} (h : Unbroken u) (hsubset : ∀ c ∈ t, c ∈ u) : Unbroken t :=
  fun c hc => h c (hsubset c hc)

theorem unbroken_of_mem_lines {t line : Text} (h : line ∈ lines t) : Unbroken line :=
  fun _ hc => not_isLineBreak_of_mem_lines h hc

/-- A text with a break falls into its first line, the break, and what is behind. -/
theorem exists_break_of_not_unbroken {t : Text} (h : ¬ Unbroken t) :
    ∃ line c rest, t = line ++ c :: rest ∧ Unbroken line ∧ isLineBreak c = true := by
  induction t with
  | nil => exact absurd unbroken_nil h
  | cons d t ih =>
    by_cases hd : isLineBreak d = true
    · exact ⟨[], d, t, rfl, unbroken_nil, hd⟩
    · rw [Bool.not_eq_true] at hd
      have ht : ¬ Unbroken t := fun ht => h (unbroken_cons.mpr ⟨hd, ht⟩)
      obtain ⟨line, c, rest, rfl, hline, hc⟩ := ih ht
      exact ⟨d :: line, c, rest, rfl, unbroken_cons.mpr ⟨hd, hline⟩, hc⟩

/-- In front of a line that goes on, a character that does not break is its first. -/
theorem lines_cons_of_not_break {c : Char} (hc : isLineBreak c = false) (t : Text) :
    lines (c :: t) = extendFirst c (lines t) := by
  have hreturn : ¬ (c = '\r' ∧ t.head? = some '\n') := by
    rintro ⟨rfl, _⟩
    exact absurd hc (by decide)
  rw [lines, if_neg hreturn, hc]
  rfl

theorem lines_append_break {line rest : Text} {c : Char} (hline : Unbroken line)
    (hc : isLineBreak c = true) (hreturn : ¬ (c = '\r' ∧ rest.head? = some '\n')) :
    lines (line ++ c :: rest) = line :: lines rest := by
  induction line with
  | nil => rw [List.nil_append, lines, if_neg hreturn, if_pos hc]
  | cons d line ih =>
    have hd : isLineBreak d = false := hline d (by simp)
    have hrest : lines (line ++ c :: rest) = line :: lines rest :=
      ih (hline.of_subset fun x hx => List.mem_cons_of_mem d hx)
    rw [List.cons_append, lines_cons_of_not_break hd, hrest]
    rfl

theorem lines_append_feed {line : Text} (rest : Text) (hline : Unbroken line) :
    lines (line ++ '\n' :: rest) = line :: lines rest :=
  lines_append_break hline (by decide) fun h => absurd h.1 (by decide)

/-- A carriage return and a line feed end one line. -/
theorem lines_append_return_feed {line : Text} (rest : Text) (hline : Unbroken line) :
    lines (line ++ '\r' :: '\n' :: rest) = line :: lines rest := by
  induction line with
  | nil =>
    have hfeed : lines ([] ++ '\n' :: rest) = [] :: lines rest := lines_append_feed rest hline
    rw [List.nil_append, lines, if_pos ⟨rfl, rfl⟩]
    exact hfeed
  | cons d line ih =>
    have hd : isLineBreak d = false := hline d (by simp)
    have hrest : lines (line ++ '\r' :: '\n' :: rest) = line :: lines rest :=
      ih (hline.of_subset fun x hx => List.mem_cons_of_mem d hx)
    rw [List.cons_append, lines_cons_of_not_break hd, hrest]
    rfl

/-- What stands behind the last break is a line unless it is empty. -/
theorem lines_of_unbroken {line : Text} (hline : Unbroken line) :
    lines line = if line = [] then [] else [line] := by
  induction line with
  | nil => rfl
  | cons d line ih =>
    have hd : isLineBreak d = false := hline d (by simp)
    rw [lines_cons_of_not_break hd, ih (hline.of_subset fun x hx => List.mem_cons_of_mem d hx)]
    cases line <;> rfl

theorem lines_eq_nil_iff {t : Text} : lines t = [] ↔ t = [] := by
  constructor
  · intro h
    induction t with
    | nil => rfl
    | cons c t ih =>
      rw [lines] at h
      split at h
      · rename_i hreturn
        rw [ih h] at hreturn
        exact absurd hreturn.2 (by simp)
      · split at h
        · cases h
        · cases hlines : lines t <;> rw [hlines] at h <;> cases h
  · rintro rfl
    rfl

/-- A line feed behind a character that does not break ends the last line of a text,
however many lines there are. -/
theorem lines_append_last_feed {c : Char} (hc : isLineBreak c = false) (t rest : Text) :
    lines (t ++ c :: '\n' :: rest) = lines (t ++ [c]) ++ lines rest := by
  induction t with
  | nil =>
    have hline : Unbroken [c] := unbroken_cons.mpr ⟨hc, unbroken_nil⟩
    have hfeed : lines ([c] ++ '\n' :: rest) = [c] :: lines rest := lines_append_feed rest hline
    rw [List.nil_append, List.nil_append, lines_of_unbroken hline]
    exact hfeed
  | cons d t ih =>
    have hhead : (t ++ c :: '\n' :: rest).head? = (t ++ [c]).head? := by cases t <;> rfl
    have hne : lines (t ++ [c]) ≠ [] := fun hnil => by simp [lines_eq_nil_iff] at hnil
    obtain ⟨first, more, hlines⟩ := List.exists_cons_of_ne_nil hne
    rw [List.cons_append, List.cons_append, lines, lines, hhead, ih, hlines]
    split
    · rfl
    · split <;> rfl

/-- Lines that are written are read back. -/
theorem lines_ofLines {texts : List Text} (h : ∀ line ∈ texts, Unbroken line) :
    lines (ofLines texts) = texts := by
  induction texts with
  | nil => rfl
  | cons line texts ih =>
    have hline : Unbroken line := h line (by simp)
    rw [ofLines_cons, lines_append_feed _ hline, ih fun other hother => h other (by simp [hother])]

end SizeFlags.Text
