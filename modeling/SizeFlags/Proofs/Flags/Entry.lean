import SizeFlags.Flags.Entry
import SizeFlags.Proofs.Text.Lines
import SizeFlags.Proofs.Text.Trim

set_option autoImplicit false

/-!
# Entries line by line

The entry on a line in one equation without stripping first, and the entries of
a file whose first line is known.  The second holds for every break, since the
empty line that a broken pair of carriage return and line feed would leave has
no entry.
-/

namespace SizeFlags.Flags

namespace Entry

/-- Stripping a line first makes no difference to where it is cut. -/
theorem ofLine?_eq (line : Text) :
    ofLine? line =
      if (Text.trimStart Text.isBlank line).head? = some '#' then none
      else (Text.cutAt? '=' line).map fun parts =>
        ⟨Text.strip parts.1, unquote (Text.strip parts.2)⟩ := by
  have hcut : Text.cutAt? '=' (Text.strip line) =
      (Text.cutAt? '=' line).map fun parts =>
        (Text.trimStart Text.isBlank parts.1, Text.trimEnd Text.isBlank parts.2) :=
    Text.cutAt?_trim (by decide) line
  have hhead : (Text.strip line).head? = (Text.trimStart Text.isBlank line).head? :=
    Text.head?_trim Text.isBlank line
  have hkey : ∀ t, Text.strip (Text.trimStart Text.isBlank t) = Text.strip t :=
    Text.trim_trimStart Text.isBlank
  have hvalue : ∀ t, Text.strip (Text.trimEnd Text.isBlank t) = Text.strip t :=
    Text.trim_trimEnd Text.isBlank
  unfold ofLine?
  simp only [hcut, hhead, Option.map_map, Function.comp_def, hkey, hvalue]

/-- A line with a key that is no comment has an entry, whatever is behind its equals sign. -/
theorem ofLine?_append_equals {key : Text} (rest : Text) (hkey : '=' ∉ key)
    (hcomment : (Text.strip key).head? ≠ some '#') :
    ofLine? (key ++ '=' :: rest) = some ⟨Text.strip key, unquote (Text.strip rest)⟩ := by
  have hstart : (Text.trimStart Text.isBlank (key ++ '=' :: rest)).head? ≠ some '#' := by
    rw [Text.strip, Text.head?_trim] at hcomment
    rw [Text.trimStart_append_cons (by decide), List.head?_append]
    cases hhead : (Text.trimStart Text.isBlank key).head? with
    | none => exact fun h => absurd (Option.some.inj h) (by decide)
    | some c =>
      rw [hhead] at hcomment
      exact hcomment
  rw [ofLine?_eq, if_neg hstart, Text.cutAt?_append rest hkey, Option.map_some]

@[simp] theorem ofLine?_nil : ofLine? [] = none := rfl

/-- What is put into an entry was on its line. -/
theorem mem_line_of_ofLine? {line : Text} {entry : Entry} (h : ofLine? line = some entry) :
    (∀ c ∈ entry.key, c ∈ line) ∧ '=' ∉ entry.key := by
  rw [ofLine?_eq] at h
  split at h
  · simp at h
  · obtain ⟨parts, hparts, rfl⟩ := Option.map_eq_some_iff.mp h
    obtain ⟨hline, hmark⟩ := Text.eq_of_cutAt? hparts
    refine ⟨?_, fun hmem => hmark (Text.mem_of_mem_trim hmem)⟩
    intro c hc
    have hbefore : c ∈ parts.1 := Text.mem_of_mem_trim hc
    rw [hline]
    exact List.mem_append_left _ hbefore

end Entry

/-! ## Files -/

theorem entries_of_unbroken {line : Text} (hline : Text.Unbroken line) :
    entries line = (Entry.ofLine? line).toList := by
  rw [entries, Text.lines_of_unbroken hline]
  split
  · rename_i hempty
    rw [hempty]
    rfl
  · rw [List.filterMap_cons]
    cases Entry.ofLine? line <;> rfl

/-- The entry of the first line, then the entries behind its break. -/
theorem entries_append_break {line : Text} {c : Char} (hline : Text.Unbroken line)
    (hc : Text.isLineBreak c = true) (rest : Text) :
    entries (line ++ c :: rest) = (Entry.ofLine? line).toList ++ entries rest := by
  have hfirst : ∀ others : List Text, (line :: others).filterMap Entry.ofLine? =
      (Entry.ofLine? line).toList ++ others.filterMap Entry.ofLine? := by
    intro others
    rw [List.filterMap_cons]
    cases Entry.ofLine? line <;> rfl
  by_cases hreturn : c = '\r' ∧ rest.head? = some '\n'
  · obtain ⟨rfl, hfeed⟩ := hreturn
    obtain ⟨rest, rfl⟩ : ∃ behind, rest = '\n' :: behind := List.head?_eq_some_iff.mp hfeed
    -- the line feed is part of the same break; alone it would end an empty line
    have hempty : Text.lines ('\n' :: rest) = [] :: Text.lines rest :=
      Text.lines_append_feed rest Text.unbroken_nil
    rw [entries, Text.lines_append_return_feed rest hline, hfirst, entries, hempty,
      List.filterMap_cons, Entry.ofLine?_nil]
  · rw [entries, Text.lines_append_break hline hc hreturn, hfirst, entries]

/-- Behind a break the entries start anew, whatever stands on either side of it. -/
theorem entries_append {between : Text} (hbetween : between ∈ Text.breaks) (first rest : Text) :
    entries (first ++ between ++ rest) = entries first ++ entries rest := by
  -- a line without a break comes first, and what is behind its break is shorter
  induction hlength : first.length using Nat.strong_induction_on generalizing first with
  | _ length ih =>
    by_cases hline : Text.Unbroken first
    · rw [entries_of_unbroken hline]
      rcases List.mem_append.mp hbetween with hone | htwo
      · obtain ⟨c, hc, rfl⟩ := List.mem_map.mp hone
        rw [List.append_assoc]
        exact entries_append_break hline (List.contains_iff_mem.mpr hc) rest
      · obtain rfl : between = ['\r', '\n'] := List.mem_singleton.mp htwo
        rw [List.append_assoc]
        show entries (first ++ '\r' :: '\n' :: rest) = _
        rw [entries_append_break hline (by decide), ← List.nil_append ('\n' :: rest),
          entries_append_break Text.unbroken_nil (by decide), Entry.ofLine?_nil]
        rfl
    · obtain ⟨line, c, more, rfl, hunbroken, hc⟩ := Text.exists_break_of_not_unbroken hline
      have hshorter : more.length < length := by
        rw [← hlength, List.length_append, List.length_cons]
        omega
      rw [List.append_assoc, List.append_assoc, List.cons_append,
        entries_append_break hunbroken hc, entries_append_break hunbroken hc,
        ← List.append_assoc more, ih _ hshorter more rfl, List.append_assoc]

end SizeFlags.Flags
