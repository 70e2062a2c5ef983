import SizeFlags.Text.Basic

set_option autoImplicit false

/-!
# Lines

A text falls into lines at each line break.  A carriage return directly before
a line feed is part of one break, so it is dropped and the line feed breaks.
The text after the last break is a line only if it is not empty.
-/

namespace SizeFlags.Text

/-- The characters that end a line. -/
def lineBreaks : Text :=
  ['\n', '\r', '\x0b', '\x0c', '\x1c', '\x1d', '\x1e', '\u0085', '\u2028', '\u2029']

/-- The character ends a line. -/
def isLineBreak (c : Char) : Bool := lineBreaks.contains c

/-- The lines of a text, without their breaks. -/
def lines : Text → List Text
  | [] => []
  | c :: rest =>
    if c = '\r' ∧ rest.head? = some '\n' then lines rest
    else if isLineBreak c then [] :: lines rest
    else extendFirst c (lines rest)

/-- No line holds a line break. -/
theorem not_isLineBreak_of_mem_lines {t line : Text} {c : Char}
    (hline : line ∈ lines t) (hc : c ∈ line) : isLineBreak c = false := by
  induction t generalizing line c with
  | nil => simp [lines] at hline
  | cons d rest ih =>
    rw [lines] at hline
    split at hline
    · exact ih hline hc
    · split at hline
      · rcases List.mem_cons.mp hline with rfl | hmem
        · simp at hc
        · exact ih hmem hc
      · rename_i hbreak
        have hd : isLineBreak d = false := by simpa using hbreak
        cases hrest : lines rest with
        | nil =>
          rw [hrest] at hline
          simp only [extendFirst, List.mem_singleton] at hline
          subst hline
          simp only [List.mem_singleton] at hc
          exact hc ▸ hd
        | cons first more =>
          rw [hrest] at hline ih
          simp only [extendFirst, List.mem_cons] at hline
          rcases hline with rfl | hmem
          · rcases List.mem_cons.mp hc with rfl | hc'
            · exact hd
            · exact ih List.mem_cons_self hc'
          · exact ih (List.mem_cons_of_mem _ hmem) hc

/-- A carriage return and a line feed make one break, and nothing follows the last one. -/
example : lines "a\r\nb\n\r".toList = ["a".toList, "b".toList, []] := by decide

end SizeFlags.Text
