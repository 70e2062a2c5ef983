set_option autoImplicit false

/-!
# Text: characters, trimming and cutting

A text is a list of characters, so that every reader below is a recursion on
its input and a statement about all texts is an induction.  This module fixes
the few operations on which the readers are built: trimming both ends by a
class of characters, and cutting at the first occurrence of one character.
-/

namespace SizeFlags

/-- A text: its characters, in order. -/
abbrev Text : Type := List Char

namespace Text

/-! ## Quotes -/

/-- The apostrophe, U+0027. -/
def apostrophe : Char := '\x27'

/-- The quotation mark, U+0022. -/
def quotationMark : Char := '\x22'

/-! ## Trimming -/

/-- Drop the characters of a class from the start. -/
def trimStart (drop : Char → Bool) (t : Text) : Text := t.dropWhile drop

/-- Drop the characters of a class from the end. -/
def trimEnd (drop : Char → Bool) (t : Text) : Text :=
  (t.reverse.dropWhile drop).reverse

/-- Drop the characters of a class from both ends. -/
def trim (drop : Char → Bool) (t : Text) : Text := trimEnd drop (trimStart drop t)

/-! ## Cutting -/

/-- The parts before and after the first occurrence of a character. -/
def cutAt? (mark : Char) : Text → Option (Text × Text)
  | [] => none
  | c :: rest =>
    if c = mark then some ([], rest)
    else (cutAt? mark rest).map fun parts => (c :: parts.1, parts.2)

/-- There is a cut exactly at a character that occurs. -/
theorem cutAt?_eq_none_iff {mark : Char} {t : Text} : cutAt? mark t = none ↔ mark ∉ t := by
  induction t with
  | nil => simp [cutAt?]
  | cons c rest ih =>
    by_cases h : c = mark
    · simp [cutAt?, h]
    · simp [cutAt?, h, ih, Ne.symm h]

/-- A cut loses only the mark, and takes its first occurrence. -/
theorem eq_of_cutAt? {mark : Char} {t before after : Text}
    (h : cutAt? mark t = some (before, after)) :
    t = before ++ mark :: after ∧ mark ∉ before := by
  induction t generalizing before after with
  | nil => simp [cutAt?] at h
  | cons c rest ih =>
    by_cases hc : c = mark
    · simp only [cutAt?, hc, if_true, Option.some.injEq, Prod.mk.injEq] at h
      obtain ⟨rfl, rfl⟩ := h
      simp [hc]
    · simp only [cutAt?, hc, if_false, Option.map_eq_some_iff, Prod.mk.injEq] at h
      obtain ⟨parts, hparts, rfl, rfl⟩ := h
      obtain ⟨hrest, hnot⟩ := ih hparts
      exact ⟨by simp [hrest], by simp [hnot, Ne.symm hc]⟩

/-- The parts of a cut, written back with the mark between them. -/
theorem cutAt?_append {mark : Char} {before : Text} (after : Text) (h : mark ∉ before) :
    cutAt? mark (before ++ mark :: after) = some (before, after) := by
  induction before with
  | nil => simp [cutAt?]
  | cons c rest ih =>
    simp only [List.mem_cons, not_or] at h
    simp [cutAt?, Ne.symm h.1, ih h.2]

/-! ## Splitting and joining -/

/-- Put a character in front of the first of several texts. -/
def extendFirst (c : Char) : List Text → List Text
  | [] => [[c]]
  | t :: rest => (c :: t) :: rest

/-- The texts between the occurrences of a character, empty ones included. -/
def splitAt (mark : Char) : Text → List Text
  | [] => [[]]
  | c :: rest =>
    if c = mark then [] :: splitAt mark rest else extendFirst c (splitAt mark rest)

/-- Write texts one after the other with a separator between them. -/
def join (separator : Text) : List Text → Text
  | [] => []
  | [t] => t
  | t :: rest => t ++ separator ++ join separator rest

/-- Write texts as lines, each ended by a line feed. -/
def ofLines (texts : List Text) : Text := texts.flatMap fun t => t ++ ['\n']

@[simp] theorem ofLines_cons (t : Text) (rest : List Text) :
    ofLines (t :: rest) = t ++ '\n' :: ofLines rest := by
  simp [ofLines]

end Text

end SizeFlags
