import Mathlib.Data.List.Infix
import SizeFlags.Flags.Entry

set_option autoImplicit false

/-!
# Expansion of values

A value without a dollar sign is made of characters that stand for themselves,
and expansion leaves it as it is.  In any value the references are parts of the
value as it is written, so what is looked up is settled before any variable is;
and expansion depends on a variable only if the value refers to it.
-/

namespace SizeFlags.Flags

/-- How a reference to a variable is written: its name stands behind a dollar sign, as a
word or in braces. -/
inductive WrittenReference (name : Text) : Text → Prop where
  | plain (nonempty : name ≠ []) (word : ∀ c ∈ name, Piece.isNameChar c = true) :
      WrittenReference name ('$' :: name)
  | braced (open_end : Piece.closingBrace ∉ name) :
      WrittenReference name ('$' :: Piece.openingBrace :: name ++ [Piece.closingBrace])

namespace Piece

/-- Characters in front of the first dollar sign stand for themselves. -/
theorem ofText_append_of_no_dollar {t : Text} (rest : Text) (h : '$' ∉ t) :
    ofText (t ++ rest) = t.map char ++ ofText rest := by
  induction t with
  | nil => rfl
  | cons c t ih =>
    rw [List.mem_cons, not_or] at h
    obtain ⟨hc, ht⟩ := h
    have hfirst : first c (t ++ rest) = char c := if_neg fun heq => hc heq.symm
    rw [List.cons_append, ofText, ofTextFrom, hfirst]
    exact congrArg (char c :: ·) (ih ht)

theorem ofText_of_no_dollar {t : Text} (h : '$' ∉ t) : ofText t = t.map char := by
  have happend : ofText (t ++ []) = t.map char ++ [] := ofText_append_of_no_dollar [] h
  rwa [List.append_nil, List.append_nil] at happend

/-- A reference in braces ends at its closing brace, whatever its name holds. -/
theorem ofText_braced_append {name : Text} (rest : Text) (h : closingBrace ∉ name) :
    ofText ((braced name).toText ++ rest) = braced name :: ofText rest := by
  have htext : (braced name).toText ++ rest =
      '$' :: openingBrace :: (name ++ closingBrace :: rest) := by
    simp [toText]
  have hafter : afterDollar? (openingBrace :: (name ++ closingBrace :: rest)) = some (braced name) := by
    rw [afterDollar?, if_pos rfl, Text.cutAt?_append rest h]
    rfl
  have hfirst : first '$' (openingBrace :: (name ++ closingBrace :: rest)) = braced name := by
    rw [first, if_pos rfl, hafter]
    rfl
  have hdrop : (openingBrace :: (name ++ closingBrace :: rest)).drop
      ((braced name).toText.length - 1) = rest := by
    simp [toText]
  rw [htext, ofText, ofTextFrom, hfirst, ofTextFrom_eq_drop, hdrop]

/-! ## References -/

/-- What follows a dollar sign is read as a reference that is written there. -/
theorem written_of_afterDollar? {rest name : Text} {piece : Piece}
    (h : afterDollar? rest = some piece) (hname : piece.name? = some name) :
    WrittenReference name piece.toText ∧ piece.toText <+: '$' :: rest := by
  cases rest with
  | nil => cases h
  | cons c rest =>
    rw [afterDollar?] at h
    split at h
    · rename_i hbrace
      obtain ⟨parts, hparts, rfl⟩ := Option.map_eq_some_iff.mp h
      obtain rfl : parts.1 = name := Option.some.inj hname
      obtain ⟨hrest, hend⟩ := Text.eq_of_cutAt? hparts
      refine ⟨.braced hend, parts.2, ?_⟩
      rw [hbrace, hrest]
      simp [toText]
    · dsimp only at h
      split at h
      · cases h
      · rename_i hnonempty
        obtain rfl := Option.some.inj h
        obtain rfl := Option.some.inj hname
        have hword : ∀ d ∈ (c :: rest).takeWhile isNameChar, isNameChar d = true :=
          List.all_eq_true.mp List.all_takeWhile
        have hstart : (c :: rest).takeWhile isNameChar <+: c :: rest := List.takeWhile_prefix _
        exact ⟨.plain hnonempty hword, (List.prefix_cons_inj '$').mpr hstart⟩

theorem written_of_first {c : Char} {rest name : Text} (hname : (first c rest).name? = some name) :
    WrittenReference name (first c rest).toText ∧ (first c rest).toText <+: c :: rest := by
  unfold first at hname ⊢
  split
  · rename_i hdollar
    rw [if_pos hdollar] at hname
    cases hafter : afterDollar? rest with
    | none =>
      rw [hafter] at hname
      cases hname
    | some piece =>
      rw [hafter] at hname
      rw [hdollar]
      exact written_of_afterDollar? hafter hname
  · rename_i hchar
    rw [if_neg hchar] at hname
    cases hname

/-- A piece is read from some place in the text. -/
theorem exists_first_of_mem {behind : Nat} {t : Text} {piece : Piece}
    (h : piece ∈ ofTextFrom behind t) : ∃ c rest, c :: rest <:+ t ∧ piece = first c rest := by
  induction t generalizing behind with
  | nil => cases behind <;> exact absurd h List.not_mem_nil
  | cons c rest ih =>
    have hrest : ∀ count, piece ∈ ofTextFrom count rest →
        ∃ d more, d :: more <:+ c :: rest ∧ piece = first d more := by
      intro count hmem
      obtain ⟨d, more, hsuffix, hpiece⟩ := ih hmem
      exact ⟨d, more, hsuffix.trans (List.suffix_cons c rest), hpiece⟩
    cases behind with
    | succ behind => exact hrest behind h
    | zero =>
      rw [ofTextFrom] at h
      rcases List.mem_cons.mp h with rfl | hmem
      · exact ⟨c, rest, List.suffix_refl _, rfl⟩
      · exact hrest _ hmem

/-- A variable is referred to only where the text says so. -/
theorem exists_written_of_mem_names {t name : Text} (h : name ∈ (ofText t).filterMap name?) :
    ∃ written, WrittenReference name written ∧ written <:+: t := by
  obtain ⟨piece, hpiece, hname⟩ := List.mem_filterMap.mp h
  obtain ⟨c, rest, hsuffix, rfl⟩ := exists_first_of_mem hpiece
  obtain ⟨hwritten, hstart⟩ := written_of_first hname
  exact ⟨_, hwritten, hstart.isInfix.trans hsuffix.isInfix⟩

/-! ## Values of variables -/

theorem expand_congr {first second : Text → Option Text} {piece : Piece}
    (h : ∀ name ∈ piece.name?, first name = second name) :
    piece.expand first = piece.expand second := by
  cases hname : piece.name? with
  | none => rw [expand, expand, hname]; rfl
  | some name => rw [expand, expand, hname, Option.bind_some, Option.bind_some, h name hname]

end Piece

theorem expand_of_no_dollar {t : Text} (valueOf? : Text → Option Text) (h : '$' ∉ t) :
    expand valueOf? t = t := by
  rw [expand, Piece.ofText_of_no_dollar h, List.flatMap_map]
  exact List.flatMap_singleton' t

/-- Only the variables that an entry refers to make a difference to its value. -/
theorem Entry.raw_congr {first second : Text → Option Text} {entry : Entry}
    (h : ∀ name ∈ entry.references, first name = second name) :
    entry.raw first = entry.raw second := by
  refine List.flatMap_congr fun piece hpiece => Piece.expand_congr fun name hname => ?_
  exact h name (List.mem_filterMap.mpr ⟨piece, hpiece, hname⟩)

end SizeFlags.Flags
