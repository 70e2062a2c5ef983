import Mathlib.Data.List.DropRight
import SizeFlags.Path
import SizeFlags.Proofs.Results
import SizeFlags.Proofs.Text.Lines
import SizeFlags.Text.Decimal
import SizeFlags.Text.Quoted

set_option autoImplicit false

/-!
# Printed texts on one line

Numerals and quoted texts never hold a line break, whatever they show: the
digits are ASCII, and a character that ends a line does not print as itself, so
that it is escaped.  A path holds one only if a name in it does.
-/

namespace SizeFlags.Text

/-! ## Numerals -/

theorem not_isLineBreak_of_isDigit {c : Char} (h : c.isDigit = true) : isLineBreak c = false := by
  have hnone : lineBreaks.all (fun d => !d.isDigit) = true := by decide
  exact not_isLineBreak_of_all hnone h

theorem unbroken_ofNat (n : Nat) : Unbroken (ofNat n) :=
  fun _ hc => not_isLineBreak_of_isDigit (isDigit_of_mem_ofNat hc)

theorem unbroken_ofInt (n : Int) : Unbroken (ofInt n) := by
  rw [ofInt]
  split
  · exact unbroken_cons.mpr ⟨by decide, unbroken_ofNat _⟩
  · exact unbroken_ofNat _

/-! ## Quoted texts -/

theorem not_isLineBreak_of_isPrintable {c : Char} (h : isPrintable c = true) :
    isLineBreak c = false := by
  have hnone : lineBreaks.all (fun d => !isPrintable d) = true := by decide +kernel
  exact not_isLineBreak_of_all hnone h

theorem unbroken_hexDigits (width n : Nat) : Unbroken (hexDigits width n) := by
  induction width generalizing n with
  | zero => exact unbroken_nil
  | succ width ih =>
    have hdigit : ∀ d < 16, isLineBreak d.digitChar = false := by decide
    rw [hexDigits, unbroken_append]
    exact ⟨ih (n / 16), unbroken_cons.mpr ⟨hdigit _ (Nat.mod_lt n (by decide)), unbroken_nil⟩⟩

/-- No escape holds a line break, not even that of a line break. -/
theorem unbroken_escape {quote : Char} (hquote : isLineBreak quote = false) (c : Char) :
    Unbroken (escape quote c) := by
  have hescape : ∀ (letter : Char) (digits : Text), isLineBreak letter = false →
      Unbroken digits → Unbroken (backslash :: letter :: digits) := by
    intro letter digits hletter hdigits
    rw [unbroken_cons, unbroken_cons]
    exact ⟨by decide, hletter, hdigits⟩
  unfold escape
  split_ifs with hself _ _ _ hprintable
  · refine hescape c [] ?_ unbroken_nil
    rcases hself with rfl | rfl
    · exact hquote
    · decide
  · decide
  · decide
  · decide
  · exact unbroken_cons.mpr ⟨not_isLineBreak_of_isPrintable hprintable, unbroken_nil⟩
  · exact hescape 'x' _ (by decide) (unbroken_hexDigits 2 c.toNat)
  · exact hescape 'u' _ (by decide) (unbroken_hexDigits 4 c.toNat)
  · exact hescape 'U' _ (by decide) (unbroken_hexDigits 8 c.toNat)

theorem unbroken_quoted (t : Text) : Unbroken (quoted t) := by
  have hquote : isLineBreak (quoteFor t) = false := by
    rw [quoteFor]
    split <;> decide
  rw [quoted, unbroken_append, unbroken_cons]
  refine ⟨⟨hquote, ?_⟩, unbroken_cons.mpr ⟨hquote, unbroken_nil⟩⟩
  intro c hc
  obtain ⟨d, _, hd⟩ := List.mem_flatMap.mp hc
  exact unbroken_escape hquote d c hd

/-! ## Pieces of a text -/

theorem unbroken_extendFirst_iff {c : Char} {texts : List Text} :
    (∀ t ∈ extendFirst c texts, Unbroken t) ↔
      isLineBreak c = false ∧ ∀ t ∈ texts, Unbroken t := by
  cases texts with
  | nil => simp [extendFirst, Unbroken]
  | cons t rest =>
    rw [extendFirst, List.forall_mem_cons, List.forall_mem_cons, unbroken_cons, and_assoc]

theorem unbroken_splitAt_iff {mark : Char} (hmark : isLineBreak mark = false) {t : Text} :
    (∀ piece ∈ splitAt mark t, Unbroken piece) ↔ Unbroken t := by
  induction t with
  | nil => simp [splitAt]
  | cons c t ih =>
    rw [splitAt]
    split
    · rename_i hc
      rw [List.forall_mem_cons, ih, unbroken_cons, hc]
      exact ⟨fun h => ⟨hmark, h.2⟩, fun h => ⟨unbroken_nil, h.2⟩⟩
    · rw [unbroken_extendFirst_iff, ih, unbroken_cons]

theorem unbroken_join_iff {separator : Text} (hseparator : Unbroken separator)
    {texts : List Text} : Unbroken (join separator texts) ↔ ∀ t ∈ texts, Unbroken t := by
  induction texts with
  | nil => simp [join, Unbroken]
  | cons t rest ih =>
    cases rest with
    | nil => simp [join]
    | cons u rest =>
      rw [join, unbroken_append, unbroken_append, ih, List.forall_mem_cons (a := t)]
      · exact ⟨fun h => ⟨h.1.1, h.2⟩, fun h => ⟨⟨h.1, hseparator⟩, h.2⟩⟩
      · simp

/-- What is trimmed off the end is not missed. -/
theorem unbroken_trimEnd_iff {drop : Char → Bool} (hdrop : ∀ c, drop c = true → isLineBreak c = false)
    {t : Text} : Unbroken (trimEnd drop t) ↔ Unbroken t := by
  have hsplit : t = trimEnd drop t ++ t.rtakeWhile drop := List.rdropWhile_append_rtakeWhile.symm
  have hend : Unbroken (t.rtakeWhile drop) := fun c hc => hdrop c (List.mem_rtakeWhile_imp hc)
  constructor
  · intro h
    rw [hsplit]
    exact unbroken_append.mpr ⟨h, hend⟩
  · intro h
    rw [hsplit] at h
    exact (unbroken_append.mp h).1

end SizeFlags.Text

namespace SizeFlags.Path

/-- Slashes and single dots are all that a text loses when it is read as a path. -/
theorem unbroken_names_ofText_iff {t : Text} :
    (∀ name ∈ (ofText t).names, Text.Unbroken name) ↔ Text.Unbroken t := by
  have hslash : Text.isLineBreak '/' = false := by decide
  rw [← Text.unbroken_splitAt_iff hslash]
  constructor
  · intro h piece hpiece
    by_cases hdropped : piece = [] ∨ piece = ['.']
    · rcases hdropped with rfl | rfl <;> decide
    · exact h piece (List.mem_filter.mpr ⟨hpiece, by simpa using hdropped⟩)
  · intro h name hname
    exact h name (List.mem_filter.mp hname).1

theorem unbroken_toText_iff {path : Path} :
    Text.Unbroken path.toText ↔ ∀ name ∈ path.names, Text.Unbroken name := by
  rw [toText]
  split
  · rename_i h
    rw [h.2]
    exact ⟨fun _ name hname => absurd hname List.not_mem_nil, fun _ => by decide⟩
  · have hroot : Text.Unbroken path.root.toText := by cases path.root <;> decide
    rw [Text.unbroken_append, Text.unbroken_join_iff (by decide)]
    exact ⟨fun h => h.2, fun h => ⟨hroot, h⟩⟩

theorem unbroken_names_ofHome_iff {home : Text} :
    (∀ name ∈ (ofHome home).names, Text.Unbroken name) ↔ Text.Unbroken home := by
  have hslash : ∀ c : Char, decide (c = '/') = true → Text.isLineBreak c = false := by
    intro c hc
    rw [of_decide_eq_true hc]
    decide
  have htrimmed := Text.unbroken_trimEnd_iff hslash (t := home)
  rw [ofHome, unbroken_names_ofText_iff, ← htrimmed]
  split
  · rename_i hempty
    rw [hempty]
    decide
  · rfl

/-- The home directory that is put in is the one that is known of the user. -/
theorem exists_home_of_homeOf {home? : Text → Option Text} {user : Text} {start : Path}
    (h : homeOf home? user = .ok start) :
    ∃ directory, home? user = some directory ∧ start = ofHome directory := by
  unfold homeOf at h
  split at h
  · cases h
  · split at h
    · rename_i directory hdirectory
      split at h
      · cases h
      · exact ⟨directory, hdirectory, (Except.ok.inj h).symm⟩
    · cases h

/-- With a path on one line, a line break in what it stands for comes from the home
directory. -/
theorem unbroken_expandHome_iff {path file : Path} {home? : Text → Option Text}
    (hpath : ∀ name ∈ path.names, Text.Unbroken name)
    (h : path.expandHome home? = .ok file) :
    Text.Unbroken file.toText ↔
      ∀ user ∈ path.owner?, ∀ directory ∈ home? user, Text.Unbroken directory := by
  rw [unbroken_toText_iff]
  cases howner : path.owner? with
  | none =>
    rw [expandHome_of_owner?_eq_none howner] at h
    obtain rfl := Except.ok.inj h
    exact ⟨fun _ _ hnone => absurd hnone (Option.not_mem_none _), fun _ => hpath⟩
  | some user =>
    simp only [expandHome, howner] at h
    obtain ⟨start, hstart, hfile⟩ := bind_eq_ok_iff.mp h
    obtain ⟨directory, hdirectory, rfl⟩ := exists_home_of_homeOf hstart
    obtain rfl := Except.ok.inj hfile
    have hrest : ∀ name ∈ path.names.drop 1, Text.Unbroken name :=
      fun name hname => hpath name (List.mem_of_mem_drop hname)
    rw [List.forall_mem_append, unbroken_names_ofHome_iff]
    constructor
    · rintro ⟨hhome, _⟩ _ ⟨⟩ other hother
      rwa [Option.some.inj (hother.symm.trans hdirectory)]
    · intro hhome
      exact ⟨hhome user rfl directory hdirectory, hrest⟩

end SizeFlags.Path
