import SizeFlags.Proofs.Flags.Expansion
import SizeFlags.Proofs.Flags.Loading

set_option autoImplicit false

/-!
# What the environment can change

Two worlds with the same files and the same home directories are compared.  What
a file declares is the same in both, and so is every fault, since no variable is
looked up before all of it is settled.  Values differ only where a variable does
that the file itself refers to; a variable's own text is never read for
references.
-/

namespace SizeFlags

/-- Of all variables and users only the home directories decide where a path leads. -/
theorem World.locate_congr {first second : World} (hhome : first.home? = second.home?)
    (path : Text) : first.locate path = second.locate path := by
  unfold World.locate
  rw [hhome]

theorem World.readFlagsFile_congr {first second : World} (hlook : first.look = second.look)
    (file : Path) : first.readFlagsFile file = second.readFlagsFile file := by
  unfold World.readFlagsFile
  rw [hlook]

namespace Flags

/-- The same flag with the same shape, and values that are related. -/
structure Setting.SameUpTo (R : Text → Text → Prop) (first second : Setting) : Prop where
  name : first.name = second.name
  typeName : first.typeName = second.typeName
  shape : first.shape = second.shape
  raw : R first.raw second.raw

/-- The same flags of the same file, in order, with values that are related. -/
structure Config.SameUpTo (R : Text → Text → Prop) (first second : Config) : Prop where
  file : first.file = second.file
  word : first.word = second.word
  settings : List.Forall₂ (Setting.SameUpTo R) first.settings second.settings

variable {R : Text → Text → Prop} {registry : Registry} {word : WordSize}

theorem Setting.SameUpTo.eq {first second : Setting} (h : first.SameUpTo Eq second) :
    first = second := by
  obtain ⟨name, typeName, shape, raw⟩ := first
  obtain ⟨hname, htype, hshape, hraw⟩ := h
  dsimp only at hname htype hshape hraw
  rw [hname, htype, hshape, hraw]

theorem Config.SameUpTo.eq {first second : Config} (h : first.SameUpTo Eq second) :
    first = second := by
  obtain ⟨file, word, settings⟩ := first
  obtain ⟨hfile, hword, hsettings⟩ := h
  have hsame : List.Forall₂ Eq settings second.settings :=
    hsettings.imp fun _ _ hsetting => hsetting.eq
  rw [List.forall₂_eq_eq_eq] at hsame
  dsimp only at hfile hword
  rw [hfile, hword, hsame]

/-- The value of an entry has no part in whether the entry makes a setting. -/
theorem Entry.setting_sameUpTo {first second : Text → Option Text} {entry : Entry}
    (hraw : R (entry.raw first) (entry.raw second)) :
    Agree (Setting.SameUpTo R) (entry.setting registry word first)
      (entry.setting registry word second) := by
  unfold Entry.setting
  refine (Agree.refl (entry.declaration registry)).bind ?_
  rintro ⟨name, typeName⟩ _ rfl
  refine (Agree.refl (TypeName.resolve typeName word)).bind ?_
  rintro shape _ rfl
  exact .value ⟨rfl, rfl, rfl, hraw⟩

namespace Config

theorem ofText_sameUpTo {first second : Text → Option Text} (file : Path) {text : Text}
    (hraw : ∀ entry ∈ entries text, R (entry.raw first) (entry.raw second)) :
    Agree (SameUpTo R) (ofText registry word first file text)
      (ofText registry word second file text) := by
  unfold ofText
  refine (Agree.mapM (entries text) fun entry hentry =>
    Entry.setting_sameUpTo (hraw entry hentry)).bind ?_
  intro before after hsettings
  cases hsettings with
  | nil => exact .fault _
  | cons hfirst hrest => exact .value ⟨rfl, rfl, .cons hfirst hrest⟩

theorem load_sameUpTo {first second : World} (hlook : first.look = second.look)
    (hhome : first.home? = second.home?) (path : Text)
    (hraw : ∀ file text, first.locate path = .ok file → first.readFlagsFile file = .ok text →
      ∀ entry ∈ entries text, R (entry.raw first.valueOf?) (entry.raw second.valueOf?)) :
    Agree (SameUpTo R) (load registry first path word) (load registry second path word) := by
  unfold load
  rw [← World.locate_congr hhome]
  cases hfile : first.locate path with
  | error fault => exact .fault fault
  | ok file =>
    show Agree _ (first.readFlagsFile file >>= _) (second.readFlagsFile file >>= _)
    rw [← World.readFlagsFile_congr hlook]
    cases htext : first.readFlagsFile file with
    | error fault => exact .fault fault
    | ok text => exact ofText_sameUpTo file (hraw file text hfile htext)

/-- Loading the same path from the same files, with the same home directories, comes to the
same fault or to flags that differ at most in their values; and to the same
configuration if the variables that the file refers to are the same.  These
are written in the values of the file itself. -/
theorem load_of_same_home (registry : Registry) {first second : World} (path : Text)
    (word : WordSize) (hlook : first.look = second.look) (hhome : first.home? = second.home?) :
    Agree (SameUpTo fun _ _ => True) (load registry first path word)
        (load registry second path word) ∧
      ((∀ file text, first.locate path = .ok file → first.readFlagsFile file = .ok text →
          ∀ name ∈ references text, first.valueOf? name = second.valueOf? name) →
        load registry first path word = load registry second path word) ∧
      ∀ text, ∀ name ∈ references text, ∃ entry ∈ entries text, ∃ written,
        WrittenReference name written ∧ written <:+: entry.value := by
  refine ⟨load_sameUpTo hlook hhome path fun _ _ _ _ _ _ => trivial, ?_, ?_⟩
  · intro hvariables
    have hagree : Agree (SameUpTo Eq) (load registry first path word)
        (load registry second path word) := by
      refine load_sameUpTo hlook hhome path fun file text hfile htext entry hentry => ?_
      refine Entry.raw_congr fun name hname => hvariables file text hfile htext name ?_
      exact List.mem_flatMap.mpr ⟨entry, hentry, hname⟩
    generalize load registry first path word = before,
      load registry second path word = after at hagree
    cases hagree with
    | fault cause => rfl
    | value h => rw [h.eq]
  · intro text name hname
    obtain ⟨entry, hentry, hreference⟩ := List.mem_flatMap.mp hname
    exact ⟨entry, hentry, Piece.exists_written_of_mem_names hreference⟩

/-- The text of a variable may itself look like a reference; what that one would give is
not seen, nor does the text join with the letter behind it. -/
theorem load_of_same_home_inserted :
    let text := "X:int=${A}B".toList
    let first := World.ofFile text [("A".toList, "$".toList), ("B".toList, "1".toList)]
    let second := World.ofFile text [("A".toList, "$".toList), ("B".toList, "2".toList)]
    first.look = second.look ∧ first.home? = second.home? ∧
      (∀ file found, first.locate "f".toList = .ok file → first.readFlagsFile file = .ok found →
        ∀ name ∈ references found, first.valueOf? name = second.valueOf? name) ∧
      first.valueOf? "B".toList ≠ second.valueOf? "B".toList ∧
      load [] second "f".toList (.bits 64) =
        .ok ⟨Path.ofText "f".toList, .bits 64, [⟨"X".toList, "int".toList, .int32, "$B".toList⟩]⟩ := by
  intro text first second
  have hlook : first.look = second.look := rfl
  have hhome : first.home? = second.home? := by
    funext user
    cases user <;> rfl
  have hreferences : references text = ["A".toList] := by decide
  have hvariables : ∀ file found, first.locate "f".toList = .ok file →
      first.readFlagsFile file = .ok found →
        ∀ name ∈ references found, first.valueOf? name = second.valueOf? name := by
    intro file found _ hfound name hname
    obtain rfl := Except.ok.inj ((World.readFlagsFile_of_look rfl).symm.trans hfound)
    rw [hreferences, List.mem_singleton] at hname
    rw [hname]
    rfl
  have hsame := (@load_of_same_home [] first second "f".toList (.bits 64) hlook hhome).2.1 hvariables
  have hload : load [] first "f".toList (.bits 64) =
      .ok ⟨Path.ofText "f".toList, .bits 64, [⟨"X".toList, "int".toList, .int32, "$B".toList⟩]⟩ :=
    load_eq_ok_iff.mpr ⟨Path.ofText "f".toList, text, rfl, World.readFlagsFile_of_look rfl, rfl⟩
  exact ⟨hlook, hhome, hvariables, by decide, hsame.symm.trans hload⟩

end Config

end Flags

end SizeFlags
