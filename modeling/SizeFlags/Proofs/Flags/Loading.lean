import SizeFlags.Flags.Config
import SizeFlags.Proofs.Results
import SizeFlags.Proofs.Utf8

set_option autoImplicit false

/-!
# What loading gives

Each stage of loading in one equivalence: what a name resolves to, what an entry
declares, which setting it makes, which configuration a text makes, and what is
loaded from a path.  Later statements about loading start from these and do not
open the stages again.
-/

namespace SizeFlags

theorem TypeName.resolve_eq_ok_iff {name : Text} {word : WordSize} {shape : Shape} :
    resolve name word = .ok shape ↔
      ∃ width known, word.width? = some width ∧ ofText? (Text.strip name) = some known ∧
        shape = known.shape width := by
  rw [resolve]
  cases hword : word.width? with
  | none =>
    constructor
    · intro h
      cases h
    · rintro ⟨width, known, h, _⟩
      cases h
  | some width =>
    cases hname : ofText? (Text.strip name) with
    | none =>
      constructor
      · intro h
        cases h
      · rintro ⟨other, known, _, h, _⟩
        cases h
    | some known =>
      constructor
      · intro h
        exact ⟨width, known, rfl, rfl, (Except.ok.inj h).symm⟩
      · rintro ⟨_, _, hwidth, hknown, rfl⟩
        obtain rfl := Option.some.inj hwidth
        obtain rfl := Option.some.inj hknown
        rfl

theorem World.expandHome_of_locate {world : World} {path : Text} {file : Path}
    (h : world.locate path = .ok file) : (Path.ofText path).expandHome world.home? = .ok file := by
  unfold World.locate at h
  split at h
  · rename_i found hfound
    rw [hfound, Except.ok.inj h]
  · cases h
  · cases h

theorem World.textOf_eq_ok_iff {bytes : Utf8.Bytes} {text : Text} :
    textOf bytes = .ok text ↔ bytes = Utf8.encode text := by
  rw [← Utf8.decode_eq_ok_iff, textOf]
  cases Utf8.decode bytes <;> simp

theorem World.textOf_eq_error_iff {bytes : Utf8.Bytes} {fault : Fault} :
    textOf bytes = .error fault ↔
      ∃ cause, Utf8.decode bytes = .error cause ∧ fault = .undecodable cause := by
  rw [textOf]
  cases Utf8.decode bytes <;> simp [eq_comm]

/-- A file that was written as UTF-8 is read as its text. -/
theorem World.readFlagsFile_of_look {world : World} {file : Path} {text : Text}
    (h : world.look file = .ok (Utf8.encode text)) : world.readFlagsFile file = .ok text := by
  simp only [readFlagsFile, h, textOf, Utf8.decode_encode]

theorem World.readFlagsFile_eq_ok_iff {world : World} {file : Path} {text : Text} :
    world.readFlagsFile file = .ok text ↔ world.look file = .ok (Utf8.encode text) := by
  constructor
  · intro h
    unfold readFlagsFile at h
    split at h
    · rename_i hlook
      rw [hlook, textOf_eq_ok_iff.mp h]
    · cases h
  · exact readFlagsFile_of_look

theorem World.readFlagsFile_of_undecodable {world : World} {file : Path} {bytes : Utf8.Bytes}
    {fault : Utf8.Fault} (h : world.look file = .ok bytes)
    (hdecode : Utf8.decode bytes = .error fault) :
    world.readFlagsFile file = .error (.undecodable fault) := by
  simp only [readFlagsFile, h, textOf, hdecode]

/-- A world in which every path leads to one file, only some variables are set, and no user
is known. -/
def World.ofFile (text : Text) (env : Table Text Text) : World where
  look := fun _ => .ok (Utf8.encode text)
  valueOf? := env.get?
  userHome? := fun _ => none

namespace Flags

variable {registry : Registry} {word : WordSize} {valueOf? : Text → Option Text}

namespace Entry

/-- A declaration comes from the two sides of a colon, or from the registry. -/
theorem declaration_eq_ok_iff {entry : Entry} {name typeName : Text} :
    entry.declaration registry = .ok (name, typeName) ↔
      (∃ parts, Text.cutAt? ':' entry.key = some parts ∧ name = Text.strip parts.1 ∧
        typeName = Text.strip parts.2) ∨
      (Text.cutAt? ':' entry.key = none ∧ name = entry.key ∧
        registry.typeOf? entry.key = some typeName) := by
  rw [declaration]
  cases hcut : Text.cutAt? ':' entry.key with
  | some parts =>
    constructor
    · intro h
      obtain ⟨hname, htype⟩ := Prod.mk.inj (Except.ok.inj h)
      exact Or.inl ⟨parts, rfl, hname.symm, htype.symm⟩
    · rintro (⟨_, hparts, rfl, rfl⟩ | ⟨hnone, _⟩)
      · obtain rfl := Option.some.inj hparts
        rfl
      · cases hnone
  | none =>
    cases htype : registry.typeOf? entry.key with
    | none =>
      constructor
      · intro h
        cases h
      · rintro (⟨_, hparts, _⟩ | ⟨_, _, hnone⟩)
        · cases hparts
        · cases hnone
    | some known =>
      constructor
      · intro h
        obtain ⟨hname, htypeName⟩ := Prod.mk.inj (Except.ok.inj h)
        exact Or.inr ⟨rfl, hname.symm, by rw [htypeName]⟩
      · rintro (⟨_, hparts, _⟩ | ⟨_, rfl, hsome⟩)
        · cases hparts
        · rw [Option.some.inj hsome]

theorem setting_eq_ok_iff {entry : Entry} {setting : Setting} :
    entry.setting registry word valueOf? = .ok setting ↔
      entry.declaration registry = .ok (setting.name, setting.typeName) ∧
        TypeName.resolve setting.typeName word = .ok setting.shape ∧
        setting.raw = entry.raw valueOf? := by
  rw [Entry.setting, bind_eq_ok_iff]
  constructor
  · rintro ⟨⟨name, typeName⟩, hdeclaration, h⟩
    obtain ⟨shape, hshape, hsetting⟩ := bind_eq_ok_iff.mp h
    obtain rfl := Except.ok.inj hsetting
    exact ⟨hdeclaration, hshape, rfl⟩
  · rintro ⟨hdeclaration, hshape, hraw⟩
    refine ⟨_, hdeclaration, bind_eq_ok_iff.mpr ⟨_, hshape, ?_⟩⟩
    rw [← hraw]
    rfl

end Entry

/-- The rows of a file that was written as UTF-8 are those of its entries. -/
theorem readEntries_of_look {world : World} {file : Path} {text : Text}
    (hlook : world.look file = .ok (Utf8.encode text)) :
    readEntries world file =
      .ok ((entries text).map fun entry => (entry.key, entry.raw world.valueOf?)) := by
  have htext : world.readText file = .ok text := by
    rw [World.readText, hlook]
    exact World.textOf_eq_ok_iff.mpr rfl
  rw [readEntries, htext]
  rfl

namespace Config

/-- A text makes a configuration of one setting for each of its entries, if it has
any and all have a setting. -/
theorem ofText_eq_ok_iff {file : Path} {text : Text} {config : Config} :
    ofText registry word valueOf? file text = .ok config ↔
      config.file = file ∧ config.word = word ∧ config.settings ≠ [] ∧
        List.Forall₂ (fun entry setting => entry.setting registry word valueOf? = .ok setting)
          (entries text) config.settings := by
  rw [ofText, bind_eq_ok_iff]
  constructor
  · rintro ⟨settings, hsettings, h⟩
    split at h
    · cases h
    · rename_i hne
      obtain rfl := Except.ok.inj h
      exact ⟨rfl, rfl, hne, mapM_eq_ok_iff.mp hsettings⟩
  · rintro ⟨rfl, rfl, hne, hsettings⟩
    exact ⟨config.settings, mapM_eq_ok_iff.mpr hsettings, if_neg hne⟩

/-- Every setting of a configuration is made by an entry of its text. -/
theorem exists_entry_of_ofText {file : Path} {text : Text} {config : Config} {setting : Setting}
    (h : ofText registry word valueOf? file text = .ok config) (hmem : setting ∈ config.settings) :
    ∃ entry ∈ entries text, entry.setting registry word valueOf? = .ok setting := by
  obtain ⟨_, _, _, hsettings⟩ := ofText_eq_ok_iff.mp h
  exact exists_mem_of_forall₂ hsettings hmem

theorem load_eq_ok_iff {world : World} {path : Text} {config : Config} :
    load registry world path word = .ok config ↔
      ∃ file text, world.locate path = .ok file ∧ world.readFlagsFile file = .ok text ∧
        ofText registry word world.valueOf? file text = .ok config := by
  rw [load, bind_eq_ok_iff]
  constructor
  · rintro ⟨file, hfile, h⟩
    obtain ⟨text, htext, hconfig⟩ := bind_eq_ok_iff.mp h
    exact ⟨file, text, hfile, htext, hconfig⟩
  · rintro ⟨file, text, hfile, htext, hconfig⟩
    exact ⟨file, hfile, bind_eq_ok_iff.mpr ⟨text, htext, hconfig⟩⟩

/-- The stages of loading are gone through in order, up to the first fault. -/
theorem load_eq_error_iff {world : World} {path : Text} {fault : Fault} :
    load registry world path word = .error fault ↔
      world.locate path = .error fault ∨
        ∃ file, world.locate path = .ok file ∧
          (world.readFlagsFile file = .error fault ∨
            ∃ text, world.readFlagsFile file = .ok text ∧
              ofText registry word world.valueOf? file text = .error fault) := by
  rw [load, bind_eq_error_iff]
  simp only [bind_eq_error_iff]

end Config

end Flags

end SizeFlags
