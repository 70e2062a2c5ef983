import SizeFlags.Proofs.Flags.Entry
import SizeFlags.Proofs.Flags.Loading

set_option autoImplicit false

/-!
# The fault of a flags file

A file at which loading fails can be wrong in several ways at once.  Bytes that are
no text come first, wherever they stand.  Then each entry is asked, in order, for a
type name, a supported word size and a known type, and the first entry that does not
have them decides.  Only a file without entries is said to have no flags.  Main
statement: when a file is loaded, as what, and which fault it has otherwise.
-/

namespace SizeFlags

/-! ## Names and word sizes -/

theorem WordSize.exists_width?_iff {count : Int} :
    (∃ width, width? (.bits count) = some width) ↔ count = 32 ∨ count = 64 := by
  constructor
  · rintro ⟨width, hwidth⟩
    have hcount : count = width.bits := Width.ofBits?_eq_some_iff.mp hwidth
    cases width
    · exact Or.inl hcount
    · exact Or.inr hcount
  · rintro (rfl | rfl)
    · exact ⟨.bits32, rfl⟩
    · exact ⟨.bits64, rfl⟩

namespace TypeName

theorem ofText?_eq_some_iff {t : Text} {known : TypeName} :
    ofText? t = some known ↔ t = known.toText := by
  constructor
  · intro h
    unfold ofText? at h
    have htext := List.find?_some h
    exact (of_decide_eq_true htext).symm
  · rintro rfl
    exact ofText?_toText known

theorem ofText?_eq_none_iff {t : Text} : ofText? t = none ↔ ∀ known : TypeName, t ≠ known.toText := by
  rw [Option.eq_none_iff_forall_ne_some]
  simp only [ne_eq, ofText?_eq_some_iff]

/-- The word size is looked at before the name. -/
theorem resolve_eq_error_iff {name : Text} {count : Int} {fault : Fault} :
    resolve name (.bits count) = .error fault ↔
      (¬ (count = 32 ∨ count = 64) ∧ fault = .unsupportedWordSize (.bits count)) ∨
        ((count = 32 ∨ count = 64) ∧ (∀ known : TypeName, Text.strip name ≠ known.toText) ∧
          fault = .unknownType name) := by
  rw [resolve, ← WordSize.exists_width?_iff]
  cases WordSize.width? (.bits count) with
  | none => simp [eq_comm]
  | some width =>
    cases hname : ofText? (Text.strip name) with
    | none => simp [ofText?_eq_none_iff.mp hname, eq_comm]
    | some known =>
      constructor
      · intro h
        cases h
      · rintro (⟨hnot, _⟩ | ⟨_, hunknown, _⟩)
        · exact absurd ⟨width, rfl⟩ hnot
        · exact absurd (ofText?_eq_some_iff.mp hname) (hunknown known)

end TypeName

namespace Flags

variable {registry : Registry} {valueOf? : Text → Option Text}

/-! ## Entries -/

namespace Entry

/-- The name and the type name that an entry declares: the two sides of the first colon of
its key, or the whole key and what the registry holds for it, unless that is empty. -/
inductive Declares (registry : Registry) (entry : Entry) : Text → Text → Prop where
  | inline {before after : Text} (key : entry.key = before ++ ':' :: after)
      (first : ':' ∉ before) : Declares registry entry (Text.strip before) (Text.strip after)
  | registered {typeName : Text} (plain : ':' ∉ entry.key)
      (known : registry.get? entry.key = some typeName) (nonempty : typeName ≠ []) :
      Declares registry entry entry.key typeName

/-- What keeps an entry from making a setting for words of some bits.  An entry has at
most one such fault: each is looked for only where those before it are not. -/
inductive Offence (registry : Registry) (bits : Int) (entry : Entry) : Fault → Prop where
  /-- no type is written for it, and the registry has none -/
  | untyped (plain : ':' ∉ entry.key)
      (unknown : ∀ typeName ∈ registry.get? entry.key, typeName = []) :
      Offence registry bits entry (.untypedFlag entry.key)
  | wordSize {name typeName : Text} (declared : entry.Declares registry name typeName)
      (unsupported : ¬ (bits = 32 ∨ bits = 64)) :
      Offence registry bits entry (.unsupportedWordSize (.bits bits))
  | unknownType {name typeName : Text} (declared : entry.Declares registry name typeName)
      (supported : bits = 32 ∨ bits = 64)
      (unknown : ∀ known : TypeName, Text.strip typeName ≠ known.toText) :
      Offence registry bits entry (.unknownType typeName)

variable {entry : Entry} {bits : Int} {fault : Fault}

theorem declaration_eq_ok_iff_declares {name typeName : Text} :
    entry.declaration registry = .ok (name, typeName) ↔ entry.Declares registry name typeName := by
  rw [declaration_eq_ok_iff]
  constructor
  · rintro (⟨⟨before, after⟩, hcut, rfl, rfl⟩ | ⟨hcut, rfl, htype⟩)
    · obtain ⟨hkey, hfirst⟩ := Text.eq_of_cutAt? hcut
      exact .inline hkey hfirst
    · obtain ⟨hknown, hnonempty⟩ := Option.filter_eq_some_iff.mp htype
      exact .registered (Text.cutAt?_eq_none_iff.mp hcut) hknown (of_decide_eq_true hnonempty)
  · rintro (⟨hkey, hfirst⟩ | ⟨hplain, hknown, hnonempty⟩)
    · refine Or.inl ⟨(_, _), ?_, rfl, rfl⟩
      rw [hkey]
      exact Text.cutAt?_append _ hfirst
    · refine Or.inr ⟨Text.cutAt?_eq_none_iff.mpr hplain, rfl, ?_⟩
      exact Option.filter_eq_some_iff.mpr ⟨hknown, decide_eq_true hnonempty⟩

theorem declaration_eq_error_iff :
    entry.declaration registry = .error fault ↔
      ':' ∉ entry.key ∧ (∀ typeName ∈ registry.get? entry.key, typeName = []) ∧
        fault = .untypedFlag entry.key := by
  rw [declaration]
  cases hcut : Text.cutAt? ':' entry.key with
  | some parts =>
    have hcolon : ':' ∈ entry.key := by
      rw [(Text.eq_of_cutAt? hcut).1]
      simp
    simp [hcolon]
  | none =>
    have hplain : ':' ∉ entry.key := Text.cutAt?_eq_none_iff.mp hcut
    cases htype : registry.typeOf? entry.key with
    | some typeName =>
      obtain ⟨hknown, hnonempty⟩ := Option.filter_eq_some_iff.mp htype
      simpa [hknown] using fun _ h => absurd h (of_decide_eq_true hnonempty)
    | none =>
      have hunknown : ∀ typeName ∈ registry.get? entry.key, typeName = [] := by
        intro typeName hknown
        by_contra hnonempty
        rw [Registry.typeOf?, hknown, Option.filter_some, if_pos (decide_eq_true hnonempty)] at htype
        cases htype
      constructor
      · intro h
        exact ⟨hplain, hunknown, (Except.error.inj h).symm⟩
      · rintro ⟨_, _, rfl⟩
        rfl

/-- An entry fails to make a setting exactly for its fault. -/
theorem setting_eq_error_iff :
    entry.setting registry (.bits bits) valueOf? = .error fault ↔
      entry.Offence registry bits fault := by
  rw [setting, bind_eq_error_iff, declaration_eq_error_iff]
  constructor
  · rintro (⟨hplain, hunknown, rfl⟩ | ⟨⟨name, typeName⟩, hdeclared, h⟩)
    · exact .untyped hplain hunknown
    · have hdeclares := declaration_eq_ok_iff_declares.mp hdeclared
      rcases bind_eq_error_iff.mp h with hshape | ⟨_, _, hend⟩
      · rcases TypeName.resolve_eq_error_iff.mp hshape with
          ⟨hunsupported, rfl⟩ | ⟨hsupported, hunknown, rfl⟩
        · exact .wordSize hdeclares hunsupported
        · exact .unknownType hdeclares hsupported hunknown
      · cases hend
  · intro h
    cases h with
    | untyped hplain hunknown => exact Or.inl ⟨hplain, hunknown, rfl⟩
    | @wordSize name typeName hdeclares hunsupported =>
      have hshape : TypeName.resolve typeName (.bits bits) = _ :=
        TypeName.resolve_eq_error_iff.mpr (Or.inl ⟨hunsupported, rfl⟩)
      exact Or.inr ⟨_, declaration_eq_ok_iff_declares.mpr hdeclares,
        bind_eq_error_iff.mpr (Or.inl hshape)⟩
    | @unknownType name typeName hdeclares hsupported hunknown =>
      have hshape : TypeName.resolve typeName (.bits bits) = _ :=
        TypeName.resolve_eq_error_iff.mpr (Or.inr ⟨hsupported, hunknown, rfl⟩)
      exact Or.inr ⟨_, declaration_eq_ok_iff_declares.mpr hdeclares,
        bind_eq_error_iff.mpr (Or.inl hshape)⟩

theorem exists_setting_iff_no_offence :
    (∃ setting, entry.setting registry (.bits bits) valueOf? = .ok setting) ↔
      ∀ fault, ¬ entry.Offence registry bits fault := by
  constructor
  · rintro ⟨setting, hsetting⟩ fault hoffence
    rw [setting_eq_error_iff.mpr hoffence] at hsetting
    cases hsetting
  · intro h
    cases hsetting : entry.setting registry (.bits bits) valueOf? with
    | ok setting => exact ⟨setting, rfl⟩
    | error fault => exact absurd (setting_eq_error_iff.mp hsetting) (h fault)

theorem exists_setting_iff :
    (∃ setting, entry.setting registry (.bits bits) valueOf? = .ok setting) ↔
      (bits = 32 ∨ bits = 64) ∧ ∃ name typeName, entry.Declares registry name typeName ∧
        ∃ known : TypeName, Text.strip typeName = known.toText := by
  rw [← WordSize.exists_width?_iff]
  constructor
  · rintro ⟨setting, h⟩
    obtain ⟨hdeclared, hshape, _⟩ := setting_eq_ok_iff.mp h
    obtain ⟨width, known, hwidth, hknown, _⟩ := TypeName.resolve_eq_ok_iff.mp hshape
    exact ⟨⟨width, hwidth⟩, _, _, declaration_eq_ok_iff_declares.mp hdeclared, known,
      TypeName.ofText?_eq_some_iff.mp hknown⟩
  · rintro ⟨⟨width, hwidth⟩, name, typeName, hdeclares, known, hknown⟩
    have hshape : TypeName.resolve typeName (.bits bits) = .ok (known.shape width) :=
      TypeName.resolve_eq_ok_iff.mpr
        ⟨width, known, hwidth, TypeName.ofText?_eq_some_iff.mpr hknown, rfl⟩
    exact ⟨⟨name, typeName, known.shape width, entry.raw valueOf?⟩,
      setting_eq_ok_iff.mpr ⟨declaration_eq_ok_iff_declares.mpr hdeclares, hshape, rfl⟩⟩

/-- What is written before the first colon has none, and a key never has an equals sign. -/
theorem Declares.not_mem_name {name typeName : Text} (h : entry.Declares registry name typeName)
    (hkey : '=' ∉ entry.key) : ':' ∉ name ∧ '=' ∉ name := by
  cases h with
  | inline key first =>
    rw [key, List.mem_append, not_or] at hkey
    exact ⟨fun hmem => first (Text.mem_of_mem_trim hmem),
      fun hmem => hkey.1 (Text.mem_of_mem_trim hmem)⟩
  | registered plain => exact ⟨plain, hkey⟩

end Entry

/-! ## Files -/

/-- The first entry, in order, that has a fault. -/
def FirstOffence (registry : Registry) (bits : Int) (entries : List Entry) (fault : Fault) : Prop :=
  ∃ before entry after, entries = before ++ entry :: after ∧
    (∀ other ∈ before, ∀ cause, ¬ other.Offence registry bits cause) ∧
    entry.Offence registry bits fault

variable {bits : Int} {fault : Fault}

/-- What stands behind the first entry with a fault makes no difference. -/
theorem FirstOffence.append {entries : List Entry} (h : FirstOffence registry bits entries fault)
    (later : List Entry) : FirstOffence registry bits (entries ++ later) fault := by
  obtain ⟨before, entry, after, rfl, hbefore, hentry⟩ := h
  exact ⟨before, entry, after ++ later, by simp, hbefore, hentry⟩

theorem mapM_setting_eq_error_iff {entries : List Entry} :
    entries.mapM (fun entry => entry.setting registry (.bits bits) valueOf?) = .error fault ↔
      FirstOffence registry bits entries fault := by
  rw [mapM_eq_error_iff, FirstOffence]
  simp only [Entry.exists_setting_iff_no_offence, Entry.setting_eq_error_iff]

theorem equals_not_mem_key_of_mem_entries {text : Text} {entry : Entry} (h : entry ∈ entries text) :
    '=' ∉ entry.key := by
  obtain ⟨line, _, hentry⟩ := List.mem_filterMap.mp h
  exact (Entry.mem_line_of_ofLine? hentry).2

namespace Config

variable {file : Path} {text : Text}

/-- The fault of a text is that of its first entry with a fault, or that it has no entries. -/
theorem ofText_eq_error_iff :
    ofText registry (.bits bits) valueOf? file text = .error fault ↔
      FirstOffence registry bits (entries text) fault ∨
        (entries text = [] ∧ fault = .noFlags file) := by
  rw [ofText, bind_eq_error_iff, mapM_setting_eq_error_iff]
  refine or_congr_right ⟨?_, ?_⟩
  · rintro ⟨settings, hsettings, h⟩
    split at h
    · rename_i hnil
      rw [hnil, mapM_eq_ok_iff, List.forall₂_nil_right_iff] at hsettings
      exact ⟨hsettings, (Except.error.inj h).symm⟩
    · cases h
  · rintro ⟨hnil, rfl⟩
    rw [hnil]
    exact ⟨[], rfl, rfl⟩

theorem exists_ofText_iff :
    (∃ config, ofText registry (.bits bits) valueOf? file text = .ok config) ↔
      entries text ≠ [] ∧ ∀ entry ∈ entries text, ∃ setting,
        entry.setting registry (.bits bits) valueOf? = .ok setting := by
  rw [← exists_mapM_eq_ok_iff]
  simp only [ofText_eq_ok_iff, mapM_eq_ok_iff]
  constructor
  · rintro ⟨config, _, _, hne, hsettings⟩
    refine ⟨?_, config.settings, hsettings⟩
    intro hnil
    rw [hnil, List.forall₂_nil_left_iff] at hsettings
    exact hne hsettings
  · rintro ⟨hne, settings, hsettings⟩
    refine ⟨⟨file, .bits bits, settings⟩, rfl, rfl, ?_, hsettings⟩
    rintro rfl
    exact hne (List.forall₂_nil_right_iff.mp hsettings)

/-- What each entry of a loaded text gave. -/
theorem forall₂_of_ofText {config : Config}
    (h : ofText registry (.bits bits) valueOf? file text = .ok config) :
    List.Forall₂ (fun entry setting =>
      entry.Declares registry setting.name setting.typeName ∧
        TypeName.resolve setting.typeName (.bits bits) = .ok setting.shape ∧
        setting.raw = entry.raw valueOf? ∧ ':' ∉ setting.name ∧ '=' ∉ setting.name)
      (entries text) config.settings := by
  obtain ⟨_, _, _, hsettings⟩ := ofText_eq_ok_iff.mp h
  refine List.Forall₂.imp ?_ ((List.forall₂_and_left _ _).mpr
    ⟨fun entry hentry => equals_not_mem_key_of_mem_entries hentry, hsettings⟩)
  rintro entry setting ⟨hkey, hsetting⟩
  obtain ⟨hdeclared, hshape, hraw⟩ := Entry.setting_eq_ok_iff.mp hsetting
  have hdeclares := Entry.declaration_eq_ok_iff_declares.mp hdeclared
  exact ⟨hdeclares, hshape, hraw, hdeclares.not_mem_name hkey⟩

section

variable {world : World} {path : Text} {bytes : Utf8.Bytes}
variable (hlocate : world.locate path = .ok file) (hlook : world.look file = .ok bytes)
include hlocate hlook

/-- The bytes are read as a text first, and all of it is read. -/
theorem load_of_look (word : WordSize) :
    load registry world path word =
      World.textOf bytes >>= ofText registry word world.valueOf? file := by
  rw [load, hlocate]
  show (world.readFlagsFile file >>= _) = _
  rw [World.readFlagsFile, hlook]

theorem load_eq_ok_iff_of_look {word : WordSize} {config : Config} :
    load registry world path word = .ok config ↔
      ∃ text, bytes = Utf8.encode text ∧
        ofText registry word world.valueOf? file text = .ok config := by
  rw [load_of_look hlocate hlook, bind_eq_ok_iff]
  simp only [World.textOf_eq_ok_iff]

theorem load_eq_error_iff_of_look {word : WordSize} {fault : Fault} :
    load registry world path word = .error fault ↔
      (∃ cause, Utf8.decode bytes = .error cause ∧ fault = .undecodable cause) ∨
        ∃ text, bytes = Utf8.encode text ∧
          ofText registry word world.valueOf? file text = .error fault := by
  rw [load_of_look hlocate hlook, bind_eq_error_iff]
  simp only [World.textOf_eq_ok_iff, World.textOf_eq_error_iff]

end

/-- A regular file is loaded exactly if its bytes are those of a text, it has entries, the word
size is supported and each entry declares a known type.  What is loaded is a setting for each
entry, in order.  Otherwise the fault is that of the bytes; or that of the first entry that
has one, whatever stands behind its line; or, without any entry, that there are no flags. -/
theorem load_of_regular_file (registry : Registry) {world : World} {path : Text} {file : Path}
    {bytes : Utf8.Bytes} (bits : Int) (hlocate : world.locate path = .ok file)
    (hlook : world.look file = .ok bytes) :
    ((∃ config, load registry world path (.bits bits) = .ok config) ↔
      ∃ text, bytes = Utf8.encode text ∧ entries text ≠ [] ∧ (bits = 32 ∨ bits = 64) ∧
        ∀ entry ∈ entries text, ∃ name typeName, entry.Declares registry name typeName ∧
          ∃ known : TypeName, Text.strip typeName = known.toText) ∧
    (∀ config, load registry world path (.bits bits) = .ok config →
      ∃ text, bytes = Utf8.encode text ∧ config.file = file ∧ config.word = .bits bits ∧
        List.Forall₂ (fun entry setting =>
          entry.Declares registry setting.name setting.typeName ∧
            TypeName.resolve setting.typeName (.bits bits) = .ok setting.shape ∧
            setting.raw = entry.raw world.valueOf? ∧ ':' ∉ setting.name ∧ '=' ∉ setting.name)
          (entries text) config.settings) ∧
    (∀ fault, load registry world path (.bits bits) = .error fault ↔
      (∃ cause, Utf8.decode bytes = .error cause ∧ fault = .undecodable cause) ∨
        ∃ text, bytes = Utf8.encode text ∧
          (FirstOffence registry bits (entries text) fault ∨
            (entries text = [] ∧ fault = .noFlags file))) ∧
    ((∃ cause, Utf8.decode bytes = .error cause) ↔ ∀ text, bytes ≠ Utf8.encode text) ∧
    ∀ start between rest fault, between ∈ Text.breaks →
      bytes = Utf8.encode (start ++ between ++ rest) →
      FirstOffence registry bits (entries start) fault →
      load registry world path (.bits bits) = .error fault ∧
        ∀ (other : World) later, other.locate path = .ok file →
          other.look file = .ok (Utf8.encode (start ++ between ++ later)) →
          load registry other path (.bits bits) = .error fault := by
  refine ⟨?loads, ?loaded, ?faults, ?undecodable, ?later⟩
  case loads =>
    simp only [load_eq_ok_iff_of_look hlocate hlook]
    rw [exists_comm]
    refine exists_congr fun text => ?_
    rw [exists_and_left, exists_ofText_iff]
    refine and_congr_right fun _ => and_congr_right fun hne => ?_
    simp only [Entry.exists_setting_iff]
    obtain ⟨first, hfirst⟩ := List.exists_mem_of_ne_nil _ hne
    constructor
    · intro h
      exact ⟨(h first hfirst).1, fun entry hentry => (h entry hentry).2⟩
    · rintro ⟨hbits, h⟩ entry hentry
      exact ⟨hbits, h entry hentry⟩
  case loaded =>
    intro config hload
    obtain ⟨text, hbytes, htext⟩ := (load_eq_ok_iff_of_look hlocate hlook).mp hload
    obtain ⟨hfile, hword, _⟩ := ofText_eq_ok_iff.mp htext
    exact ⟨text, hbytes, hfile, hword, forall₂_of_ofText htext⟩
  case faults =>
    intro fault
    rw [load_eq_error_iff_of_look hlocate hlook]
    simp only [ofText_eq_error_iff]
  case undecodable => exact Utf8.exists_decode_eq_error_iff
  case later =>
    intro start between rest fault hbetween hbytes hfirst
    have hany : ∀ (other : World) later, other.locate path = .ok file →
        other.look file = .ok (Utf8.encode (start ++ between ++ later)) →
        load registry other path (.bits bits) = .error fault := by
      intro other later hlocate hlook
      refine (load_eq_error_iff_of_look hlocate hlook).mpr (Or.inr ⟨_, rfl, ?_⟩)
      rw [ofText_eq_error_iff, entries_append hbetween]
      exact Or.inl (hfirst.append _)
    exact ⟨hany world rest hlocate (hbytes ▸ hlook), hany⟩

/-- A file whose second flag has no type, and its third an unknown one: the second is the fault,
but with an unsupported word size it is the first. -/
theorem load_of_regular_file_competing :
    let world := World.ofFile "X:int=1\nY=2\nZ:bad=3".toList []
    load [] world "f".toList (.bits 64) = .error (.untypedFlag "Y".toList) ∧
      load [] world "f".toList (.bits 16) = .error (.unsupportedWordSize (.bits 16)) := by
  intro world
  have hlocate : world.locate "f".toList = .ok (Path.ofText "f".toList) := rfl
  have hentries : entries "X:int=1\nY=2\nZ:bad=3".toList =
      [⟨"X:int".toList, "1".toList⟩, ⟨"Y".toList, "2".toList⟩, ⟨"Z:bad".toList, "3".toList⟩] := by
    decide
  have hX : Entry.Declares [] ⟨"X:int".toList, "1".toList⟩ (Text.strip "X".toList)
      (Text.strip "int".toList) := .inline rfl (by decide)
  constructor
  · have hfirst : FirstOffence [] 64 (entries "X:int=1\nY=2\nZ:bad=3".toList)
        (.untypedFlag "Y".toList) := by
      refine ⟨[_], _, [_], hentries, ?_, .untyped (by decide) (by simp [Table.get?])⟩
      have hfirst : ∃ setting, Entry.setting [] (.bits 64) world.valueOf?
          ⟨"X:int".toList, "1".toList⟩ = .ok setting :=
        Entry.exists_setting_iff.mpr ⟨Or.inr rfl, _, _, hX, .int, by decide⟩
      exact List.forall_mem_singleton.mpr (Entry.exists_setting_iff_no_offence.mp hfirst)
    exact ((load_of_regular_file [] 64 hlocate rfl).2.2.1 _).mpr (Or.inr ⟨_, rfl, Or.inl hfirst⟩)
  · have hfirst : FirstOffence [] 16 (entries "X:int=1\nY=2\nZ:bad=3".toList)
        (.unsupportedWordSize (.bits 16)) :=
      ⟨[], _, _, hentries, by simp, .wordSize hX (by decide)⟩
    exact ((load_of_regular_file [] 16 hlocate rfl).2.2.1 _).mpr (Or.inr ⟨_, rfl, Or.inl hfirst⟩)

end Config

end Flags

end SizeFlags
