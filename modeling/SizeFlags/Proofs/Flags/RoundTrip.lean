import SizeFlags.Proofs.Flags.Expansion
import SizeFlags.Proofs.Flags.Loading
import SizeFlags.Proofs.Flags.Written
import SizeFlags.Proofs.Utf8

set_option autoImplicit false

/-!
# Reading back a written flags file

A written file is loaded as the settings that its flags stand for.  The proof
goes from the inside out: a value is unquoted, a part is freed of its padding, a
line is cut at its two marks, and a file falls into its lines.
-/

namespace SizeFlags

/-! ## Type names -/

namespace TypeName

theorem unbroken_toText (name : TypeName) : Text.Unbroken name.toText := by
  cases name <;> decide

theorem not_mem_toText (name : TypeName) : '=' ∉ name.toText ∧ ':' ∉ name.toText := by
  cases name <;> decide

theorem trimmed_toText (name : TypeName) : Text.Trimmed Text.isBlank name.toText := by
  cases name <;> decide

theorem resolve_toText (name : TypeName) (word : Width) :
    resolve name.toText (.bits word.bits) = .ok (name.shape word) := by
  have hword : WordSize.width? (.bits word.bits) = some word := Width.ofBits?_eq_some_iff.mpr rfl
  have hname : Text.strip name.toText = name.toText := name.trimmed_toText.trim_eq
  exact resolve_eq_ok_iff.mpr ⟨word, name, hword, by rw [hname, ofText?_toText], rfl⟩

end TypeName

namespace Flags

/-! ## Padded texts -/

section

variable {before after : Padding} {t : Text}

theorem strip_padded (h : Text.Trimmed Text.isBlank t) :
    Text.strip (padded before t after) = t :=
  h.trim_padded before.isBlank after.isBlank

theorem unbroken_padded (h : Text.Unbroken t) : Text.Unbroken (padded before t after) := by
  rw [padded, Text.unbroken_append, Text.unbroken_append]
  exact ⟨⟨before.unbroken, h⟩, after.unbroken⟩

/-- A mark that is no blank is not in the padding. -/
theorem not_mem_padded {mark : Char} (hmark : Text.isBlank mark = false) (h : mark ∉ t) :
    mark ∉ padded before t after := by
  have hnot : ∀ padding : Padding, mark ∉ padding.text := fun padding hmem =>
    Bool.false_ne_true (hmark.symm.trans (padding.isBlank mark hmem))
  rw [padded, List.mem_append, List.mem_append]
  rintro ((hbefore | htext) | hafter)
  · exact hnot before hbefore
  · exact h htext
  · exact hnot after hafter

end

/-! ## Values -/

namespace Quoting

variable {quoting : Quoting} {t : Text} (h : Text.Trimmed quoting.loses t)
include h

/-- A text between its quotes begins and ends with no blank. -/
theorem trimmed_quoted : Text.Trimmed Text.isBlank (quoting.quote ++ t ++ quoting.quote) := by
  cases quoting with
  | bare =>
    rw [quote, List.nil_append, List.append_nil]
    exact h.of_imp fun c hc => by simp [loses, hc]
  | quotationMarks => exact Text.trimmed_between (by decide) _
  | apostrophes => exact Text.trimmed_between (by decide) _

/-- Only the quotes around a text are taken off. -/
theorem unquote_quoted : unquote (quoting.quote ++ t ++ quoting.quote) = t := by
  have hinner : Text.Trimmed (fun c => c = Text.apostrophe) t :=
    h.of_imp fun c hc => by
      cases quoting <;> simp [loses, of_decide_eq_true hc]
  rw [unquote]
  cases quoting with
  | bare =>
    have houter : Text.Trimmed (fun c => c = Text.quotationMark) t :=
      h.of_imp fun c hc => by simp [loses, of_decide_eq_true hc]
    rw [quote, List.nil_append, List.append_nil, houter.trim_eq, hinner.trim_eq]
  | quotationMarks =>
    have houter : Text.Trimmed (fun c => c = Text.quotationMark) t :=
      h.of_imp fun c hc => by simp [loses, of_decide_eq_true hc]
    rw [quote, houter.trim_padded (by simp) (by simp), hinner.trim_eq]
  | apostrophes =>
    -- the apostrophes protect what is between them from the first of the two trims
    have houter : Text.Trimmed (fun c => c = Text.quotationMark)
        ([Text.apostrophe] ++ t ++ [Text.apostrophe]) :=
      Text.trimmed_between (by decide) _
    rw [quote, houter.trim_eq, hinner.trim_padded (by simp) (by simp)]

end Quoting

namespace WrittenValue

theorem trimmed_toText (value : WrittenValue) : Text.Trimmed Text.isBlank value.toText :=
  Quoting.trimmed_quoted value.trimmed

theorem unquote_toText (value : WrittenValue) : unquote value.toText = value.text :=
  Quoting.unquote_quoted value.trimmed

theorem unbroken_toText (value : WrittenValue) : Text.Unbroken value.toText := by
  have hquote : Text.Unbroken value.quoting.quote := by
    cases value.quoting <;> decide
  rw [toText, Text.unbroken_append, Text.unbroken_append]
  exact ⟨⟨hquote, value.unbroken⟩, hquote⟩

end WrittenValue

/-! ## Lines -/

namespace WrittenFlag

variable (flag : WrittenFlag)

theorem no_equals_declaration : '=' ∉ flag.declaration := by
  have htype : '=' ∉ flag.typeName.toText := flag.typeName.not_mem_toText.1
  rw [declaration, List.mem_append, List.mem_cons]
  rintro (hname | heq | hmem)
  · exact not_mem_padded (by decide) flag.name_no_equals hname
  · exact absurd heq (by decide)
  · exact not_mem_padded (by decide) htype hmem

theorem unbroken_toText : Text.Unbroken flag.toText := by
  rw [toText, declaration, Text.unbroken_append, Text.unbroken_append, Text.unbroken_cons,
    Text.unbroken_cons]
  exact ⟨⟨unbroken_padded flag.name_unbroken, by decide,
    unbroken_padded flag.typeName.unbroken_toText⟩, by decide,
    unbroken_padded flag.value.unbroken_toText⟩

/-- The line of a flag is no comment, even if the flag has no name. -/
theorem head?_strip_declaration : (Text.strip flag.declaration).head? ≠ some '#' := by
  have htext : flag.declaration = flag.beforeName.text ++ (flag.name ++ (flag.afterName.text ++
      ':' :: padded flag.beforeType flag.typeName.toText flag.afterType)) := by
    simp [declaration, padded]
  rw [Text.strip, Text.head?_trim, htext, Text.trimStart_append_of_all flag.beforeName.isBlank]
  cases hname : flag.name with
  | nil =>
    rw [List.nil_append, Text.trimStart_append_of_all flag.afterName.isBlank]
    simp [Text.trimStart, show Text.isBlank ':' = false by decide]
  | cons c rest =>
    have hc : Text.isBlank c = false := flag.name_trimmed.head c (by rw [hname]; rfl)
    have hcomment : c ≠ '#' := by
      rintro rfl
      exact flag.name_no_comment (by rw [hname]; rfl)
    simp [Text.trimStart, hc, hcomment]

/-- The line of a flag is cut where it was put together. -/
theorem ofLine?_toText :
    Entry.ofLine? flag.toText = some ⟨Text.strip flag.declaration, flag.value.text⟩ := by
  rw [toText, Entry.ofLine?_append_equals _ flag.no_equals_declaration flag.head?_strip_declaration,
    strip_padded flag.value.trimmed_toText, flag.value.unquote_toText]

/-- The key of a line is cut at its colon, and each part loses its padding. -/
theorem declaration_strip (registry : Registry) :
    Entry.declaration registry ⟨Text.strip flag.declaration, flag.value.text⟩ =
      .ok (flag.name, flag.typeName.toText) := by
  have hcut : Text.cutAt? ':' flag.declaration =
      some (padded flag.beforeName flag.name flag.afterName,
        padded flag.beforeType flag.typeName.toText flag.afterType) :=
    Text.cutAt?_append _ (not_mem_padded (by decide) flag.name_no_colon)
  have hstripped : Text.cutAt? ':' (Text.strip flag.declaration) =
      some (Text.trimStart Text.isBlank (padded flag.beforeName flag.name flag.afterName),
        Text.trimEnd Text.isBlank
          (padded flag.beforeType flag.typeName.toText flag.afterType)) := by
    rw [Text.strip, Text.cutAt?_trim (by decide), hcut]
    rfl
  have hname : Text.strip (Text.trimStart Text.isBlank
      (padded flag.beforeName flag.name flag.afterName)) = flag.name :=
    (Text.trim_trimStart _ _).trans (strip_padded flag.name_trimmed)
  have htype : Text.strip (Text.trimEnd Text.isBlank
      (padded flag.beforeType flag.typeName.toText flag.afterType)) = flag.typeName.toText :=
    (Text.trim_trimEnd _ _).trans (strip_padded flag.typeName.trimmed_toText)
  simp only [Entry.declaration, hstripped, hname, htype]

theorem setting_ofLine (registry : Registry) (word : Width) (valueOf? : Text → Option Text) :
    Entry.setting registry (.bits word.bits) valueOf?
      ⟨Text.strip flag.declaration, flag.value.text⟩ = .ok (flag.setting word) := by
  have hraw : flag.value.text = Entry.raw valueOf? ⟨Text.strip flag.declaration, flag.value.text⟩ :=
    (expand_of_no_dollar valueOf? flag.value.no_reference).symm
  exact Entry.setting_eq_ok_iff.mpr
    ⟨flag.declaration_strip registry, flag.typeName.resolve_toText word, hraw⟩

end WrittenFlag

namespace FileLine

theorem unbroken_toText (line : FileLine) : Text.Unbroken line.toText := by
  cases line with
  | flag written => exact written.unbroken_toText
  | ignored line => exact line.unbroken

/-- A line has the entry of its flag. -/
theorem ofLine?_toText (line : FileLine) :
    Entry.ofLine? line.toText =
      line.flag?.map fun flag => ⟨Text.strip flag.declaration, flag.value.text⟩ := by
  cases line with
  | flag written => exact written.ofLine?_toText
  | ignored line =>
    show Entry.ofLine? line.text = none
    rcases line.ignored with hblank | hcomment | hequals
    · rw [Entry.ofLine?, hblank]
      rfl
    · rw [Entry.ofLine?, if_pos hcomment]
    · have hcut : Text.cutAt? '=' line.text = none := Text.cutAt?_eq_none_iff.mpr hequals
      rw [Entry.ofLine?_eq, hcut, Option.map_none, ite_self]

end FileLine

/-! ## Files -/

namespace WrittenFile

theorem entries_toText (file : WrittenFile) :
    entries file.toText =
      file.flags.map fun flag => ⟨Text.strip flag.declaration, flag.value.text⟩ := by
  obtain ⟨first, rest⟩ := file
  induction rest generalizing first with
  | nil =>
    rw [WrittenFile.toText, List.flatMap_nil, List.append_nil,
      entries_of_unbroken first.unbroken_toText, first.ofLine?_toText]
    cases hflag : first.flag? <;> simp [WrittenFile.flags, hflag]
  | cons part rest ih =>
    obtain ⟨between, line⟩ := part
    have htext : WrittenFile.toText ⟨first, (between, line) :: rest⟩ =
        first.toText ++ (between.val ++ WrittenFile.toText ⟨line, rest⟩) := by
      simp [WrittenFile.toText]
    rw [htext, ← List.append_assoc, entries_append between.property,
      entries_of_unbroken first.unbroken_toText, ih, first.ofLine?_toText]
    cases hflag : first.flag? <;> simp [WrittenFile.flags, hflag]

theorem ofText_toText (file : WrittenFile) (hflags : file.flags ≠ []) (registry : Registry)
    (word : Width) (valueOf? : Text → Option Text) (located : Path) :
    Config.ofText registry (.bits word.bits) valueOf? located file.toText =
      .ok ⟨located, .bits word.bits, file.flags.map (WrittenFlag.setting word)⟩ := by
  have hne : file.flags.map (WrittenFlag.setting word) ≠ [] := by simpa using hflags
  refine Config.ofText_eq_ok_iff.mpr ⟨rfl, rfl, hne, ?_⟩
  rw [file.entries_toText, List.forall₂_map_left_iff, List.forall₂_map_right_iff, List.forall₂_same]
  intro flag _
  exact flag.setting_ofLine registry word valueOf?

end WrittenFile

/-- A file that is written in any of the allowed ways is loaded as the settings of
its flags, in order, whatever the registry and the variables. -/
theorem load_eq_of_written (file : WrittenFile) (hflags : file.flags ≠ []) (registry : Registry)
    (world : World) (path : Text) (word : Width) {located : Path}
    (hlocated : world.locate path = .ok located)
    (hlook : world.look located = .ok (Utf8.encode file.toText)) :
    Config.load registry world path (.bits word.bits) =
        .ok ⟨located, .bits word.bits, file.flags.map (WrittenFlag.setting word)⟩ ∧
      ∀ flag ∈ file.flags,
        TypeName.resolve flag.typeName.toText (.bits word.bits) = .ok (flag.setting word).shape := by
  refine ⟨?_, fun flag _ => flag.typeName.resolve_toText word⟩
  have htext : world.readFlagsFile located = .ok file.toText := by
    simp only [World.readFlagsFile, hlook, World.textOf, Utf8.decode_encode]
  exact Config.load_eq_ok_iff.mpr ⟨located, file.toText, hlocated, htext,
    file.ofText_toText hflags registry word world.valueOf? located⟩

/-- A comment, a flag in apostrophes whose value has blanks and quotation marks at its
ends, a blank line whose break would join the one before it, and a flag without
a value. -/
def sampleFile : WrittenFile where
  first := .ignored ⟨" # A:int=1".toList, by decide, by decide⟩
  rest :=
    [(⟨['\r', '\n'], by decide⟩, .flag {
        beforeName := ⟨['\t'], List.all_eq_true.mp rfl, by decide⟩
        name := "Stack Size".toList
        afterName := ⟨[' '], List.all_eq_true.mp rfl, by decide⟩
        beforeType := ⟨[' '], List.all_eq_true.mp rfl, by decide⟩
        typeName := .intx
        afterType := .empty
        beforeValue := ⟨[' '], List.all_eq_true.mp rfl, by decide⟩
        value := ⟨" \"-5=#\"".toList, .apostrophes, by decide, by decide, by decide⟩
        afterValue := ⟨['\u00a0'], List.all_eq_true.mp rfl, by decide⟩
        name_unbroken := by decide
        name_no_equals := by decide
        name_no_colon := by decide
        name_trimmed := by decide
        name_no_comment := by decide }),
      (⟨['\r'], by decide⟩, .ignored ⟨[], by decide, by decide⟩),
      (⟨['\n'], by decide⟩, .flag {
        beforeName := .empty
        name := "Stack Size".toList
        afterName := .empty
        beforeType := .empty
        typeName := .size_t
        afterType := .empty
        beforeValue := .empty
        value := ⟨[], .bare, by decide, by decide, by decide⟩
        afterValue := .empty
        name_unbroken := by decide
        name_no_equals := by decide
        name_no_colon := by decide
        name_trimmed := by decide
        name_no_comment := by decide })]

theorem load_eq_of_written_sampleFile :
    sampleFile.toText =
        " # A:int=1\r\n\tStack Size : intx= ' \"-5=#\"'\u00a0\r\nStack Size:size_t=".toList ∧
      sampleFile.flags ≠ [] ∧
      (World.ofFile sampleFile.toText []).locate "a".toList = .ok (Path.ofText "a".toList) ∧
      Config.load [] (.ofFile sampleFile.toText []) "a".toList (.bits 32) =
        .ok ⟨Path.ofText "a".toList, .bits 32,
          [⟨"Stack Size".toList, "intx".toList, .int32, " \"-5=#\"".toList⟩,
            ⟨"Stack Size".toList, "size_t".toList, .uint32, []⟩]⟩ :=
  ⟨by decide, by decide, rfl,
    (load_eq_of_written sampleFile (by decide) [] (.ofFile sampleFile.toText []) "a".toList .bits32
      rfl rfl).1⟩

end Flags

end SizeFlags
