import SizeFlags.Proofs.Flags.Faults
import SizeFlags.Proofs.Flags.Report
import SizeFlags.Proofs.Text.ReadBack

set_option autoImplicit false

/-!
# Reports can be read back

A report tells what the file and the variables made of each flag.  In a line every part
ends at a character that it cannot hold itself: a name at an equals sign or a colon, a
size and a type name at a space, the name of a shape at a parenthesis, and what follows is
quoted.  The header may go over several lines, but the last line counts those in front of
it.  Main statement: reports that are printed alike are about flags with the same names,
sizes and types, and about the same refused values.
-/

namespace SizeFlags

/-- Two cuts of one text at a mark that neither first part holds are the same. -/
theorem Text.cut_unique {mark : Char} {before after before' after' : Text}
    (h : before ++ mark :: after = before' ++ mark :: after') (hmark : mark ∉ before)
    (hmark' : mark ∉ before') : before = before' ∧ after = after' := by
  have hcut := congrArg (cutAt? mark) h
  rw [cutAt?_append _ hmark, cutAt?_append _ hmark'] at hcut
  exact Prod.mk.inj (Option.some.inj hcut)

theorem Text.no_space_ofInt (n : Int) : ' ' ∉ ofInt n := by
  intro h
  rcases mem_ofInt h with hminus | hdigit
  · exact absurd hminus (by decide)
  · exact absurd hdigit (by decide)

theorem TypeName.no_space_toText (name : TypeName) : ' ' ∉ name.toText := by
  cases name <;> decide

theorem TypeName.no_parenthesis_shape (name : TypeName) (word : Width) :
    ')' ∉ (name.shape word).name := by
  cases name <;> cases word <;> decide

/-- What one function tells of the elements, another one tells if the first determines it. -/
theorem map_eq_map_of_imp {α β γ : Type} {f : α → β} {g : α → γ} {xs ys : List α}
    (h : xs.map f = ys.map f) (himp : ∀ x ∈ xs, ∀ y ∈ ys, f x = f y → g x = g y) :
    xs.map g = ys.map g := by
  induction xs generalizing ys with
  | nil =>
    obtain rfl : ys = [] := List.map_eq_nil_iff.mp h.symm
    rfl
  | cons x xs ih =>
    obtain ⟨y, rest, rfl, hy, hrest⟩ := List.map_eq_cons_iff.mp h.symm
    have hfirst : g x = g y := himp x List.mem_cons_self y List.mem_cons_self hy.symm
    have hothers : xs.map g = rest.map g := ih hrest.symm fun x hx y hy =>
      himp x (List.mem_cons_of_mem _ hx) y (List.mem_cons_of_mem _ hy)
    rw [List.map_cons, List.map_cons, hfirst, hothers]

namespace Flags

/-! ## The lines of a flag -/

namespace Setting

/-- No part that is shown of a flag holds the character that ends it in a line. -/
structure Delimited (setting : Setting) : Prop where
  no_equals : '=' ∉ setting.name
  no_colon : ':' ∉ setting.name
  no_space : ' ' ∉ setting.typeName
  no_parenthesis : ')' ∉ setting.shape.name

theorem invalidLine?_eq_some_iff {setting : Setting} {line : Text} :
    setting.invalidLine? = some line ↔ setting.size? = none ∧ line = setting.refusal := by
  rw [invalidLine?]
  cases setting.size? with
  | some size => simp
  | none => simp [refusal, eq_comm]

/-- The line of a flag that has a size, between its marks. -/
theorem acceptance_eq (setting : Setting) (size : Int) :
    setting.acceptance size = (setting.name ++ [' ']) ++ '=' :: ' ' ::
      (Text.ofInt size ++ ' ' :: '(' :: (setting.typeName ++ [')'])) := by
  simp [acceptance]

/-- The line of a flag that has no size, between its marks. -/
theorem refusal_eq (setting : Setting) :
    setting.refusal = setting.name ++ ':' :: (" invalid ".toList ++
      (setting.typeName ++ ' ' :: '(' ::
        (setting.shape.name ++ ')' :: (" value: ".toList ++ Text.quoted setting.raw)))) := by
  simp [refusal]

namespace Delimited

variable {setting other : Setting}

theorem equals_not_mem_append (h : setting.Delimited) : '=' ∉ setting.name ++ [' '] := by
  simp [h.no_equals]

theorem acceptance_inj (h : setting.Delimited) (hother : other.Delimited) {size size' : Int}
    (hline : setting.acceptance size = other.acceptance size') :
    setting.name = other.name ∧ size = size' ∧ setting.typeName = other.typeName := by
  rw [acceptance_eq, acceptance_eq] at hline
  obtain ⟨hname, hbehind⟩ := Text.cut_unique hline h.equals_not_mem_append
    hother.equals_not_mem_append
  obtain ⟨hsize, htype⟩ := Text.cut_unique (List.cons.inj hbehind).2 (Text.no_space_ofInt _)
    (Text.no_space_ofInt _)
  exact ⟨List.append_cancel_right hname, Text.ofInt_injective hsize,
    List.append_cancel_right (List.cons.inj htype).2⟩

theorem refusal_inj (h : setting.Delimited) (hother : other.Delimited)
    (hline : setting.refusal = other.refusal) :
    setting.name = other.name ∧ setting.typeName = other.typeName ∧
      setting.shape.name = other.shape.name ∧ setting.raw = other.raw := by
  rw [refusal_eq, refusal_eq] at hline
  obtain ⟨hname, hbehind⟩ := Text.cut_unique hline h.no_colon hother.no_colon
  obtain ⟨htype, hbehind⟩ := Text.cut_unique (List.append_cancel_left hbehind) h.no_space
    hother.no_space
  obtain ⟨hshape, hvalue⟩ := Text.cut_unique (List.cons.inj hbehind).2 h.no_parenthesis
    hother.no_parenthesis
  exact ⟨hname, htype, hshape, Text.quoted_injective (List.append_cancel_left hvalue)⟩

end Delimited

end Setting

theorem Registry.strip_of_typeOf?_standard {flag typeName : Text}
    (h : Registry.standard.typeOf? flag = some typeName) : Text.strip typeName = typeName := by
  have hall : ∀ entry ∈ Registry.standard, Text.strip entry.2 = entry.2 := by decide
  obtain ⟨entry, hmem, rfl⟩ := Registry.exists_mem_of_typeOf? h
  exact hall entry hmem

theorem Entry.delimited_of_setting {entry : Entry} {word : WordSize}
    {valueOf? : Text → Option Text} {setting : Setting} (hkey : '=' ∉ entry.key)
    (h : entry.setting .standard word valueOf? = .ok setting) : setting.Delimited := by
  obtain ⟨hdeclaration, hshape, _⟩ := Entry.setting_eq_ok_iff.mp h
  obtain ⟨width, known, _, hknown, hresolved⟩ := TypeName.resolve_eq_ok_iff.mp hshape
  have hstripped : Text.strip setting.typeName = setting.typeName := by
    rcases Entry.declaration_eq_ok_iff.mp hdeclaration with ⟨parts, _, _, htype⟩ | ⟨_, _, htype⟩
    · rw [htype]
      exact Text.trim_trim _ _
    · exact Registry.strip_of_typeOf?_standard htype
  have htype : setting.typeName = known.toText :=
    hstripped.symm.trans (TypeName.ofText?_eq_some_iff.mp hknown)
  obtain ⟨hcolon, hequals⟩ :=
    (Entry.declaration_eq_ok_iff_declares.mp hdeclaration).not_mem_name hkey
  refine ⟨hequals, hcolon, ?_, ?_⟩
  · rw [htype]
    exact known.no_space_toText
  · rw [hresolved]
    exact known.no_parenthesis_shape width

/-! ## The lines of a report -/

namespace Config

variable {config other : Config}

theorem delimited_of_ofText {word : WordSize} {valueOf? : Text → Option Text} {file : Path}
    {text : Text} (h : ofText .standard word valueOf? file text = .ok config) :
    ∀ setting ∈ config.settings, setting.Delimited := by
  intro setting hmem
  obtain ⟨entry, hentry, hsetting⟩ := exists_entry_of_ofText h hmem
  exact Entry.delimited_of_setting (equals_not_mem_key_of_mem_entries hentry) hsetting

theorem mem_settings_of_mem_accepted {part : Setting × Int} (h : part ∈ config.accepted) :
    part.1 ∈ config.settings := by
  obtain ⟨setting, hmem, hsize⟩ := List.mem_filterMap.mp h
  obtain ⟨size, _, rfl⟩ := Option.map_eq_some_iff.mp hsize
  exact hmem

theorem length_validLines_add_length_invalidLines (config : Config) :
    config.validLines.length + config.invalidLines.length = config.settings.length := by
  rw [validLines_eq, invalidLines_eq, List.length_map, List.length_map]
  exact length_accepted_add_length_refused config

theorem successLine_inj (h : config.successLine = other.successLine) :
    config.settings.length = other.settings.length :=
  Text.ofNat_injective (List.append_cancel_left (List.append_cancel_right h))

theorem failureLine_inj (hinvalid : config.invalidLines = other.invalidLines)
    (h : config.failureLine = other.failureLine) :
    config.settings.length = other.settings.length := by
  unfold failureLine at h
  rw [hinvalid] at h
  exact Text.ofNat_injective (List.append_cancel_left (List.append_cancel_right h))

/-- The streams determine the lines of the flags: the last line tells how many of those in
front of it are not of the header. -/
theorem lines_eq_of_streams_eq (h : ∀ setting ∈ config.settings, setting.OneLine)
    (hother : ∀ setting ∈ other.settings, setting.OneLine)
    (hout : config.check.out = other.check.out) (herr : config.check.err = other.check.err) :
    config.validLines = other.validLines ∧ config.invalidLines = other.invalidLines := by
  have hfirst := congrArg Text.lines hout
  have hsecond := congrArg Text.lines herr
  rw [lines_out_check h, lines_out_check hother] at hfirst
  rw [lines_err_check h, lines_err_check hother] at hsecond
  have hread : config.invalidLines = other.invalidLines ∧
      config.settings.length = other.settings.length ∧
      Text.lines config.header ++ config.validLines =
        Text.lines other.header ++ other.validLines := by
    by_cases hnil : config.invalidLines = [] <;> by_cases hnil' : other.invalidLines = []
    · rw [if_pos hnil, if_pos hnil', ← List.append_assoc, ← List.append_assoc] at hfirst
      obtain ⟨hlines, hlast⟩ := List.append_inj' hfirst rfl
      exact ⟨hnil.trans hnil'.symm, successLine_inj (List.singleton_inj.mp hlast), hlines⟩
    · simp [hnil, hnil'] at hsecond
    · simp [hnil, hnil'] at hsecond
    · rw [if_neg hnil, if_neg hnil', List.append_nil, List.append_nil] at hfirst
      rw [if_neg hnil, if_neg hnil'] at hsecond
      obtain ⟨hlines, hlast⟩ := List.append_inj' hsecond rfl
      exact ⟨hlines, failureLine_inj hlines (List.singleton_inj.mp hlast), hfirst⟩
  obtain ⟨hinvalid, hsettings, hlines⟩ := hread
  have hlength : config.validLines.length = other.validLines.length := by
    have hcount := config.length_validLines_add_length_invalidLines
    have hcount' := other.length_validLines_add_length_invalidLines
    rw [hinvalid] at hcount
    omega
  exact ⟨(List.append_inj' hlines hlength).2, hinvalid⟩

/-- Reports of two files that are printed alike tell of flags with the same names, sizes and
type names, and of refused flags with the same names, types and values.  Where they are read
from makes no difference, not even for the home directory in the header.  In particular a value
that is refused is never reported as another one, however alike the two look. -/
theorem report_unambiguous {world world' : World} {path : Text} {word : WordSize}
    {config config' : Config} (hload : load .standard world path word = .ok config)
    (hload' : load .standard world' path word = .ok config')
    (hout : config.check.out = config'.check.out) (herr : config.check.err = config'.check.err) :
    config.accepted.map (fun part => (part.1.name, part.2, part.1.typeName)) =
        config'.accepted.map (fun part => (part.1.name, part.2, part.1.typeName)) ∧
      config.refused.map (fun setting =>
          (setting.name, setting.typeName, setting.shape.name, setting.raw)) =
        config'.refused.map (fun setting =>
          (setting.name, setting.typeName, setting.shape.name, setting.raw)) ∧
      ∀ (setting : Setting) (raw : Text), setting.size? = none → raw ≠ setting.raw →
        { setting with raw := raw }.invalidLine? ≠ setting.invalidLine? := by
  obtain ⟨_, text, _, _, htext⟩ := load_eq_ok_iff.mp hload
  obtain ⟨_, text', _, _, htext'⟩ := load_eq_ok_iff.mp hload'
  have hmarks := delimited_of_ofText htext
  have hmarks' := delimited_of_ofText htext'
  obtain ⟨hvalid, hinvalid⟩ :=
    lines_eq_of_streams_eq (oneLine_of_ofText htext) (oneLine_of_ofText htext') hout herr
  rw [validLines_eq, validLines_eq] at hvalid
  rw [invalidLines_eq, invalidLines_eq] at hinvalid
  refine ⟨map_eq_map_of_imp hvalid ?_, map_eq_map_of_imp hinvalid ?_, ?_⟩
  · intro part hpart part' hpart' hline
    obtain ⟨hname, hsize, htype⟩ :=
      (hmarks _ (mem_settings_of_mem_accepted hpart)).acceptance_inj
        (hmarks' _ (mem_settings_of_mem_accepted hpart')) hline
    rw [hname, hsize, htype]
  · intro setting hsetting setting' hsetting' hline
    obtain ⟨hname, htype, hshape, hraw⟩ :=
      (hmarks _ (List.mem_filter.mp hsetting).1).refusal_inj
        (hmarks' _ (List.mem_filter.mp hsetting').1) hline
    rw [hname, htype, hshape, hraw]
  · intro setting raw hsize hne hline
    have hrefusal : setting.invalidLine? = some setting.refusal :=
      Setting.invalidLine?_eq_some_iff.mpr ⟨hsize, rfl⟩
    obtain ⟨_, hsame⟩ := Setting.invalidLine?_eq_some_iff.mp (hline.trans hrefusal)
    exact hne (Text.quoted_injective (List.append_cancel_left hsame)).symm

/-- A flag whose value ends in a space that does not print. -/
def spaced : Setting := ⟨"X".toList, "int".toList, .int32, "4G\u00a0".toList⟩

/-- A flag with a size. -/
def sized (raw : Text) : Setting := ⟨"Y".toList, "uint".toList, .uint32, raw⟩

/-- The same report of two files: the space comes from a variable or stands in quotes, and the
other flag, with its size in other words, stands before or behind. -/
theorem report_unambiguous_spaced :
    let first : Config := ⟨Path.ofText "f".toList, .bits 64, [spaced, sized "5K".toList]⟩
    let second : Config := ⟨Path.ofText "f".toList, .bits 64, [sized "0x1400".toList, spaced]⟩
    load .standard (.ofFile "X:int=$V\nY:uint=5K".toList [("V".toList, "4G\u00a0".toList)])
        "f".toList (.bits 64) = .ok first ∧
      load .standard (.ofFile "Y:uint='0x1400'\nX:int=\"4G\u00a0\"".toList [])
        "f".toList (.bits 64) = .ok second ∧
      first.check.out = second.check.out ∧ first.check.err = second.check.err ∧
      first.accepted.map (fun part => (part.1.name, part.2, part.1.typeName)) =
        second.accepted.map (fun part => (part.1.name, part.2, part.1.typeName)) ∧
      first.refused.map (fun setting =>
          (setting.name, setting.typeName, setting.shape.name, setting.raw)) =
        second.refused.map (fun setting =>
          (setting.name, setting.typeName, setting.shape.name, setting.raw)) ∧
      spaced.size? = none ∧ "4G\u2003".toList ≠ spaced.raw ∧
      { spaced with raw := "4G\u2003".toList }.invalidLine? ≠ spaced.invalidLine? := by
  intro first second
  have hfirst : load .standard (.ofFile "X:int=$V\nY:uint=5K".toList
      [("V".toList, "4G\u00a0".toList)]) "f".toList (.bits 64) = .ok first :=
    load_eq_ok_iff.mpr ⟨_, _, rfl, World.readFlagsFile_of_look rfl, by decide⟩
  have hsecond : load .standard (.ofFile "Y:uint='0x1400'\nX:int=\"4G\u00a0\"".toList [])
      "f".toList (.bits 64) = .ok second :=
    load_eq_ok_iff.mpr ⟨_, _, rfl, World.readFlagsFile_of_look rfl, by decide⟩
  have hout : first.check.out = second.check.out := by decide
  have herr : first.check.err = second.check.err := by decide
  have hsize : spaced.size? = none := by decide
  have hraw : "4G\u2003".toList ≠ spaced.raw := by decide
  obtain ⟨haccepted, hrefused, hvalues⟩ := report_unambiguous hfirst hsecond hout herr
  exact ⟨hfirst, hsecond, hout, herr, haccepted, hrefused, hsize, hraw, hvalues _ _ hsize hraw⟩

end Config

end Flags

end SizeFlags
