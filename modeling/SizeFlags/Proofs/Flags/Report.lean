import SizeFlags.Flags.Report
import SizeFlags.Proofs.Flags.Entry
import SizeFlags.Proofs.Flags.Loading
import SizeFlags.Proofs.Text.Unbroken

set_option autoImplicit false

/-!
# Reports on lines

A report has one line for each flag, whatever the file and the variables hold.
Names and type names are parts of one line of the file, and the value, into which
variables may have put line breaks, is only ever shown quoted.  The path is shown
as it is: a home directory can put line breaks into it, and into nothing else.
-/

namespace SizeFlags

/-! ## What is printed as it is -/

theorem TypeName.unbroken_shape_name (name : TypeName) (word : Width) :
    Text.Unbroken (name.shape word).name := by
  cases name <;> cases word <;> decide

theorem WordSize.unbroken_toText (word : WordSize) : Text.Unbroken word.toText := by
  cases word with
  | bits count => exact Text.unbroken_ofInt count
  | empty => decide

namespace Flags

theorem Registry.exists_mem_of_typeOf? {registry : Registry} {flag typeName : Text}
    (h : registry.typeOf? flag = some typeName) : ∃ entry ∈ registry, entry.2 = typeName := by
  obtain ⟨hget, _⟩ := Option.filter_eq_some_iff.mp h
  obtain ⟨entry, hfind, htype⟩ := Option.map_eq_some_iff.mp hget
  exact ⟨entry, List.mem_of_find?_eq_some hfind, htype⟩

theorem Registry.unbroken_of_typeOf?_standard {flag typeName : Text}
    (h : Registry.standard.typeOf? flag = some typeName) : Text.Unbroken typeName := by
  have hall : ∀ entry ∈ Registry.standard, Text.Unbroken entry.2 := by decide
  obtain ⟨entry, hmem, rfl⟩ := Registry.exists_mem_of_typeOf? h
  exact hall entry hmem

/-! ## The lines of a flag -/

namespace Setting

/-- How a flag that has a size is reported. -/
def acceptance (setting : Setting) (size : Int) : Text :=
  setting.name ++ " = ".toList ++ Text.ofInt size ++ " (".toList ++ setting.typeName ++ [')']

/-- How a flag that has no size is reported. -/
def refusal (setting : Setting) : Text :=
  setting.name ++ ": invalid ".toList ++ setting.typeName ++ " (".toList ++ setting.shape.name
    ++ ") value: ".toList ++ Text.quoted setting.raw

/-- What a report shows of a flag without quoting it stands on one line. -/
structure OneLine (setting : Setting) : Prop where
  name : Text.Unbroken setting.name
  typeName : Text.Unbroken setting.typeName
  shape : Text.Unbroken setting.shape.name

namespace OneLine

variable {setting : Setting}

theorem acceptance (h : setting.OneLine) (size : Int) :
    Text.Unbroken (setting.acceptance size) := by
  unfold Setting.acceptance
  simp only [Text.unbroken_append]
  refine ⟨⟨⟨⟨⟨h.name, ?_⟩, Text.unbroken_ofInt size⟩, ?_⟩, h.typeName⟩, ?_⟩
  all_goals decide

theorem refusal (h : setting.OneLine) : Text.Unbroken setting.refusal := by
  unfold Setting.refusal
  simp only [Text.unbroken_append]
  refine ⟨⟨⟨⟨⟨⟨h.name, ?_⟩, h.typeName⟩, ?_⟩, h.shape⟩, ?_⟩, Text.unbroken_quoted setting.raw⟩
  all_goals decide

end OneLine

end Setting

theorem Entry.oneLine_of_setting {entry : Entry} {word : WordSize}
    {valueOf? : Text → Option Text} {setting : Setting} (hkey : Text.Unbroken entry.key)
    (h : entry.setting .standard word valueOf? = .ok setting) : setting.OneLine := by
  obtain ⟨hdeclaration, hshape, _⟩ := Entry.setting_eq_ok_iff.mp h
  obtain ⟨width, known, _, _, hknown⟩ := TypeName.resolve_eq_ok_iff.mp hshape
  have hshown : Text.Unbroken setting.name ∧ Text.Unbroken setting.typeName := by
    rcases Entry.declaration_eq_ok_iff.mp hdeclaration with
      ⟨parts, hparts, hname, htype⟩ | ⟨_, hname, htype⟩
    · have hcut := (Text.eq_of_cutAt? hparts).1
      rw [hcut, Text.unbroken_append, Text.unbroken_cons] at hkey
      rw [hname, htype]
      exact ⟨hkey.1.of_subset fun c hc => Text.mem_of_mem_trim hc,
        hkey.2.2.of_subset fun c hc => Text.mem_of_mem_trim hc⟩
    · rw [hname]
      exact ⟨hkey, Registry.unbroken_of_typeOf?_standard htype⟩
  refine ⟨hshown.1, hshown.2, ?_⟩
  rw [hknown]
  exact known.unbroken_shape_name width

/-! ## The lines of a configuration -/

theorem unbroken_key_of_mem_entries {text : Text} {entry : Entry} (h : entry ∈ entries text) :
    Text.Unbroken entry.key := by
  obtain ⟨line, hline, hentry⟩ := List.mem_filterMap.mp h
  have hunbroken : Text.Unbroken line := Text.unbroken_of_mem_lines hline
  exact hunbroken.of_subset (Entry.mem_line_of_ofLine? hentry).1

namespace Config

variable {config : Config}

theorem oneLine_of_ofText {word : WordSize} {valueOf? : Text → Option Text} {file : Path}
    {text : Text} (h : ofText .standard word valueOf? file text = .ok config) :
    ∀ setting ∈ config.settings, setting.OneLine := by
  intro setting hmem
  obtain ⟨entry, hentry, hsetting⟩ := exists_entry_of_ofText h hmem
  exact Entry.oneLine_of_setting (unbroken_key_of_mem_entries hentry) hsetting

/-- The flags that have a size, with their sizes, in order. -/
def accepted (config : Config) : List (Setting × Int) :=
  config.settings.filterMap fun setting =>
    (Size.read? setting.shape setting.raw).map fun size => (setting, size)

/-- The flags that have no size, in order. -/
def refused (config : Config) : List Setting :=
  config.settings.filter fun setting => Size.read? setting.shape setting.raw = none

theorem length_accepted_add_length_refused (config : Config) :
    config.accepted.length + config.refused.length = config.settings.length := by
  unfold accepted refused
  generalize config.settings = settings
  induction settings with
  | nil => rfl
  | cons setting rest ih =>
    cases hsize : Size.read? setting.shape setting.raw <;> simp [hsize] <;> omega

theorem validLines_eq (config : Config) :
    config.validLines = config.accepted.map fun part => part.1.acceptance part.2 := by
  rw [validLines, accepted, List.map_filterMap]
  apply List.filterMap_congr
  intro setting _
  rw [Option.map_map]
  rfl

theorem invalidLines_eq (config : Config) :
    config.invalidLines = config.refused.map Setting.refusal := by
  rw [refused, ← List.filterMap_eq_map, List.filterMap_filter, invalidLines]
  apply List.filterMap_congr
  intro setting _
  rw [Setting.invalidLine?, Setting.size?]
  cases Size.read? setting.shape setting.raw <;> rfl

theorem invalidLines_eq_nil_iff : config.invalidLines = [] ↔ config.refused.length = 0 := by
  rw [invalidLines_eq, List.map_eq_nil_iff, List.length_eq_zero_iff]

theorem status_check_eq_zero_iff : config.check.status = 0 ↔ config.refused.length = 0 := by
  rw [← invalidLines_eq_nil_iff, check]
  split
  · rename_i h
    exact ⟨fun _ => h, fun _ => rfl⟩
  · rename_i h
    exact ⟨fun hstatus => absurd hstatus Nat.one_ne_zero, fun hnil => absurd hnil h⟩

theorem check_of_refused_eq_nil (h : config.refused = []) :
    config.check =
      .success (Text.ofLines (config.header :: config.validLines ++ [config.successLine])) :=
  if_pos (invalidLines_eq_nil_iff.mpr (List.length_eq_zero_iff.mpr h))

theorem check_of_refused_ne_nil (h : config.refused ≠ []) :
    config.check =
      ⟨1, Text.ofLines (config.header :: config.validLines),
        Text.ofLines (config.invalidLines ++ [config.failureLine])⟩ := by
  apply if_neg
  intro hnil
  exact h (List.length_eq_zero_iff.mp (invalidLines_eq_nil_iff.mp hnil))

theorem status_check_of_refused_ne_nil (h : config.refused ≠ []) : config.check.status = 1 := by
  rw [check_of_refused_ne_nil h]

/-- The header ends in a parenthesis, so that its line feed ends a line even if the path
holds breaks. -/
theorem lines_header_append {body : List Text} (h : ∀ line ∈ body, Text.Unbroken line) :
    Text.lines (Text.ofLines (config.header :: body)) = Text.lines config.header ++ body := by
  obtain ⟨start, hstart⟩ : ∃ start, config.header = start ++ [')'] := by
    have hend : "-bit)".toList = "-bit".toList ++ [')'] := rfl
    unfold header
    exact ⟨_, (congrArg (_ ++ ·) hend).trans (List.append_assoc _ _ _).symm⟩
  rw [Text.ofLines_cons, hstart, List.append_assoc, List.singleton_append,
    Text.lines_append_last_feed (by decide), Text.lines_ofLines h]

theorem lines_header_eq_iff :
    Text.lines config.header = [config.header] ↔ Text.Unbroken config.file.toText := by
  constructor
  · intro h
    have hheader : Text.Unbroken config.header :=
      Text.unbroken_of_mem_lines (by rw [h]; exact List.mem_cons_self)
    unfold header at hheader
    simp only [Text.unbroken_append] at hheader
    exact hheader.1.1.1.2
  · intro h
    have hheader : Text.Unbroken config.header := by
      unfold header
      simp only [Text.unbroken_append]
      refine ⟨⟨⟨⟨?_, h⟩, ?_⟩, config.word.unbroken_toText⟩, ?_⟩
      all_goals decide
    have hne : ¬ config.header = [] := by
      unfold header
      intro hnil
      exact absurd (List.append_eq_nil_iff.mp hnil).2 (by decide)
    rw [Text.lines_of_unbroken hheader, if_neg hne]

theorem unbroken_successLine (config : Config) : Text.Unbroken config.successLine := by
  unfold successLine
  simp only [Text.unbroken_append]
  refine ⟨⟨?_, Text.unbroken_ofNat _⟩, ?_⟩
  all_goals decide

theorem unbroken_failureLine (config : Config) : Text.Unbroken config.failureLine := by
  unfold failureLine
  simp only [Text.unbroken_append]
  refine ⟨⟨⟨Text.unbroken_ofNat _, ?_⟩, Text.unbroken_ofNat _⟩, ?_⟩
  all_goals decide

section

variable (h : ∀ setting ∈ config.settings, setting.OneLine)
include h

theorem unbroken_of_mem_validLines : ∀ line ∈ config.validLines, Text.Unbroken line := by
  intro line hline
  obtain ⟨setting, hmem, hvalid⟩ := List.mem_filterMap.mp hline
  obtain ⟨size, _, rfl⟩ := Option.map_eq_some_iff.mp hvalid
  exact (h setting hmem).acceptance size

theorem unbroken_of_mem_invalidLines : ∀ line ∈ config.invalidLines, Text.Unbroken line := by
  rw [invalidLines_eq]
  intro line hline
  obtain ⟨setting, hmem, rfl⟩ := List.mem_map.mp hline
  exact (h setting (List.mem_filter.mp hmem).1).refusal

theorem lines_out_check :
    Text.lines config.check.out = Text.lines config.header ++
      (config.validLines ++ if config.invalidLines = [] then [config.successLine] else []) := by
  rw [check]
  split
  · apply lines_header_append
    intro line hline
    rcases List.mem_append.mp hline with hvalid | hsuccess
    · exact unbroken_of_mem_validLines h line hvalid
    · obtain rfl := List.mem_singleton.mp hsuccess
      exact unbroken_successLine config
  · rw [List.append_nil]
    exact lines_header_append (unbroken_of_mem_validLines h)

theorem lines_err_check :
    Text.lines config.check.err =
      if config.invalidLines = [] then [] else config.invalidLines ++ [config.failureLine] := by
  rw [check]
  split
  · rfl
  · apply Text.lines_ofLines
    intro line hline
    rcases List.mem_append.mp hline with hinvalid | hfailure
    · exact unbroken_of_mem_invalidLines h line hinvalid
    · obtain rfl := List.mem_singleton.mp hfailure
      exact unbroken_failureLine config

end

/-- The report of a file: a line for each flag, in order and on the stream it belongs to,
and one line that counts them.  No content of the file and no variable makes or breaks
a line, except that the home directory put in for a user may break the header. -/
theorem report_of_load {world : World} {path : Text} {word : Width}
    (hpath : Text.Unbroken path)
    (hload : load .standard world path (.bits word.bits) = .ok config) :
    config.accepted.length + config.refused.length = config.settings.length ∧
      (config.check.status = 0 ↔ config.refused.length = 0) ∧
      Text.lines config.check.out =
        Text.lines config.header ++
          (config.accepted.map (fun part => part.1.acceptance part.2) ++
            if config.refused.length = 0 then
              ["All ".toList ++ Text.ofNat config.settings.length ++ " flags valid".toList]
            else []) ∧
      Text.lines config.check.err =
        (if config.refused.length = 0 then []
        else config.refused.map Setting.refusal ++
          [Text.ofNat config.refused.length ++ " of ".toList ++
            Text.ofNat config.settings.length ++ " flags invalid".toList]) ∧
      (Text.lines config.header = [config.header] ↔
        ∀ user ∈ (Path.ofText path).owner?, ∀ home ∈ world.home? user, Text.Unbroken home) := by
  obtain ⟨file, text, hfile, _, htext⟩ := load_eq_ok_iff.mp hload
  have hsettings : ∀ setting ∈ config.settings, setting.OneLine := oneLine_of_ofText htext
  have hconfig : config.file = file := (ofText_eq_ok_iff.mp htext).1
  have hcount : config.invalidLines.length = config.refused.length := by
    rw [invalidLines_eq, List.length_map]
  refine ⟨length_accepted_add_length_refused config, status_check_eq_zero_iff, ?_, ?_, ?_⟩
  · rw [lines_out_check hsettings, validLines_eq]
    simp only [invalidLines_eq_nil_iff]
    rfl
  · rw [lines_err_check hsettings]
    unfold failureLine
    simp only [invalidLines_eq_nil_iff, hcount]
    rw [invalidLines_eq]
  · rw [lines_header_eq_iff, hconfig]
    exact Path.unbroken_expandHome_iff (Path.unbroken_names_ofText_iff.mpr hpath)
      (World.expandHome_of_locate hfile)

/-- A file with a value into which a variable puts what looks like a line of a report. -/
def forged : Config where
  file := Path.ofText "f".toList
  word := .bits 64
  settings :=
    [⟨"X".toList, "int".toList, .int32, "1\nY = 9 (int)".toList⟩,
      ⟨"ThreadStackSize".toList, "intx".toList, .int64, "5".toList⟩]

theorem report_of_load_forged :
    Text.Unbroken "f".toList ∧
      load .standard (.ofFile "X:int=$V\nThreadStackSize=5".toList
        [("V".toList, "1\nY = 9 (int)".toList)]) "f".toList (.bits 64) = .ok forged ∧
      Text.lines forged.check.out =
        ["Checking f (64-bit)".toList, "ThreadStackSize = 5 (intx)".toList] ∧
      Text.lines forged.check.err =
        ["X: invalid int (int32) value: '1\\nY = 9 (int)'".toList,
          "1 of 2 flags invalid".toList] := by
  have hpath : Text.Unbroken "f".toList := by decide
  have hload : load .standard (.ofFile "X:int=$V\nThreadStackSize=5".toList
      [("V".toList, "1\nY = 9 (int)".toList)]) "f".toList (.bits 64) = .ok forged := by
    rfl
  obtain ⟨_, _, hout, herr, _⟩ := @report_of_load forged _ _ .bits64 hpath hload
  refine ⟨hpath, hload, hout.trans ?_, herr.trans ?_⟩
  all_goals decide

/-- A home directory with a line break breaks the header, on a path that has none. -/
theorem lines_out_check_of_broken_home :
    Text.Unbroken "~/f".toList ∧
      ∃ config, load .standard (.ofFile "X:int=5".toList [("HOME".toList, "a\nb".toList)])
          "~/f".toList (.bits 64) = .ok config ∧
        config.refused = [] ∧
        Text.lines config.check.out =
          ["Checking a".toList, "b/f (64-bit)".toList, "X = 5 (int)".toList,
            "All 1 flags valid".toList] ∧
        Text.lines config.check.out ≠
          config.header :: (config.validLines ++ [config.successLine]) := by
  refine ⟨by decide, ⟨⟨.relative, ["a\nb".toList, "f".toList]⟩, .bits 64,
    [⟨"X".toList, "int".toList, .int32, "5".toList⟩]⟩, rfl, ?_, ?_, ?_⟩
  all_goals decide

end Config

end Flags

end SizeFlags
