import SizeFlags.Proofs.Flags.Report
import SizeFlags.Proofs.Program.Escapes

set_option autoImplicit false

/-!
# Status and streams

The exit status says what is on the two streams.  Standard error is silent on
success and only then.  Nothing is on standard output before an error, except in the
report of a file that was loaded and has a flag without a size.  Main statement:
what each status says, and what a run that succeeds has printed.
-/

namespace SizeFlags

theorem Text.ofLines_cons_ne_nil (t : Text) (rest : List Text) : ofLines (t :: rest) ≠ [] := by
  simp

theorem CommandLine.misuseText_ne_nil (columns : Nat) (cause : Misuse) :
    misuseText columns cause ≠ [] := by
  unfold misuseText Text.ofLines
  simp

namespace Flags.Config

variable {config : Config}

theorem refused_ne_nil_iff :
    config.refused ≠ [] ↔ ∃ setting ∈ config.settings,
      Size.read? setting.shape setting.raw = none := by
  rw [refused, ne_eq, List.filter_eq_nil_iff]
  simp

/-- Where every flag has a size, each has its line. -/
theorem forall₂_validLines (h : config.refused = []) :
    List.Forall₂ (fun setting line => ∃ size, Size.read? setting.shape setting.raw = some size ∧
      line = setting.acceptance size) config.settings config.validLines := by
  have hsize : ∀ setting ∈ config.settings, Size.read? setting.shape setting.raw ≠ none := by
    intro setting hmem hnone
    exact refused_ne_nil_iff.mpr ⟨setting, hmem, hnone⟩ h
  unfold validLines
  generalize config.settings = settings at hsize
  induction settings with
  | nil => exact .nil
  | cons setting rest ih =>
    obtain ⟨hfirst, hrest⟩ := List.forall_mem_cons.mp hsize
    obtain ⟨size, hread⟩ := Option.ne_none_iff_exists'.mp hfirst
    have hline : setting.validLine? = some (setting.acceptance size) := by
      rw [Setting.validLine?, Setting.size?, hread]
      rfl
    rw [List.filterMap_cons_some hline]
    exact .cons ⟨size, hread, rfl⟩ (ih hrest)

/-- The report of a file in which every flag has a size: what it is of, a line for each
entry of the file, and their number. -/
inductive FullReport (world : World) (path : Text) (word : WordSize) : Text → Prop where
  | of_entries {file : Path} {text : Text} {settings : List Setting} {lines : List Text}
      (located : world.locate path = .ok file)
      (looked : world.look file = .ok (Utf8.encode text))
      (set : List.Forall₂ (fun entry setting =>
        entry.setting .standard word world.valueOf? = .ok setting) (entries text) settings)
      (sized : List.Forall₂ (fun setting line =>
        ∃ size, Size.read? setting.shape setting.raw = some size ∧
          line = setting.acceptance size) settings lines) :
      FullReport world path word
        (Text.ofLines (header ⟨file, word, settings⟩ :: lines ++
          ["All ".toList ++ Text.ofNat (entries text).length ++ " flags valid".toList]))

theorem fullReport_of_load {world : World} {path : Text} {word : WordSize}
    (hload : load .standard world path word = .ok config) (h : config.refused = []) :
    FullReport world path word config.check.out := by
  obtain ⟨file, text, hfile, hread, htext⟩ := load_eq_ok_iff.mp hload
  obtain ⟨rfl, rfl, _, hsettings⟩ := ofText_eq_ok_iff.mp htext
  have hlook := World.readFlagsFile_eq_ok_iff.mp hread
  have hreport := FullReport.of_entries hfile hlook hsettings (forall₂_validLines h)
  rw [hsettings.length_eq] at hreport
  rw [check_of_refused_eq_nil h]
  exact hreport

end Flags.Config

namespace Program

open CommandLine Flags

variable {world : World} {line : List Text} {outcome : Outcome}

/-- The arguments ask for the check of a file, and it is loaded as a configuration. -/
def Checks (world : World) (line : List Text) (config : Config) : Prop :=
  ∃ path typeName word, readArguments (isolate line) = .ok ⟨.check, .text path, typeName, word⟩ ∧
    Config.load .standard world path word = .ok config

theorem run_of_checks {config : Config} (h : Checks world line config) :
    run world line = .ok config.check := by
  obtain ⟨path, typeName, word, hread, hload⟩ := h
  rw [run_of_request hread]
  exact answer_check_of_load hload

namespace Ending

/-- Something is on standard error exactly if the run fails. -/
theorem err_eq_nil_iff (h : Ending world line outcome) :
    outcome.err = [] ↔ outcome.status = 0 := by
  cases h with
  | help => simp [Outcome.success]
  | misuse => simp [misuseText_ne_nil]
  | fault => simp [Outcome.failure]
  | served _ hserved =>
    cases hserved with
    | size => simp [Outcome.success]
    | @report _ _ _ config =>
      by_cases hrefused : config.refused = []
      · simp [Config.check_of_refused_eq_nil hrefused, Outcome.success]
      · simp [Config.check_of_refused_ne_nil hrefused, Text.ofLines]

theorem status_le_two (h : Ending world line outcome) :
    outcome.status = 0 ∨ outcome.status = 1 ∨ outcome.status = 2 := by
  cases h with
  | help => exact .inl rfl
  | misuse => exact .inr (.inr rfl)
  | fault => exact .inr (.inl rfl)
  | served _ hserved => exact hserved.status.imp_right .inl

/-- Misused arguments print nothing. -/
theorem out_of_status_two (h : Ending world line outcome) (hstatus : outcome.status = 2) :
    outcome.out = [] := by
  cases h with
  | help => cases hstatus
  | misuse => rfl
  | fault => cases hstatus
  | served _ hserved =>
    rcases hserved.status with hzero | hone
    · exact absurd (hstatus.symm.trans hzero) (by decide)
    · exact absurd (hstatus.symm.trans hone) (by decide)

/-- A run that fails has printed something only in the report of a file with a flag that
has no size. -/
theorem out_of_status_one (h : Ending world line outcome) (hstatus : outcome.status = 1) :
    outcome.out ≠ [] ↔ ∃ config, Checks world line config ∧
      ∃ setting ∈ config.settings, Size.read? setting.shape setting.raw = none := by
  have hrun : run world line = .ok outcome := run_eq_ok_iff.mpr h
  simp only [← Config.refused_ne_nil_iff]
  constructor
  · intro hout
    cases h with
    | help => cases hstatus
    | misuse => cases hstatus
    | fault => exact absurd rfl hout
    | served hread hserved =>
      cases hserved with
      | size => cases hstatus
      | @report _ _ _ config hload =>
        refine ⟨config, ⟨_, _, _, hread, hload⟩, ?_⟩
        intro hnil
        rw [Config.check_of_refused_eq_nil hnil] at hstatus
        cases hstatus
  · rintro ⟨config, hchecks, hrefused⟩
    obtain rfl := Except.ok.inj (hrun.symm.trans (run_of_checks hchecks))
    rw [Config.check_of_refused_ne_nil hrefused]
    exact Text.ofLines_cons_ne_nil _ _

/-- A run that succeeds has printed the help, a size of the shape, or the report of a file. -/
theorem out_of_status_zero (h : Ending world line outcome) (hstatus : outcome.status = 0) :
    outcome.out = Text.ofLines (CommandLine.help world.columns) ∨
      (∃ target typeName word shape size,
        readArguments (isolate line) = .ok ⟨.parse, .text target, typeName, word⟩ ∧
          TypeName.resolveOperand typeName word = .ok shape ∧ Size.read? shape target = some size ∧
          shape.min ≤ size ∧ size ≤ shape.max ∧ outcome.out = Text.ofInt size ++ ['\n']) ∨
      ∃ path typeName word,
        readArguments (isolate line) = .ok ⟨.check, .text path, typeName, word⟩ ∧
          Config.FullReport world path word outcome.out := by
  cases h with
  | help => exact .inl rfl
  | misuse => cases hstatus
  | fault => cases hstatus
  | served hread hserved =>
    cases hserved with
    | size hshape hsize =>
      obtain ⟨hmin, hmax⟩ := Size.contains_of_read? hsize
      exact .inr (.inl ⟨_, _, _, _, _, hread, hshape, hsize, hmin, hmax, rfl⟩)
    | @report _ _ _ config hload =>
      have hrefused : config.refused = [] :=
        List.length_eq_zero_iff.mp (Config.status_check_eq_zero_iff.mp hstatus)
      exact .inr (.inr ⟨_, _, _, hread, Config.fullReport_of_load hload hrefused⟩)

end Ending

/-- A run that leaves an outcome ends with 0, 1 or 2.  Standard error is silent exactly with 0.
Standard output is silent with 2, and with 1 unless a file was loaded that has a flag without
a size.  With 0 it is the help, or the size in decimal, which fits the shape that was asked
for, or the report of a file with a line for each of its entries. -/
theorem streams_of_run (h : run world line = .ok outcome) :
    (outcome.status = 0 ∨ outcome.status = 1 ∨ outcome.status = 2) ∧
      (outcome.err = [] ↔ outcome.status = 0) ∧
      (outcome.status = 2 → outcome.out = []) ∧
      (outcome.status = 1 →
        (outcome.out ≠ [] ↔ ∃ config, Checks world line config ∧
          ∃ setting ∈ config.settings, Size.read? setting.shape setting.raw = none)) ∧
      (outcome.status = 0 →
        outcome.out = Text.ofLines (CommandLine.help world.columns) ∨
          (∃ target typeName word shape size,
            readArguments (isolate line) = .ok ⟨.parse, .text target, typeName, word⟩ ∧
              TypeName.resolveOperand typeName word = .ok shape ∧
              Size.read? shape target = some size ∧
              shape.min ≤ size ∧ size ≤ shape.max ∧ outcome.out = Text.ofInt size ++ ['\n']) ∨
          ∃ path typeName word,
            readArguments (isolate line) = .ok ⟨.check, .text path, typeName, word⟩ ∧
              Config.FullReport world path word outcome.out) :=
  have hend : Ending world line outcome := run_eq_ok_iff.mp h
  ⟨hend.status_le_two, hend.err_eq_nil_iff, hend.out_of_status_two, hend.out_of_status_one,
    hend.out_of_status_zero⟩

/-- A file with a flag that has no size is reported on both streams, and the line of the other
flag stands. -/
theorem streams_of_run_refused :
    let world := World.ofFile "X:int=1\nY:int=2K2".toList []
    let report := Text.ofLines ["Checking f (64-bit)".toList, "X = 1 (int)".toList]
    let errors := Text.ofLines
      ["Y: invalid int (int32) value: '2K2'".toList, "1 of 2 flags invalid".toList]
    run world ["check".toList, "f".toList] = .ok ⟨1, report, errors⟩ ∧ errors ≠ [] ∧
      ∃ config, Checks world ["check".toList, "f".toList] config ∧
        ∃ setting ∈ config.settings, Size.read? setting.shape setting.raw = none := by
  intro world report errors
  have hrun : run world ["check".toList, "f".toList] = .ok ⟨1, report, errors⟩ := by decide
  obtain ⟨_, herr, _, hout, _⟩ := streams_of_run hrun
  exact ⟨hrun, mt herr.mp Nat.one_ne_zero, (hout rfl).mp (Text.ofLines_cons_ne_nil _ _)⟩

end Program

end SizeFlags
