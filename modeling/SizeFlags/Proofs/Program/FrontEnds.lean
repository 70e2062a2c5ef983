import SizeFlags.FileTree
import SizeFlags.Proofs.CommandLine.Arrangement
import SizeFlags.Proofs.Flags.Report
import SizeFlags.Proofs.Flags.RoundTrip
import SizeFlags.Proofs.Program.Serving

set_option autoImplicit false

/-!
# A size on the command line and in a file

The same value is handed to the program in two ways: behind a separator, where
nothing is taken for an option, and bare on the only line of a flags file.  Main
statement: both ways read the same size of the same shape, or both refuse it.
-/

namespace SizeFlags

namespace Flags

/-! ## A file of one line -/

/-- The flag `X` with a type and a bare value, without any padding. -/
def bareFlag (typeName : TypeName) (value : Text) (unbroken : Text.Unbroken value)
    (no_reference : '$' ∉ value) (trimmed : Text.Trimmed Quoting.bare.loses value) :
    WrittenFlag where
  beforeName := .empty
  name := "X".toList
  afterName := .empty
  beforeType := .empty
  typeName := typeName
  afterType := .empty
  beforeValue := .empty
  value := ⟨value, .bare, unbroken, no_reference, trimmed⟩
  afterValue := .empty
  name_unbroken := by decide
  name_no_equals := by decide
  name_no_colon := by decide
  name_trimmed := by decide
  name_no_comment := by decide

theorem toText_bareFlag (typeName : TypeName) {value : Text} (unbroken : Text.Unbroken value)
    (no_reference : '$' ∉ value) (trimmed : Text.Trimmed Quoting.bare.loses value) :
    (bareFlag typeName value unbroken no_reference trimmed).toText =
      "X:".toList ++ typeName.toText ++ '=' :: value := by
  simp [WrittenFlag.toText, WrittenFlag.declaration, padded, bareFlag, Padding.empty,
    WrittenValue.toText, Quoting.quote]

/-- A file of one line, with or without a break at its end, is loaded as its flag. -/
theorem load_line {registry : Registry} {world : World} {path : Text} {file : Path}
    (flag : WrittenFlag) (word : Width) {ending : Text} (hending : ending = [] ∨ ending ∈ Text.breaks)
    (hlocate : world.locate path = .ok file)
    (hlook : world.look file = .ok (Utf8.encode (flag.toText ++ ending))) :
    Config.load registry world path (.bits word.bits) =
      .ok ⟨file, .bits word.bits, [flag.setting word]⟩ := by
  obtain ⟨written, htext, hflags⟩ : ∃ written : WrittenFile,
      written.toText = flag.toText ++ ending ∧ written.flags = [flag] := by
    rcases hending with rfl | hbreak
    · exact ⟨⟨.flag flag, []⟩, rfl, rfl⟩
    · have hblank : Text.strip [] = [] ∨ (Text.strip []).head? = some '#' ∨ '=' ∉ ([] : Text) :=
        Or.inl rfl
      refine ⟨⟨.flag flag, [(⟨ending, hbreak⟩, .ignored ⟨[], Text.unbroken_nil, hblank⟩)]⟩, ?_, rfl⟩
      simp [WrittenFile.toText, FileLine.toText]
  have hread : world.readFlagsFile file = .ok written.toText := by
    rw [htext]
    exact World.readFlagsFile_of_look hlook
  have hne : written.flags ≠ [] := by simp [hflags]
  rw [Config.load_eq_ok_iff]
  refine ⟨file, written.toText, hlocate, hread, ?_⟩
  rw [written.ofText_toText hne, hflags]
  rfl

end Flags

namespace Program

open CommandLine OptionGroup Flags

/-- What is printed for a size on the command line. -/
def printed (size : Int) : Outcome := .success (Text.ofInt size ++ ['\n'])

/-- What is reported of the flag `X` in a file, if it has a size. -/
def reported (file : Path) (word : Width) (typeName : TypeName) (size : Int) : Outcome :=
  .success (Text.ofLines
    ["Checking ".toList ++ file.toText ++ " (".toList ++ Text.ofNat word.bits ++ "-bit)".toList,
      "X = ".toList ++ Text.ofInt size ++ " (".toList ++ typeName.toText ++ ")".toList,
      "All 1 flags valid".toList])

/-- A size is shown in the same digits in both places, and in no other's. -/
theorem printed_eq_iff_reported_eq {file : Path} {word : Width} {typeName : TypeName} {n m : Int} :
    printed n = printed m ↔ reported file word typeName n = reported file word typeName m := by
  simp [printed, reported, Outcome.success]

section

variable {world : World} {typeName : TypeName} {word : Width} {value path : Text}

theorem plain_toText (typeName : TypeName) : typeName.toText.head? ≠ some '-' := by
  cases typeName <;> decide

theorem resolveOperand_toText (typeName : TypeName) (word : Width) :
    TypeName.resolveOperand (.text typeName.toText) (.bits word.bits) =
      .ok (typeName.shape word) := typeName.resolve_toText word

/-- The type and the word size, each option before its value. -/
def spelledOut (typeName : TypeName) (word : Width) : List OptionGroup :=
  [.separate (.typeName typeName.toText (plain_toText typeName)), .separate (.wordBits word)]

/-- Behind the separator every value is the target, even one that is a separator too. -/
theorem run_parse_separated :
    run world ["parse".toList, "--type".toList, typeName.toText, "--word-bits".toList,
        Text.ofNat word.bits, separator, value] =
      answer .standard world ⟨.parse, .text value, .text typeName.toText, .bits word.bits⟩ := by
  apply run_of_request
  rw [isolate_of_separator_mem (by simp)]
  exact readArguments_separated .parse [] (spelledOut typeName word)
    (Or.inr (List.cons_ne_nil _ _))

theorem run_check_path (hpath : path.head? ≠ some '-') :
    run world ["check".toList, path, "--word-bits".toList, Text.ofNat word.bits] =
      answer .standard world
        ⟨.check, .text path, .text TypeName.uint64.toText, .bits word.bits⟩ := by
  have hline : Arrangement .check path [.separate (.wordBits word)]
      ["check".toList, path, "--word-bits".toList, Text.ofNat word.bits] :=
    .inOrder [] [] [.separate (.wordBits word)]
  exact run_of_request (hline.readArguments_isolate (Or.inl hpath))

/-- The configuration of the flag `X` alone. -/
def oneFlag (file : Path) (word : Width) (typeName : TypeName) (value : Text) : Config :=
  ⟨file, .bits word.bits, [⟨"X".toList, typeName.toText, typeName.shape word, value⟩]⟩

theorem check_oneFlag_of_size {file : Path} {size : Int}
    (hsize : Size.read? (typeName.shape word) value = some size) :
    (oneFlag file word typeName value).check = reported file word typeName size := by
  have hrefused : (oneFlag file word typeName value).refused = [] := by
    simp [oneFlag, Config.refused, hsize]
  have hvalid : (oneFlag file word typeName value).validLines =
      ["X = ".toList ++ Text.ofInt size ++ " (".toList ++ typeName.toText ++ ")".toList] := by
    simp [oneFlag, Config.validLines_eq, Config.accepted, hsize, Setting.acceptance]
  have hword : WordSize.toText (.bits word.bits) = Text.ofNat word.bits := by
    cases word <;> rfl
  have hheader : (oneFlag file word typeName value).header =
      "Checking ".toList ++ file.toText ++ " (".toList ++ Text.ofNat word.bits ++
        "-bit)".toList := by
    rw [← hword]
    rfl
  have hsuccess : (oneFlag file word typeName value).successLine = "All 1 flags valid".toList := by
    show "All ".toList ++ Text.ofNat 1 ++ " flags valid".toList = _
    decide
  rw [Config.check_of_refused_eq_nil hrefused, hheader, hvalid, hsuccess]
  rfl

theorem status_check_oneFlag_of_no_size {file : Path}
    (hsize : Size.read? (typeName.shape word) value = none) :
    (oneFlag file word typeName value).check.status = 1 := by
  apply Config.status_check_of_refused_ne_nil
  simp [oneFlag, Config.refused, hsize]

end

/-- A value is the same size on the command line and on the only line of a flags file.
If it is none, both runs fail. -/
theorem run_parse_run_check (world : World) (typeName : TypeName) (word : Width)
    {value path ending : Text} {file : Path} (hunbroken : Text.Unbroken value)
    (hreference : '$' ∉ value) (htrimmed : Text.Trimmed Quoting.bare.loses value)
    (hpath : path.head? ≠ some '-') (hlocate : world.locate path = .ok file)
    (hending : ending = [] ∨ ending ∈ Text.breaks)
    (hlook : world.look file = .ok (Utf8.encode
      ("X:".toList ++ typeName.toText ++ '=' :: value ++ ending))) :
    let parsed := run world ["parse".toList, "--type".toList, typeName.toText,
      "--word-bits".toList, Text.ofNat word.bits, separator, value]
    let checked := run world ["check".toList, path, "--word-bits".toList, Text.ofNat word.bits]
    (∀ size, parsed = .ok (printed size) ↔ checked = .ok (reported file word typeName size)) ∧
      ((∃ size, parsed = .ok (printed size) ∧
          checked = .ok (reported file word typeName size)) ∨
        ∃ first second, parsed = .ok first ∧ checked = .ok second ∧
          first.status = 1 ∧ second.status = 1) := by
  intro parsed checked
  have hshape := resolveOperand_toText typeName word
  have hload : Config.load .standard world path (.bits word.bits) =
      .ok (oneFlag file word typeName value) := by
    refine load_line (bareFlag typeName value hunbroken hreference htrimmed) word hending hlocate ?_
    rw [toText_bareFlag]
    exact hlook
  have hchecked : checked = .ok (oneFlag file word typeName value).check :=
    (run_check_path hpath).trans (answer_check_of_load hload)
  cases hsize : Size.read? (typeName.shape word) value with
  | some size =>
    have hprinted : parsed = .ok (printed size) :=
      run_parse_separated.trans (answer_parse_of_size hshape hsize)
    rw [check_oneFlag_of_size hsize] at hchecked
    refine ⟨fun other => ?_, Or.inl ⟨size, hprinted, hchecked⟩⟩
    rw [hprinted, hchecked, Except.ok.injEq, Except.ok.injEq]
    exact printed_eq_iff_reported_eq
  | none =>
    have hrefused : parsed = _ := run_parse_separated.trans (answer_parse_of_no_size hshape hsize)
    have hstatus : (oneFlag file word typeName value).check.status = 1 :=
      status_check_oneFlag_of_no_size hsize
    refine ⟨fun other => ?_, Or.inr ⟨_, _, hrefused, hchecked, rfl, hstatus⟩⟩
    rw [hrefused, hchecked, Except.ok.injEq, Except.ok.injEq]
    constructor
    · intro h
      cases congrArg Outcome.status h
    · intro h
      rw [h] at hstatus
      cases hstatus

/-- A negative hexadecimal size with a unit, on a line that ends in two characters. -/
theorem run_parse_run_check_hexadecimal :
    let world := World.ofFile "X:intx=-0x10K\r\n".toList []
    let value := "-0x10K".toList
    Text.Unbroken value ∧ '$' ∉ value ∧ Text.Trimmed Quoting.bare.loses value ∧
      world.locate "./f".toList = .ok (Path.ofText "f".toList) ∧
      ['\r', '\n'] ∈ Text.breaks ∧
      run world ["parse".toList, "--type".toList, "intx".toList, "--word-bits".toList,
        "32".toList, separator, value] = .ok (.success "-16384\n".toList) ∧
      run world ["check".toList, "./f".toList, "--word-bits".toList, "32".toList] =
        .ok (.success "Checking f (32-bit)\nX = -16384 (intx)\nAll 1 flags valid\n".toList) := by
  intro world value
  have hunbroken : Text.Unbroken value := by decide
  have hreference : '$' ∉ value := by decide
  have htrimmed : Text.Trimmed Quoting.bare.loses value := by decide
  have hbreak : ['\r', '\n'] ∈ Text.breaks := by decide
  have hlocate : world.locate "./f".toList = .ok (Path.ofText "f".toList) := rfl
  have htext : "X:intx=-0x10K\r\n".toList =
      "X:".toList ++ TypeName.intx.toText ++ '=' :: value ++ ['\r', '\n'] := rfl
  have hlook : world.look (Path.ofText "f".toList) = .ok (Utf8.encode
      ("X:".toList ++ TypeName.intx.toText ++ '=' :: value ++ ['\r', '\n'])) := by
    rw [← htext]
    rfl
  have hsize : Size.read? (TypeName.intx.shape .bits32) value = some (-16384) := by decide
  have hparsed : run world ["parse".toList, "--type".toList, TypeName.intx.toText,
      "--word-bits".toList, Text.ofNat Width.bits32.bits, separator, value] =
        .ok (printed (-16384)) :=
    run_parse_separated.trans (answer_parse_of_size (resolveOperand_toText .intx .bits32) hsize)
  have hboth := run_parse_run_check world .intx .bits32 hunbroken hreference htrimmed
    (by decide : "./f".toList.head? ≠ some '-') hlocate (Or.inr hbreak) hlook
  exact ⟨hunbroken, hreference, htrimmed, hlocate, hbreak, hparsed, (hboth.1 (-16384)).mp hparsed⟩

/-- A file whose name starts with a tilde is taken for a home directory even behind a dot
and a slash: the value is a size on the command line, and the file is not read. -/
theorem run_check_of_tilde_name :
    let tree : FileTree := ⟨[(["~x".toList], Utf8.encode "X:int=5".toList)], []⟩
    let world : World :=
      { look := fun path => (tree.look path).mapError .obstacle
        valueOf? := fun _ => none
        userHome? := fun _ => none }
    world.look (Path.ofText "./~x".toList) = .ok (Utf8.encode "X:int=5".toList) ∧
      run world ["parse".toList, "--type".toList, "int".toList, "--word-bits".toList,
        "64".toList, separator, "5".toList] = .ok (.success "5\n".toList) ∧
      run world ["check".toList, "./~x".toList, "--word-bits".toList, "64".toList] =
        .error .unknownHome := by
  intro tree world
  exact ⟨rfl, rfl, rfl⟩

end Program

end SizeFlags
