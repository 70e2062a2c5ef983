import SizeFlags.Proofs.Flags.Faults

set_option autoImplicit false

/-!
# Flags files one behind the other

Two files are put together with a break between them.  Their lines are not always the
lines of the whole: a carriage return and a line feed that meet are one break, and an
empty last line comes into being or goes away.  Such lines have no entries, so the
entries are those of the one file and then those of the other.  Main statement: loading
goes through the two files in turn, up to the first entry with a fault.
-/

namespace SizeFlags

/-! ## One file of a world -/

section

variable {world : World} {file : Path} {text : Text}

/-- The world with a text as the file at a path. -/
def World.holding (world : World) (file : Path) (text : Text) : World :=
  { world with
    look := fun path => if path = file then .ok (Utf8.encode text) else world.look path }

theorem World.look_holding : (world.holding file text).look file = .ok (Utf8.encode text) :=
  if_pos rfl

@[simp] theorem World.locate_holding (path : Text) :
    (world.holding file text).locate path = world.locate path := rfl

@[simp] theorem World.valueOf?_holding : (world.holding file text).valueOf? = world.valueOf? := rfl

end

namespace Flags

variable {registry : Registry} {word : WordSize} {world : World} {file : Path} {text : Text}

namespace Config

/-- The settings that the entries of a text make, or the fault of the first entry that
makes none. -/
def settingsOf (registry : Registry) (word : WordSize) (valueOf? : Text → Option Text)
    (text : Text) : Except Fault (List Setting) :=
  (entries text).mapM fun entry => entry.setting registry word valueOf?

variable {valueOf? : Text → Option Text} {bits : Int}

theorem settingsOf_append {between : Text} (hbetween : between ∈ Text.breaks) (first rest : Text) :
    settingsOf registry word valueOf? (first ++ between ++ rest) = do
      let before ← settingsOf registry word valueOf? first
      let after ← settingsOf registry word valueOf? rest
      return before ++ after := by
  rw [settingsOf, entries_append hbetween, List.mapM_append]
  rfl

/-- No entry has the fault that there are none. -/
theorem ne_noFlags_of_settingsOf {fault : Fault}
    (h : settingsOf registry (.bits bits) valueOf? text = .error fault) : fault ≠ .noFlags file := by
  obtain ⟨_, entry, _, _, _, hoffence⟩ := mapM_setting_eq_error_iff.mp h
  cases hoffence <;> exact Fault.noConfusion

section

variable {path : Text} (hlocate : world.locate path = .ok file)
include hlocate

theorem load_holding :
    load registry (world.holding file text) path word =
      ofText registry word world.valueOf? file text := by
  have hheld : (world.holding file text).locate path = .ok file :=
    (World.locate_holding path).trans hlocate
  rw [load_of_look hheld World.look_holding, World.textOf_eq_ok_iff.mpr rfl]
  rfl

theorem load_holding_eq_ok_iff {config : Config} :
    load registry (world.holding file text) path word = .ok config ↔
      config.file = file ∧ config.word = word ∧ config.settings ≠ [] ∧
        settingsOf registry word world.valueOf? text = .ok config.settings := by
  rw [load_holding hlocate, ofText_eq_ok_iff, settingsOf, mapM_eq_ok_iff]

theorem load_holding_eq_error_iff {fault : Fault} :
    load registry (world.holding file text) path (.bits bits) = .error fault ↔
      settingsOf registry (.bits bits) world.valueOf? text = .error fault ∨
        (entries text = [] ∧ fault = .noFlags file) := by
  rw [load_holding hlocate, ofText_eq_error_iff, settingsOf, mapM_setting_eq_error_iff]

/-- A file with a break behind it and another file behind the break has the entries of the
one and then those of the other.  Loading it ends at the fault of the first of the two that
has an entry with a fault; without one it gives the settings of the one and then those of
the other.  It has no flags exactly if neither of the two has an entry. -/
theorem load_append (registry : Registry) (bits : Int) {between : Text}
    (hbetween : between ∈ Text.breaks) (first rest : Text) :
    let whole := first ++ between ++ rest
    let rows := fun text => readEntries (world.holding file text) file
    let loaded := fun text => load registry (world.holding file text) path (.bits bits)
    entries whole = entries first ++ entries rest ∧
    (∃ before after, rows first = .ok before ∧ rows rest = .ok after ∧
      rows whole = .ok (before ++ after)) ∧
    (∀ fault, loaded first = .error fault → fault ≠ .noFlags file → loaded whole = .error fault) ∧
    (∀ fault, (∀ cause, loaded first = .error cause → cause = .noFlags file) →
      loaded rest = .error fault → fault ≠ .noFlags file → loaded whole = .error fault) ∧
    (∀ before after, loaded first = .ok before → loaded rest = .ok after →
      loaded whole = .ok ⟨file, .bits bits, before.settings ++ after.settings⟩) ∧
    (entries first = [] → loaded whole = loaded rest) ∧
    (entries rest = [] → loaded whole = loaded first) ∧
    (loaded whole = .error (.noFlags file) ↔ entries first = [] ∧ entries rest = []) := by
  intro whole rows loaded
  have hentries : entries whole = entries first ++ entries rest := entries_append hbetween first rest
  have hsettings : settingsOf registry (.bits bits) world.valueOf? whole = _ :=
    settingsOf_append hbetween first rest
  refine ⟨hentries, ?rows, ?firstFault, ?laterFault, ?settings, ?emptyFirst, ?emptyRest, ?noFlags⟩
  case rows =>
    refine ⟨_, _, readEntries_of_look World.look_holding, readEntries_of_look World.look_holding, ?_⟩
    rw [World.valueOf?_holding, World.valueOf?_holding, ← List.map_append, ← hentries]
    exact readEntries_of_look World.look_holding
  case firstFault =>
    intro fault hfault hne
    have hfirst := ((load_holding_eq_error_iff hlocate).mp hfault).resolve_right fun h => hne h.2
    refine (load_holding_eq_error_iff hlocate).mpr (Or.inl ?_)
    rw [hsettings, hfirst]
    rfl
  case laterFault =>
    intro fault hnone hfault hne
    have hrest := ((load_holding_eq_error_iff hlocate).mp hfault).resolve_right fun h => hne h.2
    refine (load_holding_eq_error_iff hlocate).mpr (Or.inl ?_)
    rw [hsettings]
    cases hfirst : settingsOf registry (.bits bits) world.valueOf? first with
    | error cause =>
      exact absurd (hnone cause ((load_holding_eq_error_iff hlocate).mpr (Or.inl hfirst)))
        (ne_noFlags_of_settingsOf hfirst)
    | ok before =>
      rw [hrest]
      rfl
  case settings =>
    intro before after hbefore hafter
    obtain ⟨_, _, hne, hfirst⟩ := (load_holding_eq_ok_iff hlocate).mp hbefore
    obtain ⟨_, _, _, hrest⟩ := (load_holding_eq_ok_iff hlocate).mp hafter
    refine (load_holding_eq_ok_iff hlocate).mpr ⟨rfl, rfl, by simp [hne], ?_⟩
    rw [hsettings, hfirst, hrest]
    rfl
  case emptyFirst =>
    intro hnil
    have hwhole : entries whole = entries rest := by rw [hentries, hnil, List.nil_append]
    show load _ _ _ _ = load _ _ _ _
    rw [load_holding hlocate, load_holding hlocate, ofText, ofText, hwhole]
  case emptyRest =>
    intro hnil
    have hwhole : entries whole = entries first := by rw [hentries, hnil, List.append_nil]
    show load _ _ _ _ = load _ _ _ _
    rw [load_holding hlocate, load_holding hlocate, ofText, ofText, hwhole]
  case noFlags =>
    rw [← List.append_eq_nil_iff, ← hentries]
    constructor
    · intro h
      rcases (load_holding_eq_error_iff hlocate).mp h with hoffence | ⟨hnil, _⟩
      · exact absurd rfl (ne_noFlags_of_settingsOf hoffence)
      · exact hnil
    · intro hnil
      exact (load_holding_eq_error_iff hlocate).mpr (Or.inr ⟨hnil, rfl⟩)

end

/-- The carriage return at the end of the first file, the break and the line feed at the start
of the second make two breaks with an empty line between them, and not three. -/
theorem load_append_merged_breaks :
    let world := World.ofFile [] []
    let file := Path.ofText "f".toList
    let first := "X:int=1\r".toList
    let rest := "\n Y : uintx = 2K\n".toList
    world.locate "f".toList = .ok file ∧ ['\n'] ∈ Text.breaks ∧
      load [] (world.holding file (first ++ ['\n'] ++ rest)) "f".toList (.bits 32) =
        .ok ⟨file, .bits 32, [⟨"X".toList, "int".toList, .int32, "1".toList⟩,
          ⟨"Y".toList, "uintx".toList, .uint32, "2K".toList⟩]⟩ := by
  intro world file first rest
  have hlocate : world.locate "f".toList = .ok file := rfl
  have hbetween : ['\n'] ∈ Text.breaks := by decide
  have hfirst : load [] (world.holding file first) "f".toList (.bits 32) =
      .ok ⟨file, .bits 32, [⟨"X".toList, "int".toList, .int32, "1".toList⟩]⟩ :=
    (load_holding hlocate).trans rfl
  have hrest : load [] (world.holding file rest) "f".toList (.bits 32) =
      .ok ⟨file, .bits 32, [⟨"Y".toList, "uintx".toList, .uint32, "2K".toList⟩]⟩ :=
    (load_holding hlocate).trans rfl
  exact ⟨hlocate, hbetween,
    (load_append hlocate [] 32 hbetween first rest).2.2.2.2.1 _ _ hfirst hrest⟩

end Config

end Flags

end SizeFlags
