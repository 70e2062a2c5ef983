import Mathlib.Tactic.SplitIfs
import SizeFlags.Session

set_option autoImplicit false

/-!
# What a session keeps

A step that only reads, and a load that fails, leave a session as it was; so the other
steps are answered alike without them.  A check answers for the current configuration,
which only a load that succeeds and the two editing steps change.  Main statement: both,
for sessions of any length.
-/

namespace SizeFlags.Session

open Flags

/-! ## Records -/

/-- The steps of a session, each with its answer. -/
def record (state : State) (steps : List Step) : List (Step × Answer) := steps.zip (run state steps)

/-- The state after some steps. -/
def State.after (state : State) (steps : List Step) : State :=
  steps.foldl (fun state step => (state.step step).1) state

variable {state : State} {step : Step} {steps : List Step}

@[simp] theorem record_cons (state : State) (step : Step) (rest : List Step) :
    record state (step :: rest) =
      (step, (state.step step).2) :: record (state.step step).1 rest := rfl

theorem exists_step_of_record {entry : Step × Answer} {later : List (Step × Answer)}
    (h : record state steps = entry :: later) :
    ∃ step rest, steps = step :: rest ∧ entry = (step, (state.step step).2) ∧
      record (state.step step).1 rest = later := by
  cases steps with
  | nil => cases h
  | cons step rest =>
    rw [record_cons] at h
    obtain ⟨hentry, hlater⟩ := List.cons.inj h
    exact ⟨step, rest, rfl, hentry.symm, hlater⟩

theorem record_append (state : State) (first rest : List Step) :
    record state (first ++ rest) = record state first ++ record (state.after first) rest := by
  induction first generalizing state with
  | nil => rfl
  | cons step first ih =>
    rw [List.cons_append, record_cons, record_cons, ih, List.cons_append]
    rfl

theorem map_fst_record (state : State) (steps : List Step) :
    (record state steps).map Prod.fst = steps := by
  induction steps generalizing state with
  | nil => rfl
  | cons step rest ih => rw [record_cons, List.map_cons, ih]

theorem map_snd_record (state : State) (steps : List Step) :
    (record state steps).map Prod.snd = run state steps := by
  induction steps generalizing state with
  | nil => rfl
  | cons step rest ih =>
    rw [record_cons, List.map_cons, ih]
    rfl

/-- What has happened up to a step does not depend on the steps behind it. -/
theorem record_map_fst {before rest : List (Step × Answer)}
    (h : record state steps = before ++ rest) : record state (before.map Prod.fst) = before := by
  have hsteps : steps = before.map Prod.fst ++ rest.map Prod.fst := by
    rw [← map_fst_record state steps, h, List.map_append]
  rw [hsteps, record_append] at h
  refine (List.append_inj h ?_).1
  rw [← List.length_map Prod.fst, map_fst_record, List.length_map]

/-! ## Steps that leave no trace -/

/-- The step only reads, or it is a load and has failed. -/
inductive Quiet : Step → Answer → Prop where
  | entries (path : Path) (answer : Answer) : Quiet (.entries path) answer
  | check (answer : Answer) : Quiet .check answer
  | program (arguments : List Text) (answer : Answer) : Quiet (.program arguments) answer
  | failedLoad (path : Text) (word : WordSize) (fault : Fault) :
      Quiet (.load path word) (.fault fault)

theorem step_of_quiet (h : Quiet step (state.step step).2) : (state.step step).1 = state := by
  generalize hanswer : (state.step step).2 = answer at h
  cases h with
  | entries => rfl
  | check =>
    rw [State.step]
    cases state.config <;> rfl
  | program => rfl
  | failedLoad path word fault =>
    rw [State.step] at hanswer ⊢
    cases hload : Config.load state.registry state.world path word with
    | ok config =>
      rw [hload] at hanswer
      cases hanswer
    | error cause => rfl

/-- What is left of a record without some of the steps that leave no trace. -/
inductive Thinned : List (Step × Answer) → List (Step × Answer) → Prop where
  | nil : Thinned [] []
  | keep (entry : Step × Answer) {all kept : List (Step × Answer)} (rest : Thinned all kept) :
      Thinned (entry :: all) (entry :: kept)
  | drop {step : Step} {answer : Answer} (quiet : Quiet step answer)
      {all kept : List (Step × Answer)} (rest : Thinned all kept) :
      Thinned ((step, answer) :: all) kept

/-- What is left is the record of a session of its own. -/
theorem record_of_thinned {kept : List (Step × Answer)} (h : Thinned (record state steps) kept) :
    record state (kept.map Prod.fst) = kept := by
  generalize hall : record state steps = all at h
  induction h generalizing state steps with
  | nil => rfl
  | keep entry _ ih =>
    obtain ⟨step, rest, rfl, rfl, hrest⟩ := exists_step_of_record hall
    rw [List.map_cons, record_cons, ih hrest]
  | drop hquiet _ ih =>
    obtain ⟨step, rest, rfl, hentry, hrest⟩ := exists_step_of_record hall
    obtain ⟨rfl, rfl⟩ := Prod.mk.inj hentry
    rw [step_of_quiet hquiet] at hrest
    exact ih hrest

/-! ## The current configuration -/

/-- What a step changes in a configuration. -/
def Step.edit (config : Config) : Step → Config
  | .addSetting setting => { config with settings := config.settings ++ [setting] }
  | .dropSetting => { config with settings := config.settings.drop 1 }
  | _ => config

/-- A configuration with the changes that steps make in it. -/
def edited (config : Config) (steps : List Step) : Config := steps.foldl Step.edit config

/-- The current configuration after a step, told from the one before and the answer. -/
def configNext (config : Option Config) : Step × Answer → Option Config
  | (.load _ _, .config loaded) => some loaded
  | (step, _) => config.map fun config => step.edit config

/-- The current configuration, told from the one at the start and the record. -/
def configAfter (config : Option Config) (record : List (Step × Answer)) : Option Config :=
  record.foldl configNext config

/-- The answer to a check of the current configuration. -/
def Answer.ofConfig : Option Config → Answer
  | none => .noConfig
  | some current => .outcome current.check

/-- The step changes files, variables or the registry. -/
def Step.isChange : Step → Bool
  | .write .. | .remove _ | .setVariable .. | .unsetVariable _ | .setFlagType .. => true
  | _ => false

theorem Step.edit_of_isChange (h : step.isChange = true) (config : Config) :
    step.edit config = config := by
  cases step with
  | write | remove | setVariable | unsetVariable | setFlagType => rfl
  | load | entries | addSetting | dropSetting | check | program => cases h

theorem config_change {result : Except Fault State}
    (h : ∀ next, result = .ok next → next.config = state.config) :
    (state.change result).1.config = state.config := by
  cases result with
  | ok next => exact h next rfl
  | error cause => rfl

/-- Files, variables and the registry can change under a configuration. -/
theorem config_of_isChange (h : step.isChange = true) :
    (state.step step).1.config = state.config := by
  cases step with
  | write path bytes =>
    apply config_change
    intro next hnext
    unfold State.write at hnext
    split at hnext
    · rw [← Except.ok.inj hnext]
    · cases hnext
  | remove path =>
    apply config_change
    intro next hnext
    unfold State.remove at hnext
    split at hnext
    · rw [← Except.ok.inj hnext]
    · cases hnext
  | setVariable name value =>
    apply config_change
    intro next hnext
    unfold State.setVariable at hnext
    split_ifs at hnext
    rw [← Except.ok.inj hnext]
  | unsetVariable | setFlagType => rfl
  | load | entries | addSetting | dropSetting | check | program => cases h

theorem config_edit (change : List Setting → List Setting) :
    (state.edit change).1.config =
      state.config.map fun config => { config with settings := change config.settings } := by
  rw [State.edit]
  cases hconfig : state.config with
  | none => exact hconfig
  | some config => rfl

/-- A configuration without settings stays as it is without its first one. -/
theorem config_dropSetting (state : State) :
    (state.step .dropSetting).1.config =
      state.config.map fun config => Step.edit config .dropSetting := by
  rw [State.step]
  split
  · rename_i hempty
    cases hconfig : state.config with
    | none => rfl
    | some config =>
      have hnil : config.settings = [] := by simpa [hconfig] using hempty
      have hdrop : Step.edit config .dropSetting = config := by
        rw [Step.edit, hnil, List.drop_nil, ← hnil]
      rw [Option.map_some, hdrop]
  · exact config_edit _

/-- Neither files nor variables nor the registry have a part in what becomes of the current
configuration, except through the answer to a load. -/
theorem config_step (state : State) (step : Step) :
    (state.step step).1.config = configNext state.config (step, (state.step step).2) := by
  cases step with
  | load path word =>
    rw [State.step]
    cases Config.load state.registry state.world path word with
    | ok config => rfl
    | error cause => exact Option.map_id'.symm
  | addSetting setting => exact config_edit _
  | dropSetting => exact config_dropSetting state
  | write | remove | setVariable | unsetVariable | setFlagType =>
    rw [config_of_isChange rfl]
    exact Option.map_id'.symm
  | entries | check | program =>
    rw [step_of_quiet (by constructor)]
    exact Option.map_id'.symm

theorem answer_check (state : State) : (state.step .check).2 = Answer.ofConfig state.config := by
  rw [State.step]
  cases hconfig : state.config <;> rfl

/-- A check answers for the configuration that the record before it tells of. -/
theorem answer_of_check {before rest : List (Step × Answer)} {answer : Answer}
    (h : record state steps = before ++ (.check, answer) :: rest) :
    answer = Answer.ofConfig (configAfter state.config before) := by
  induction before generalizing state steps with
  | nil =>
    obtain ⟨step, later, rfl, hentry, _⟩ := exists_step_of_record h
    obtain ⟨rfl, rfl⟩ := Prod.mk.inj hentry
    exact answer_check state
  | cons entry before ih =>
    obtain ⟨step, later, rfl, rfl, hlater⟩ := exists_step_of_record h
    rw [ih hlater, config_step]
    rfl

/-! ## The last load -/

/-- No load in a record succeeds. -/
def NoLoad (record : List (Step × Answer)) : Prop :=
  ∀ path word config, (.load path word, .config config) ∉ record

theorem noLoad_of_forall_notMem {record : List (Step × Answer)}
    (h : ∀ path word, .load path word ∉ record.map Prod.fst) : NoLoad record := by
  intro path word config hmem
  exact h path word (List.mem_map_of_mem hmem)

/-- As long as no load succeeds, only the editing steps count, whatever their answers. -/
theorem configAfter_of_noLoad {config : Config} {between : List (Step × Answer)}
    (h : NoLoad between) :
    configAfter (some config) between = some (edited config (between.map Prod.fst)) := by
  induction between generalizing config with
  | nil => rfl
  | cons entry between ih =>
    have hrest : NoLoad between := fun path word other hmem =>
      h path word other (List.mem_cons_of_mem _ hmem)
    have hentry : configNext (some config) entry = some (entry.1.edit config) := by
      unfold configNext
      split
      · exact absurd List.mem_cons_self (h _ _ _)
      · rfl
    show configAfter (configNext (some config) entry) between = _
    rw [hentry, ih hrest]
    rfl

theorem edited_filter (config : Config) (steps : List Step) :
    edited config (steps.filter fun step => !step.isChange) = edited config steps := by
  induction steps generalizing config with
  | nil => rfl
  | cons step rest ih =>
    rw [List.filter_cons]
    split
    · exact ih (step.edit config)
    · rename_i hchange
      rw [ih config]
      show edited config rest = edited (step.edit config) rest
      rw [step.edit_of_isChange (by simpa using hchange)]

section

variable {before between rest : List (Step × Answer)} {path : Text} {word : WordSize}
variable {config : Config} {answer : Answer}

theorem configAfter_append (start : Option Config) (before after : List (Step × Answer)) :
    configAfter start (before ++ after) = configAfter (configAfter start before) after :=
  List.foldl_append

theorem answer_of_check_load
    (h : record state steps =
      before ++ (.load path word, .config config) :: between ++ (.check, answer) :: rest)
    (hbetween : NoLoad between) :
    answer = .outcome (edited config (between.map Prod.fst)).check := by
  rw [answer_of_check h, configAfter_append]
  show Answer.ofConfig (configAfter (some config) between) = _
  rw [configAfter_of_noLoad hbetween]
  rfl

/-- With other steps between the load and the check, what came before is as it was. -/
theorem exists_record_replaced
    (h : record state steps =
      before ++ (.load path word, .config config) :: between ++ (.check, answer) :: rest)
    (inserted later : List Step) :
    ∃ between' answer' rest',
      record state (before.map Prod.fst ++ .load path word :: inserted ++ .check :: later) =
        before ++ (.load path word, .config config) :: between' ++ (.check, answer') :: rest' ∧
      between'.map Prod.fst = inserted := by
  have hsplit : record state steps = (before ++ [(Step.load path word, Answer.config config)]) ++
      (between ++ (.check, answer) :: rest) := by
    simp [h]
  have hbefore := record_map_fst hsplit
  have hsteps : before.map Prod.fst ++ .load path word :: inserted ++ .check :: later =
      (before ++ [(Step.load path word, Answer.config config)]).map Prod.fst ++
        (inserted ++ .check :: later) := by
    simp
  generalize hloaded :
    state.after ((before ++ [(Step.load path word, Answer.config config)]).map Prod.fst) = loaded
  refine ⟨record loaded inserted, ((loaded.after inserted).step .check).2,
    record ((loaded.after inserted).step .check).1 later, ?_, map_fst_record loaded inserted⟩
  rw [hsteps, record_append, hbefore, hloaded, record_append, record_cons]
  simp only [List.append_assoc, List.cons_append, List.nil_append]

end

/-- Steps that only read, and loads that fail, can be left out of a session: the others are
answered alike.  A check answers for the configuration of the last load that succeeded, with
the settings that were added and dropped since; so with files, variables and the registry
changed in any way between the two it answers alike.  In both sessions the load is the last that
succeeds, which is so if no other stands before the check. -/
theorem run_frame (state : State) (steps : List Step) :
    (∀ kept, Thinned (record state steps) kept →
      run state (kept.map Prod.fst) = kept.map Prod.snd) ∧
    ∀ before path word config between answer rest,
      record state steps =
        before ++ (.load path word, .config config) :: between ++ (.check, answer) :: rest →
      NoLoad between →
      answer = .outcome (edited config (between.map Prod.fst)).check ∧
      ∀ inserted later, inserted.filter (fun step => !step.isChange) =
          (between.map Prod.fst).filter (fun step => !step.isChange) →
        ∃ between' answer' rest',
          record state (before.map Prod.fst ++ .load path word :: inserted ++ .check :: later) =
            before ++ (.load path word, .config config) :: between' ++ (.check, answer') :: rest' ∧
          between'.map Prod.fst = inserted ∧ (NoLoad between' → answer' = answer) := by
  constructor
  · intro kept hkept
    rw [← map_snd_record, record_of_thinned hkept]
  · intro before path word config between answer rest h hbetween
    have hanswer := answer_of_check_load h hbetween
    refine ⟨hanswer, ?_⟩
    intro inserted later hinserted
    obtain ⟨between', answer', rest', hrecord, hsteps⟩ := exists_record_replaced h inserted later
    refine ⟨between', answer', rest', hrecord, hsteps, ?_⟩
    intro hnoLoad
    rw [answer_of_check_load hrecord hnoLoad, hanswer, hsteps, ← edited_filter, hinserted,
      edited_filter]

/-- A file with one flag. -/
def sampleFile : Step := .write (Path.ofText "f".toList) (Utf8.encode "X:int=1".toList)

/-- What is loaded from it. -/
def sampleConfig : Config where
  file := Path.ofText "f".toList
  word := .bits 64
  settings := [⟨"X".toList, "int".toList, .int32, "1".toList⟩]

/-- The file is written, loaded and read again, and a flag is added.  Without the reading the
other answers are the same, and so is that to the check with the file removed before it. -/
theorem run_frame_sample :
    let start : State := { tree := .empty, environment := [], registry := [], config := none }
    let load : Step := .load "f".toList (.bits 64)
    let entries : Step := .entries (Path.ofText "f".toList)
    let add : Step := .addSetting ⟨"Y".toList, "int".toList, .int32, "2".toList⟩
    let remove : Step := .remove (Path.ofText "f".toList)
    let answer : Answer := .outcome (edited sampleConfig [entries, add]).check
    record start [sampleFile, load, entries, add, .check] =
        [(sampleFile, .done), (load, .config sampleConfig),
          (entries, .entries [("X:int".toList, "1".toList)]), (add, .count 2), (.check, answer)] ∧
      run start [sampleFile, load, add, .check] =
        [.done, .config sampleConfig, .count 2, answer] ∧
      answer ∈ run start [sampleFile, load, entries, remove, add, .check] := by
  intro start load entries add remove answer
  have hrecord : record start [sampleFile, load, entries, add, .check] =
      [(sampleFile, .done)] ++ (load, .config sampleConfig) ::
        [(entries, .entries [("X:int".toList, "1".toList)]), (add, .count 2)] ++
        [(.check, answer)] := by
    rfl
  obtain ⟨hthinned, hcheck⟩ := run_frame start [sampleFile, load, entries, add, .check]
  refine ⟨hrecord, ?_, ?_⟩
  · have hkept : Thinned (record start [sampleFile, load, entries, add, .check])
        [(sampleFile, .done), (load, .config sampleConfig), (add, .count 2), (.check, answer)] := by
      rw [hrecord]
      exact .keep _ (.keep _ (.drop (.entries _ _) (.keep _ (.keep _ .nil))))
    exact hthinned _ hkept
  · have hbetween : NoLoad
        [(entries, .entries [("X:int".toList, "1".toList)]), (add, .count 2)] :=
      noLoad_of_forall_notMem (by simp [entries, add])
    obtain ⟨_, hinserted⟩ := hcheck _ _ _ _ _ _ _ hrecord hbetween
    obtain ⟨between, _, rest, hlonger, hsteps, hsame⟩ := hinserted [entries, remove, add] [] rfl
    have hnoLoad : NoLoad between := noLoad_of_forall_notMem (by simp [hsteps, entries, remove, add])
    rw [hsame hnoLoad] at hlonger
    have hmem : (Step.check, answer) ∈ record start [sampleFile, load, entries, remove, add, .check] :=
      hlonger ▸ List.mem_append_right _ List.mem_cons_self
    rw [← map_snd_record]
    exact List.mem_map_of_mem hmem

end SizeFlags.Session
