import SizeFlags.FileTree
import SizeFlags.Program

set_option autoImplicit false

/-!
# Sessions

A session is a run of steps over one working directory, one environment, one
table of users, one flag registry and one current configuration.  Each step has an answer.  A
step that fails changes nothing, and a loaded configuration is a value of its
own, which later changes of files, variables or registry do not reach.
-/

namespace SizeFlags.Session

open Flags

/-- What a session keeps from step to step. -/
structure State where
  tree : FileTree
  environment : Table Text Text
  registry : Registry
  config : Option Config
  /-- the home directory of a user, which no step changes -/
  userHome? : Text → Option Text := fun _ => none
  deriving Inhabited

/-- What the program sees in a state. -/
def State.world (state : State) : World where
  look := fun path => (state.tree.look path).mapError .obstacle
  valueOf? := state.environment.get?
  userHome? := state.userHome?

/-- One step of a session. -/
inductive Step where
  /-- write a file -/
  | write (path : Path) (bytes : Utf8.Bytes)
  /-- remove a file -/
  | remove (path : Path)
  | setVariable (name value : Text)
  | unsetVariable (name : Text)
  /-- register the type of a flag -/
  | setFlagType (flag typeName : Text)
  /-- load a flags file, which becomes the current configuration -/
  | load (path : Text) (word : WordSize)
  /-- read the entries of a file -/
  | entries (path : Path)
  /-- add a setting to the current configuration -/
  | addSetting (setting : Setting)
  /-- remove the first setting of the current configuration -/
  | dropSetting
  /-- check the current configuration -/
  | check
  /-- run the program, with the standard registry -/
  | program (arguments : List Text)

/-- The answer to a step. -/
inductive Answer where
  | done
  | config (config : Config)
  | entries (entries : List (Text × Text))
  /-- the number of settings -/
  | count (settings : Nat)
  | outcome (outcome : Outcome)
  | fault (fault : Fault)
  /-- there is no current configuration -/
  | noConfig
  /-- there is no setting left to remove -/
  | noSetting
  deriving DecidableEq, Repr, Inhabited

/-- The answer that a result is. -/
def Answer.ofExcept {α : Type} (answer : α → Answer) : Except Fault α → Answer
  | .ok value => answer value
  | .error cause => .fault cause

/-! ## Changes -/

/-- Write a file. -/
def State.write (state : State) (path : Path) (bytes : Utf8.Bytes) : Except Fault State :=
  match state.tree.write path bytes with
  | .ok tree => .ok { state with tree := tree }
  | .error obstacle => .error (.obstructed obstacle path)

/-- Remove a file. -/
def State.remove (state : State) (path : Path) : Except Fault State :=
  match state.tree.remove path with
  | .ok tree => .ok { state with tree := tree }
  | .error obstacle => .error (.obstructed obstacle path)

/-- Set a variable, which needs a name, and one without an equals sign. -/
def State.setVariable (state : State) (name value : Text) : Except Fault State :=
  if '\x00' ∈ name ∨ '\x00' ∈ value then .error .embeddedNul
  else if '=' ∈ name then .error .malformedVariable
  else if name = [] then .error .unnamedVariable
  else .ok { state with environment := state.environment.put name value }

/-- Go on in the state that a change leads to, if it succeeds. -/
def State.change (state : State) : Except Fault State → State × Answer
  | .ok next => (next, .done)
  | .error fault => (state, .fault fault)

/-- Change the current configuration and count its settings. -/
def State.edit (state : State) (change : List Setting → List Setting) : State × Answer :=
  match state.config with
  | none => (state, .noConfig)
  | some config =>
    let settings := change config.settings
    ({ state with config := some { config with settings := settings } }, .count settings.length)

/-! ## Steps and runs -/

/-- Take one step. -/
def State.step (state : State) : Step → State × Answer
  | .write path bytes => state.change (state.write path bytes)
  | .remove path => state.change (state.remove path)
  | .setVariable name value => state.change (state.setVariable name value)
  | .unsetVariable name => ({ state with environment := state.environment.remove name }, .done)
  | .setFlagType flag typeName =>
    ({ state with registry := state.registry.put flag typeName }, .done)
  | .load path word =>
    match Config.load state.registry state.world path word with
    | .ok config => ({ state with config := some config }, .config config)
    | .error fault => (state, .fault fault)
  | .entries path => (state, Answer.ofExcept .entries (readEntries state.world path))
  | .addSetting setting => state.edit fun settings => settings ++ [setting]
  | .dropSetting =>
    if state.config.any fun config => config.settings = [] then (state, .noSetting)
    else state.edit fun settings => settings.drop 1
  | .check =>
    match state.config with
    | none => (state, .noConfig)
    | some config => (state, .outcome config.check)
  | .program arguments => (state, Answer.ofExcept .outcome (Program.run state.world arguments))

/-- The answers to the steps of a session. -/
def run (state : State) : List Step → List Answer
  | [] => []
  | step :: rest =>
    let (next, answer) := state.step step
    answer :: run next rest

end SizeFlags.Session
