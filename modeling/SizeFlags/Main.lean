import SizeFlags.Program

set_option autoImplicit false

/-!
# The command line

The outer layer.  It looks up the one file, the variables and the users that a run can
depend on, runs the program on what it found, prints the two streams and ends
with the status.
-/

open SizeFlags

/-- The values of those of some variables of the process that are set. -/
def lookUpVariables (names : List Text) : IO (Table Text Text) :=
  names.filterMapM fun name => do
    return (← IO.getEnv (String.ofList name)).map fun value => (name, value.toList)

/-! ## Users -/

/-- The fields of the lines of a system file; none if there is no such file. -/
def lookUpFields (mark : Char) (name : String) : IO (List (List Text)) := do
  try
    return (← IO.FS.lines name).toList.map fun line => Text.splitAt mark line.toList
  catch _ => return []

/-- The home directory of a user in the table of users, where the user who runs the program is
found by number. -/
def homeIn (users : List (List Text)) (own? : Option Text) (user : Text) : Option Text :=
  let entry? := users.find? fun fields =>
    if user = [] then own?.isSome && fields[2]? = own? else fields[0]? = some user
  entry?.bind fun fields => fields[5]?

/-- The home directories that the system keeps. -/
def lookUpUsers : IO (Text → Option Text) := do
  let users ← lookUpFields ':' "/etc/passwd"
  let process ← lookUpFields '\t' "/proc/self/status"
  let own? := process.find? fun fields => fields[0]? = some "Uid:".toList
  return homeIn users (own?.bind fun fields => fields[1]?)

/-! ## Files -/

/-- Why the bytes of a file are not seen. -/
def hindranceOf (stage : Stage) : IO.Error → Hindrance
  | .noFileOrDirectory _ number sentence | .interrupted _ number sentence
  | .alreadyExists _ number sentence | .invalidArgument _ number sentence
  | .permissionDenied _ number sentence | .resourceExhausted _ number sentence
  | .inappropriateType _ number sentence | .noSuchThing _ number sentence
  | .otherError number sentence | .resourceBusy number sentence
  | .resourceVanished number sentence | .unsupportedOperation number sentence
  | .hardwareFault number sentence | .unsatisfiedConstraints number sentence
  | .illegalOperation number sentence | .protocolError number sentence
  | .timeExpired number sentence => .system ⟨stage, number.toNat, sentence.toList⟩
  | .unexpectedEof | .userError _ => .obstacle .missing

/-- Why a path cannot be followed.  Resolving it does not tell, so it is opened. -/
def lookUpHindrance (name : String) : IO Hindrance := do
  try
    let _ ← IO.FS.Handle.mk name .read
    return .obstacle .missing
  catch error => return hindranceOf .following error

/-- The bytes of the regular file at a path. -/
def lookUpFile (path : SizeFlags.Path) : IO (Except Hindrance Utf8.Bytes) := do
  if '\x00' ∈ path.toText then return .error (.obstacle .nul)
  let name := String.ofList path.toText
  try
    let found ← IO.FS.realPath name
    if (← found.metadata).type == .file then
      try
        return .ok (← IO.FS.readBinFile found).toList
      catch error => return .error (hindranceOf .opening error)
    else return .error (.obstacle .directory)
  catch _ => return .error (← lookUpHindrance name)

/-- What a run on these arguments can see. -/
def lookUpWorld (arguments : List Text) : IO World := do
  let always := ["HOME".toList, "COLUMNS".toList]
  let world : World := {
    look := fun _ => .error (.obstacle .missing)
    valueOf? := (← lookUpVariables always).get?
    userHome? := ← lookUpUsers }
  let path? := Program.fileOf? world arguments
  let found ← match path? with
    | some path => lookUpFile path
    | none => pure (.error (.obstacle .missing))
  let names := match found.toOption.map Utf8.decode with
    | some (.ok text) => Flags.references text
    | _ => []
  let environment ← lookUpVariables (always ++ names)
  return { world with
    look := fun path => if path? = some path then found else .error (.obstacle .missing)
    valueOf? := environment.get? }

/-- Run the program. -/
def main (arguments : List String) : IO UInt32 := do
  let arguments := arguments.map String.toList
  let world ← lookUpWorld arguments
  match Program.run world arguments with
  | .ok outcome =>
    IO.print (String.ofList outcome.out)
    IO.eprint (String.ofList outcome.err)
    return outcome.status.toUInt32
  | .error fault =>
    IO.eprintln (String.ofList fault.message)
    return 1
