import SizeFlags.Flags.Entry
import SizeFlags.Flags.Registry
import SizeFlags.World

set_option autoImplicit false

/-!
# Loading a flags file

Loading gives each entry of a file a shape.  An entry may name its type after a
colon in its key; otherwise the registry has to know the flag.  The first entry
without a shape is the fault of the file, and a file without entries has no
flags.  What is loaded no longer depends on files, variables or registry.
-/

namespace SizeFlags.Flags

/-- A flag: its name, its type as it was named, its shape, and its value. -/
structure Setting where
  name : Text
  typeName : Text
  shape : Shape
  raw : Text
  deriving DecidableEq, Repr, Inhabited

/-- The flags of a file for a word size. -/
structure Config where
  file : Path
  word : WordSize
  settings : List Setting
  deriving DecidableEq, Repr, Inhabited

namespace Entry

/-- The flag and the type name that an entry declares. -/
def declaration (registry : Registry) (entry : Entry) : Except Fault (Text × Text) :=
  match Text.cutAt? ':' entry.key with
  | some parts => .ok (Text.strip parts.1, Text.strip parts.2)
  | none =>
    match registry.typeOf? entry.key with
    | some typeName => .ok (entry.key, typeName)
    | none => .error (.untypedFlag entry.key)

/-- The setting that an entry makes. -/
def setting (registry : Registry) (word : WordSize) (valueOf? : Text → Option Text)
    (entry : Entry) : Except Fault Setting := do
  let (name, typeName) ← entry.declaration registry
  let shape ← TypeName.resolve typeName word
  return ⟨name, typeName, shape, entry.raw valueOf?⟩

end Entry

/-- The keys of the file at a path, and their values with variables put in. -/
def readEntries (world : World) (file : Path) : Except Fault (List (Text × Text)) := do
  let text ← world.readText file
  return (entries text).map fun entry => (entry.key, entry.raw world.valueOf?)

namespace Config

/-- The configuration that the text of a file makes. -/
def ofText (registry : Registry) (word : WordSize) (valueOf? : Text → Option Text)
    (file : Path) (text : Text) : Except Fault Config := do
  let settings ← (entries text).mapM fun entry => entry.setting registry word valueOf?
  if settings = [] then .error (.noFlags file) else .ok ⟨file, word, settings⟩

/-- Load the flags file at a path. -/
def load (registry : Registry) (world : World) (path : Text) (word : WordSize) :
    Except Fault Config := do
  let file ← world.locate path
  let text ← world.readFlagsFile file
  ofText registry word world.valueOf? file text

end Config

end SizeFlags.Flags
