import SizeFlags.Flags.Config
import SizeFlags.Outcome
import SizeFlags.Size
import SizeFlags.Text.Quoted

set_option autoImplicit false

/-!
# Checking a configuration

A check reads every size of a configuration and reports each flag on one line:
a valid one with its value on standard output, an invalid one with its quoted
text on standard error.  It counts the invalid ones and fails if there are any.
-/

namespace SizeFlags.Flags

namespace Setting

/-- The size of a flag. -/
def size? (setting : Setting) : Option Int := Size.read? setting.shape setting.raw

/-- The line of a valid flag. -/
def validLine? (setting : Setting) : Option Text :=
  setting.size?.map fun size =>
    setting.name ++ " = ".toList ++ Text.ofInt size ++ " (".toList ++ setting.typeName ++ [')']

/-- The line of an invalid flag. -/
def invalidLine? (setting : Setting) : Option Text :=
  match setting.size? with
  | some _ => none
  | none => some (setting.name ++ ": invalid ".toList ++ setting.typeName ++ " (".toList
      ++ setting.shape.name ++ ") value: ".toList ++ Text.quoted setting.raw)

end Setting

namespace Config

/-- The first line of a report. -/
def header (config : Config) : Text :=
  "Checking ".toList ++ config.file.toText ++ " (".toList ++ config.word.toText ++ "-bit)".toList

/-- The lines of the valid flags, in order. -/
def validLines (config : Config) : List Text := config.settings.filterMap Setting.validLine?

/-- The lines of the invalid flags, in order. -/
def invalidLines (config : Config) : List Text := config.settings.filterMap Setting.invalidLine?

/-- The last line of a report without invalid flags. -/
def successLine (config : Config) : Text :=
  "All ".toList ++ Text.ofNat config.settings.length ++ " flags valid".toList

/-- The last line of a report with invalid flags. -/
def failureLine (config : Config) : Text :=
  Text.ofNat config.invalidLines.length ++ " of ".toList ++ Text.ofNat config.settings.length
    ++ " flags invalid".toList

/-- Check every flag of a configuration. -/
def check (config : Config) : Outcome :=
  if config.invalidLines = [] then
    ⟨0, Text.ofLines (config.header :: config.validLines ++ [config.successLine]), []⟩
  else
    ⟨1, Text.ofLines (config.header :: config.validLines),
      Text.ofLines (config.invalidLines ++ [config.failureLine])⟩

end Config

end SizeFlags.Flags
