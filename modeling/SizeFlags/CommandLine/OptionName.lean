import SizeFlags.Text.Basic

set_option autoImplicit false

/-!
# Option names

The program has three options.  The two that take a value have one name each,
help has a short and a long one.
-/

namespace SizeFlags.CommandLine

/-- The names of options.  Help has a short and a long one. -/
inductive OptionName where
  | shortHelp
  | longHelp
  | typeName
  | wordBits
  deriving DecidableEq, Repr, Inhabited

namespace OptionName

/-- How an option is written. -/
def toText : OptionName → Text
  | shortHelp => "-h".toList
  | longHelp => "--help".toList
  | typeName => "--type".toList
  | wordBits => "--word-bits".toList

/-- All names. -/
def all : List OptionName := [shortHelp, longHelp, typeName, wordBits]

/-- The names that start with two dashes, which may be shortened. -/
def long : List OptionName := [longHelp, typeName, wordBits]

/-- The option written so. -/
def ofText? (t : Text) : Option OptionName := all.find? fun name => name.toText = t

theorem ofText?_toText (name : OptionName) : ofText? name.toText = some name := by
  cases name <;> decide

/-- How a message names an option: by all its names. -/
def label : OptionName → Text
  | shortHelp | longHelp => "-h/--help".toList
  | name => name.toText

end OptionName

end SizeFlags.CommandLine
