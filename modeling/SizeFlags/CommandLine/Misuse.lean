import SizeFlags.CommandLine.OptionName
import SizeFlags.Text.Decimal
import SizeFlags.Text.Quoted

set_option autoImplicit false

/-!
# Misuse

Everything that can be wrong with the arguments of the program, by cause, with
its wording.  A misuse is found before the program does anything else.
-/

namespace SizeFlags.CommandLine

/-- What is wrong with the arguments. -/
inductive Misuse where
  /-- a shortened option that may be several ones -/
  | ambiguousOption (argument : Text) (candidates : List OptionName)
  /-- an option without the value that it takes -/
  | missingValue (option : OptionName)
  /-- a value for an option that takes none -/
  | unexpectedValue (option : OptionName) (value : Text)
  /-- a word size that is no number -/
  | wordBitsNotNumber (value : Text)
  /-- a number that is no word size -/
  | wordBitsUnsupported (bits : Int)
  /-- a word that is no action -/
  | unknownAction (value : Text)
  /-- operands that have to be given and are not -/
  | missingOperands (names : List Text)
  /-- arguments that nothing takes -/
  | unrecognized (arguments : List Text)
  deriving DecidableEq, Repr, Inhabited

namespace Misuse

/-- A message about one option or operand. -/
def about (label message : Text) : Text := "argument ".toList ++ label ++ ": ".toList ++ message

/-- The wording of a misuse. -/
def message : Misuse → Text
  | ambiguousOption argument candidates =>
    "ambiguous option: ".toList ++ argument ++ " could match ".toList
      ++ Text.join ", ".toList (candidates.map OptionName.toText)
  | missingValue option => about option.label "expected one argument".toList
  | unexpectedValue option value =>
    about option.label ("ignored explicit argument ".toList ++ Text.quoted value)
  | wordBitsNotNumber value =>
    about OptionName.wordBits.label ("invalid int value: ".toList ++ Text.quoted value)
  | wordBitsUnsupported bits =>
    about OptionName.wordBits.label
      ("invalid choice: ".toList ++ Text.ofInt bits ++ " (choose from 32, 64)".toList)
  | unknownAction value =>
    about "action".toList
      ("invalid choice: ".toList ++ Text.quoted value
        ++ " (choose from 'parse', 'check')".toList)
  | missingOperands names =>
    "the following arguments are required: ".toList ++ Text.join ", ".toList names
  | unrecognized arguments =>
    "unrecognized arguments: ".toList ++ Text.join [' '] arguments

end Misuse

end SizeFlags.CommandLine
