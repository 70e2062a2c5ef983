import SizeFlags.CommandLine.Token

set_option autoImplicit false

/-!
# Isolation of a negative size

A negative size such as `-5K` looks like an option.  The first argument that
starts with a minus sign and a digit is therefore moved behind a separator,
unless the user has placed a separator already.
-/

namespace SizeFlags.CommandLine

/-- The argument starts with a minus sign and a decimal digit of some script. -/
def looksNegative : Text → Bool
  | '-' :: c :: _ => Text.isDecimalDigit c
  | _ => false

/-- Move the first argument that looks negative behind a separator at the end. -/
def moveNegative (arguments : List Text) : List Text :=
  match arguments.find? looksNegative with
  | some negative => arguments.eraseP looksNegative ++ [separator, negative]
  | none => arguments

/-- Isolate a negative size, if no separator is given. -/
def isolate (arguments : List Text) : List Text :=
  if separator ∈ arguments then arguments else moveNegative arguments

example : isolate ["parse".toList, "-5K".toList, "--type".toList, "int".toList]
    = ["parse".toList, "--type".toList, "int".toList, "--".toList, "-5K".toList] := by decide

end SizeFlags.CommandLine
