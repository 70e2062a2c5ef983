import SizeFlags.CommandLine.Misuse
import SizeFlags.Text.DecimalDigit

set_option autoImplicit false

/-!
# Tokens of the command line

Before any argument is used, each is classified by its text alone: an argument
proper, an option with or without a value of its own, or something that looks
like an option and is none.  The separator `--` ends this: all that follows it
are arguments proper.
-/

namespace SizeFlags.CommandLine

/-- What an argument is taken for. -/
inductive Token where
  /-- an operand or the value of an option -/
  | argument (text : Text)
  /-- an option, and the value joined to it -/
  | option (name : OptionName) (value : Option Text)
  /-- no option, although it looks like one -/
  | unknown (text : Text)
  deriving DecidableEq, Repr, Inhabited

/-- The separator between options and operands. -/
def separator : Text := ['-', '-']

/-- Decimal digits of any script, at least one. -/
def isDigits (t : Text) : Bool := t ≠ [] && t.all Text.isDecimalDigit

/-- Without one line feed at the end. -/
def withoutFinalBreak (t : Text) : Text :=
  if t.getLast? = some '\n' then t.dropLast else t

/-- The argument is a negative number, with or without a fraction; a line feed may
follow it. -/
def isNegativeNumber : Text → Bool
  | '-' :: rest =>
    let body := withoutFinalBreak rest
    isDigits body ||
      match Text.cutAt? '.' body with
      | some (whole, fraction) => whole.all Text.isDecimalDigit && isDigits fraction
      | none => false
  | _ => false

namespace Token

/-- The option with a value joined by an equals sign, its name written in full. -/
def joined? (t : Text) : Option Token :=
  (Text.cutAt? '=' t).bind fun parts =>
    (OptionName.ofText? parts.1).map fun name => option name (some parts.2)

/-- The options that a shortened name may stand for, and the value joined to it. -/
def shortened (t : Text) : List OptionName × Option Text :=
  if separator.isPrefixOf t then
    match Text.cutAt? '=' t with
    | some (start, value) =>
      (OptionName.long.filter fun name => start.isPrefixOf name.toText, some value)
    | none => (OptionName.long.filter fun name => t.isPrefixOf name.toText, none)
  else if OptionName.shortHelp.toText.isPrefixOf t then
    ([.shortHelp], some (t.drop OptionName.shortHelp.toText.length))
  else ([], none)

/-- Classify an argument that is not the separator. -/
def ofText (t : Text) : Except Misuse Token :=
  if t.head? ≠ some '-' ∨ t = ['-'] then .ok (argument t)
  else
    match OptionName.ofText? t, joined? t with
    | some name, _ => .ok (option name none)
    | none, some token => .ok token
    | none, none =>
      match shortened t with
      | ([name], value) => .ok (option name value)
      | ([], _) =>
        .ok (if isNegativeNumber t || t.contains ' ' then argument t else unknown t)
      | (candidates, _) => .error (.ambiguousOption t candidates)

end Token

/-- Classified arguments: those before the separator, and the ones after it, if
there is one. -/
structure Tokens where
  before : List Token
  after : Option (List Text)
  deriving DecidableEq, Repr, Inhabited

namespace Tokens

/-- Classify the arguments. -/
def ofArguments : List Text → Except Misuse Tokens
  | [] => .ok ⟨[], none⟩
  | t :: rest =>
    if t = separator then .ok ⟨[], some rest⟩
    else do
      let token ← Token.ofText t
      let tokens ← ofArguments rest
      return { tokens with before := token :: tokens.before }

end Tokens

end SizeFlags.CommandLine
