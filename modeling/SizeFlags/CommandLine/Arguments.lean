import SizeFlags.Command
import SizeFlags.CommandLine.Token
import SizeFlags.Integer.Numeral

set_option autoImplicit false

/-!
# From arguments to a request

The tokens are used up from left to right.  Options set the type and the word
size, the last one counting; arguments fill the two operands, the action and
then its target; what nothing takes is put aside.  The first fault ends it, and
so does a call for help.  Operands that are missing are found at the end, and
after them the arguments put aside.

The separator goes with an operand beside it: one that has just been placed, or
else one that follows it and has a place.  Without such an operand it is put
aside itself.  An operand that is written like the separator is empty, unless
it is the one that the separator went with by preceding it.
-/

namespace SizeFlags.CommandLine

/-- Why there is no request. -/
inductive Stop where
  | help
  | misuse (cause : Misuse)
  deriving DecidableEq, Repr, Inhabited

/-- What the tokens used so far have set. -/
structure Progress where
  action : Option Action
  target : Option Operand
  typeName : Operand
  word : WordSize
  /-- the arguments put aside, in order -/
  aside : List Text
  deriving DecidableEq, Repr, Inhabited

namespace Progress

/-- Nothing is set yet. -/
def start : Progress := ⟨none, none, Request.defaultType, Request.defaultWord, []⟩

/-- An operand has not been given yet. -/
def isOpen (progress : Progress) : Bool := progress.action.isNone || progress.target.isNone

/-- Put an argument aside. -/
def putAside (progress : Progress) (t : Text) : Progress :=
  { progress with aside := progress.aside ++ [t] }

/-- Use an argument as the action, if that is open, or a given operand as the
target, if only that is open. -/
def take (progress : Progress) (t : Text) (operand : Operand) : Except Stop Progress :=
  match progress.action, progress.target with
  | none, _ =>
    match Action.ofText? t with
    | some action => .ok { progress with action := some action }
    | none => .error (.misuse (.unknownAction t))
  | some _, none => .ok { progress with target := some operand }
  | some _, some _ => .ok (progress.putAside t)

end Progress

/-- A value that is written like the separator is empty. -/
def operandOf (t : Text) : Operand := if t = separator then .empty else .text t

/-- The word size that a value gives. -/
def wordSizeOf (t : Text) : Except Stop WordSize :=
  match operandOf t with
  | .empty => .ok .empty
  | .text t =>
    match Integer.ofNumeral? t with
    | none => .error (.misuse (.wordBitsNotNumber t))
    | some bits =>
      if (Width.ofBits? bits).isSome then .ok (.bits bits)
      else .error (.misuse (.wordBitsUnsupported bits))

/-- What a call for help comes to.  The short name may be repeated, as in `-hh`; any
other value is a misuse. -/
def helpStop (name : OptionName) (value : Option Text) : Stop :=
  match name, value with
  | _, none => .help
  | .shortHelp, some (c :: rest) =>
    match (c :: rest).dropWhile fun c => c = 'h' with
    | [] => .help
    | left => .misuse (.unexpectedValue name left)
  | _, some value => .misuse (.unexpectedValue name value)

namespace Progress

/-- Set an option to a value. -/
def setOption (progress : Progress) (name : OptionName) (value : Text) : Except Stop Progress :=
  match name with
  | .typeName => .ok { progress with typeName := operandOf value }
  | .wordBits => do
    let word ← wordSizeOf value
    return { progress with word := word }
  | .shortHelp | .longHelp => .error (helpStop name (some value))

/-- Use the tokens before the separator.  The answer also says whether the last one
was placed as an operand. -/
def useTokens (progress : Progress) (placed : Bool) :
    List Token → Except Stop (Progress × Bool)
  | [] => .ok (progress, placed)
  | .argument t :: rest => do
    let next ← progress.take t (operandOf t)
    useTokens next progress.isOpen rest
  | .unknown t :: rest => useTokens (progress.putAside t) false rest
  | .option name (some value) :: rest => do
    let next ← progress.setOption name value
    useTokens next false rest
  | .option name none :: rest =>
    if name = .shortHelp ∨ name = .longHelp then .error .help
    else
      match rest with
      | .argument value :: rest => do
        let next ← progress.setOption name value
        useTokens next false rest
      | _ => .error (.misuse (.missingValue name))

/-- Use arguments after the separator. -/
def takeAll (progress : Progress) : List Text → Except Stop Progress
  | [] => .ok progress
  | t :: rest => do
    let next ← progress.take t (operandOf t)
    takeAll next rest

/-- Use the separator and the arguments after it. -/
def useSeparator (progress : Progress) (placed : Bool) (after : List Text) :
    Except Stop Progress :=
  if placed then progress.takeAll after
  else
    match after with
    | t :: rest =>
      if progress.isOpen then do
        let next ← progress.take t (.text t)
        takeAll next rest
      else (progress.putAside separator).takeAll after
    | [] => .ok (progress.putAside separator)

/-- The request that has been made, if it is complete and nothing is put aside. -/
def finish (progress : Progress) : Except Stop Request :=
  match progress.action, progress.target with
  | some action, some target =>
    if progress.aside = [] then .ok ⟨action, target, progress.typeName, progress.word⟩
    else .error (.misuse (.unrecognized progress.aside))
  | none, _ => .error (.misuse (.missingOperands ["action".toList, "target".toList]))
  | some _, none => .error (.misuse (.missingOperands ["target".toList]))

end Progress

/-- Read the arguments of the program. -/
def readArguments (arguments : List Text) : Except Stop Request :=
  match Tokens.ofArguments arguments with
  | .error cause => .error (.misuse cause)
  | .ok tokens => do
    let (progress, placed) ← Progress.start.useTokens false tokens.before
    let progress ← match tokens.after with
      | none => pure progress
      | some after => progress.useSeparator placed after
    progress.finish

end SizeFlags.CommandLine
