import SizeFlags.Flags.Report

set_option autoImplicit false

/-!
# Commands

A request says what to do, to what, and how; a command is a request made ready,
with its shape resolved or its flags file loaded.  Making it ready may fail,
and so may reading the size that is to be parsed.
-/

namespace SizeFlags

/-- What the program does. -/
inductive Action where
  /-- read one size -/
  | parse
  /-- check a flags file -/
  | check
  deriving DecidableEq, Repr, Inhabited

namespace Action

/-- The actions, in the order in which they are shown. -/
def all : List Action := [parse, check]

/-- How an action is named. -/
def toText : Action → Text
  | parse => "parse".toList
  | check => "check".toList

/-- The action of a name. -/
def ofText? (t : Text) : Option Action := all.find? fun action => action.toText = t

/-- The action of a name that has to be one. -/
def ofText (t : Text) : Except Fault Action :=
  match ofText? t with
  | some action => .ok action
  | none => .error (.unsupportedAction t)

end Action

/-- What to do, to what, for which type and which words. -/
structure Request where
  action : Action
  target : Operand
  typeName : Operand
  word : WordSize
  deriving DecidableEq, Repr, Inhabited

/-- The type that is used when none is named. -/
def Request.defaultType : Operand := .text TypeName.uint64.toText

/-- The word size that is used when none is given. -/
def Request.defaultWord : WordSize := .bits 64

/-- A request made ready. -/
inductive Command where
  | parse (value : Operand) (shape : Shape)
  | check (config : Flags.Config)
  deriving DecidableEq, Repr, Inhabited

/-- The shape that an operand names.  An empty one is a fault of its own, but the
word size is looked at first. -/
def TypeName.resolveOperand (name : Operand) (word : WordSize) : Except Fault Shape :=
  match name with
  | .text name => TypeName.resolve name word
  | .empty => if word.width? = none then .error (.unsupportedWordSize word) else .error .emptyTypeName

namespace Command

/-- Make a request ready.  The type plays no part in a check. -/
def ofRequest (registry : Flags.Registry) (world : World) (request : Request) :
    Except Fault Command :=
  match request.action with
  | .parse => do
    let shape ← TypeName.resolveOperand request.typeName request.word
    return .parse request.target shape
  | .check =>
    match request.target with
    | .text path => do
      let config ← Flags.Config.load registry world path request.word
      return .check config
    | .empty => .error .emptyPath

/-- Run a command. -/
def run : Command → Except Fault Outcome
  | parse value shape => do
    let size ← Size.read shape value
    return .success (Text.ofInt size ++ ['\n'])
  | check config => return config.check

end Command

end SizeFlags
