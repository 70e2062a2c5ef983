import SizeFlags.CommandLine.Help
import SizeFlags.CommandLine.Isolation

set_option autoImplicit false

/-!
# The program

A run of the program reads its arguments, makes the request ready and runs it.
A fault that is the user's ends the run with its message; any other fault is
the answer itself.
-/

namespace SizeFlags.Program

open CommandLine Flags

/-- Make a request ready and run it. -/
def serve (registry : Registry) (world : World) (request : Request) : Except Fault Outcome := do
  let command ← Command.ofRequest registry world request
  command.run

/-- Serve a request, and tell the user of a fault. -/
def answer (registry : Registry) (world : World) (request : Request) : Except Fault Outcome :=
  match serve registry world request with
  | .ok outcome => .ok outcome
  | .error fault => Outcome.ofFault fault

/-- Run the program on its arguments. -/
def run (world : World) (arguments : List Text) : Except Fault Outcome :=
  match readArguments (isolate arguments) with
  | .ok request => answer .standard world request
  | .error stop => .ok (stop.outcome world.columns)

/-- The file that a run on these arguments looks at, if it comes to that. -/
def fileOf? (world : World) (arguments : List Text) : Option Path :=
  match readArguments (isolate arguments) with
  | .ok request =>
    match request.action, request.target with
    | .check, .text path => (world.locate path).toOption
    | _, _ => none
  | .error _ => none

end SizeFlags.Program
