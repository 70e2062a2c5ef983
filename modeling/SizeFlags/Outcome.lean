import SizeFlags.Fault

set_option autoImplicit false

/-!
# Outcomes

What a run of the program leaves: its exit status and the text of its two
streams.
-/

namespace SizeFlags

/-- An exit status, standard output and standard error. -/
structure Outcome where
  status : Nat
  out : Text
  err : Text
  deriving DecidableEq, Repr, Inhabited

namespace Outcome

/-- A run that succeeds. -/
def success (out : Text) : Outcome := ⟨0, out, []⟩

/-- A run that ends with a message for the user. -/
def failure (message : Text) : Outcome := ⟨1, [], message ++ ['\n']⟩

/-- End a run by a fault that is told to the user; other faults go on. -/
def ofFault (fault : Fault) : Except Fault Outcome :=
  if fault.isReported then .ok (failure fault.message) else .error fault

end Outcome

end SizeFlags
