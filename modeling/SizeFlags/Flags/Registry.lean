import SizeFlags.Table
import SizeFlags.TypeName

set_option autoImplicit false

/-!
# The flag registry

The types of the flags that are known by name.  A flag that is registered
without a type name counts as unknown.
-/

namespace SizeFlags.Flags

/-- Type names by flag. -/
abbrev Registry : Type := Table Text Text

namespace Registry

/-- The type name of a flag. -/
def typeOf? (registry : Registry) (flag : Text) : Option Text :=
  (registry.get? flag).filter fun name => name ≠ []

/-- The well-known memory flags. -/
def standard : Registry :=
  [("MaxHeapSize".toList, TypeName.size_t),
   ("InitialHeapSize".toList, TypeName.size_t),
   ("MinHeapSize".toList, TypeName.size_t),
   ("MaxNewSize".toList, TypeName.size_t),
   ("MaxMetaspaceSize".toList, TypeName.size_t),
   ("ReservedCodeCacheSize".toList, TypeName.uintx),
   ("ThreadStackSize".toList, TypeName.intx),
   ("MaxDirectMemorySize".toList, TypeName.uint64_t)].map fun entry =>
    (entry.1, entry.2.toText)

end Registry

end SizeFlags.Flags
