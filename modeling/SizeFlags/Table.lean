set_option autoImplicit false

/-!
# Tables

A table gives values to finitely many keys.  It is kept as a list of entries,
of which the first for a key counts; only look-up, writing and removal are used.
-/

namespace SizeFlags

/-- Entries by key. -/
abbrev Table (κ α : Type) : Type := List (κ × α)

namespace Table

variable {κ α : Type} [DecidableEq κ]

/-- The value of a key. -/
def get? (table : Table κ α) (key : κ) : Option α :=
  (table.find? fun entry => entry.1 = key).map (·.2)

/-- Without the entries of a key. -/
def remove (table : Table κ α) (key : κ) : Table κ α :=
  table.filter fun entry => ¬ entry.1 = key

/-- Give a key a value, in place of any other. -/
def put (table : Table κ α) (key : κ) (value : α) : Table κ α :=
  (key, value) :: remove table key

end Table

end SizeFlags
