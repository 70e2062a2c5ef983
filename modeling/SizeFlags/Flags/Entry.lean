import SizeFlags.Flags.Piece
import SizeFlags.Text.Blank
import SizeFlags.Text.Lines

set_option autoImplicit false

/-!
# Entries of a flags file

A flags file is read line by line.  A line with an equals sign is an entry,
unless it starts with a number sign; all other lines are ignored.  Blanks around
the line, the key and the value do not count, and quotes around the value are
taken off, first quotation marks, then apostrophes.
-/

namespace SizeFlags.Flags

/-- A key and the value written for it, quotes taken off. -/
structure Entry where
  key : Text
  value : Text
  deriving DecidableEq, Repr, Inhabited

/-- Take off quotation marks at both ends, then apostrophes. -/
def unquote (value : Text) : Text :=
  Text.trim (fun c => c = Text.apostrophe) (Text.trim (fun c => c = Text.quotationMark) value)

namespace Entry

/-- The entry on a line. -/
def ofLine? (line : Text) : Option Entry :=
  let stripped := Text.strip line
  if stripped.head? = some '#' then none
  else (Text.cutAt? '=' stripped).map fun parts =>
    ⟨Text.strip parts.1, unquote (Text.strip parts.2)⟩

/-- The value with its variables put in. -/
def raw (valueOf? : Text → Option Text) (entry : Entry) : Text := expand valueOf? entry.value

/-- The variables that the value refers to. -/
def references (entry : Entry) : List Text := (Piece.ofText entry.value).filterMap Piece.name?

end Entry

/-- The entries of a file, in order. -/
def entries (text : Text) : List Entry := (Text.lines text).filterMap Entry.ofLine?

/-- The variables that the values of a file refer to. -/
def references (text : Text) : List Text := (entries text).flatMap Entry.references

example : Entry.ofLine? " MaxHeapSize = \"4G\" ".toList
    = some ⟨"MaxHeapSize".toList, "4G".toList⟩ := by decide

end SizeFlags.Flags
