import SizeFlags.Flags.Config
import SizeFlags.Proofs.Flags.Entry

set_option autoImplicit false

/-!
# Written flags files

How a flags file may be written, said without the reader.  A flag stands on a
line of its own, its parts padded at will and its value quoted or not; lines
that are to be ignored may stand anywhere between; and any break may separate
two lines.  The conditions on a part are those under which nothing of it is
taken for padding, for a quote or for a mark.
-/

namespace SizeFlags.Flags

/-- White space inside of a line. -/
structure Padding where
  text : Text
  isBlank : ∀ c ∈ text, Text.isBlank c = true
  unbroken : Text.Unbroken text

/-- No white space at all. -/
def Padding.empty : Padding := ⟨[], fun _ h => absurd h List.not_mem_nil, Text.unbroken_nil⟩

/-- A text between two paddings. -/
def padded (before : Padding) (t : Text) (after : Padding) : Text :=
  before.text ++ t ++ after.text

/-- How a value is quoted. -/
inductive Quoting where
  | bare
  | quotationMarks
  | apostrophes
  deriving DecidableEq, Repr, Inhabited

namespace Quoting

/-- The quote at both ends of a value. -/
def quote : Quoting → Text
  | bare => []
  | quotationMarks => [Text.quotationMark]
  | apostrophes => [Text.apostrophe]

/-- The characters that may not stand at an end of a value: it would lose them. -/
def loses : Quoting → Char → Bool
  | bare, c => Text.isBlank c || c = Text.quotationMark || c = Text.apostrophe
  | quotationMarks, c => c = Text.quotationMark || c = Text.apostrophe
  | apostrophes, c => c = Text.apostrophe

end Quoting

/-- A value as it is written. -/
structure WrittenValue where
  text : Text
  quoting : Quoting
  unbroken : Text.Unbroken text
  no_reference : '$' ∉ text
  trimmed : Text.Trimmed quoting.loses text

/-- The text of a value between its quotes. -/
def WrittenValue.toText (value : WrittenValue) : Text :=
  value.quoting.quote ++ value.text ++ value.quoting.quote

/-- A flag as it is written: its name, its type and its value, each between two
paddings. -/
structure WrittenFlag where
  beforeName : Padding
  name : Text
  afterName : Padding
  beforeType : Padding
  typeName : TypeName
  afterType : Padding
  beforeValue : Padding
  value : WrittenValue
  afterValue : Padding
  name_unbroken : Text.Unbroken name
  name_no_equals : '=' ∉ name
  name_no_colon : ':' ∉ name
  name_trimmed : Text.Trimmed Text.isBlank name
  name_no_comment : name.head? ≠ some '#'

namespace WrittenFlag

/-- The name and the type of a flag. -/
def declaration (flag : WrittenFlag) : Text :=
  padded flag.beforeName flag.name flag.afterName
    ++ ':' :: padded flag.beforeType flag.typeName.toText flag.afterType

/-- The line of a flag. -/
def toText (flag : WrittenFlag) : Text :=
  flag.declaration ++ '=' :: padded flag.beforeValue flag.value.toText flag.afterValue

/-- The setting that a flag stands for. -/
def setting (word : Width) (flag : WrittenFlag) : Setting :=
  ⟨flag.name, flag.typeName.toText, flag.typeName.shape word, flag.value.text⟩

end WrittenFlag

/-- A line that says nothing: it is blank, a comment, or has no equals sign. -/
structure IgnoredLine where
  text : Text
  unbroken : Text.Unbroken text
  ignored : Text.strip text = [] ∨ (Text.strip text).head? = some '#' ∨ '=' ∉ text

/-- A line of a written file. -/
inductive FileLine where
  | flag (written : WrittenFlag)
  | ignored (line : IgnoredLine)

namespace FileLine

/-- The text of a line. -/
def toText : FileLine → Text
  | .flag written => written.toText
  | .ignored line => line.text

/-- The flag on a line. -/
def flag? : FileLine → Option WrittenFlag
  | .flag written => some written
  | .ignored _ => none

end FileLine

/-- A break between two lines. -/
abbrev LineBreak : Type := { t : Text // t ∈ Text.breaks }

/-- A file as it is written: a line, and more lines behind breaks. -/
structure WrittenFile where
  first : FileLine
  rest : List (LineBreak × FileLine)

namespace WrittenFile

/-- The text of a file. -/
def toText (file : WrittenFile) : Text :=
  file.first.toText ++ file.rest.flatMap fun part => part.1.val ++ part.2.toText

/-- The flags of a file, in order. -/
def flags (file : WrittenFile) : List WrittenFlag :=
  (file.first :: file.rest.map (·.2)).filterMap FileLine.flag?

end WrittenFile

end SizeFlags.Flags
