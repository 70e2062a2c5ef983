import SizeFlags.CommandLine.Arguments
import SizeFlags.Outcome
import SizeFlags.Text.Filled

set_option autoImplicit false

/-!
# Help and usage

The text that help prints, and the usage that goes before the message of a
misuse.  Both are laid out for a number of columns, of which the last two stay
free.  The usage is one line if it fits; otherwise options and operands are
filled separately, beside the program's name, or below it where that leaves
less than a quarter of the line.  In the help, descriptions stand in a column
of their own, which is never narrower than eleven characters.
-/

namespace SizeFlags.CommandLine

/-- The width of a line for a number of columns. -/
def lineWidth (columns : Nat) : Int := columns - 2

/-! ## Usage -/

/-- What usage starts with. -/
def usageStart : Text := "usage: memsize".toList

/-- The spaces below the word usage. -/
def usageIndent : Nat := 7

/-- The options, as usage shows them. -/
def usageOptions : List Text :=
  ["[-h]".toList, "[--type TYPE_NAME]".toList, "[--word-bits \x7b32,64\x7d]".toList]

/-- The operands, as usage shows them. -/
def usageOperands : List Text := ["\x7bparse,check\x7d".toList, "target".toList]

/-- The lines of options, and after them those of operands, on lines with some
columns to the left. -/
def usageLines (width : Int) (left : Nat) : List Text :=
  Text.fill (width - left) (usageOptions.map Text.Chunk.word)
    ++ Text.fill (width - left) (usageOperands.map Text.Chunk.word)

/-- How the program is called. -/
def usage (columns : Nat) : List Text :=
  let width := lineWidth columns
  let whole := Text.join [' '] (usageStart :: usageOptions ++ usageOperands)
  if whole.length ≤ width then [whole]
  else if 4 * usageStart.length ≤ 3 * width then
    let left := usageStart.length + 1
    match usageLines width left with
    | [] => [usageStart]
    | first :: rest => (usageStart ++ ' ' :: first) :: rest.map (Text.indent left)
  else usageStart :: (usageLines width usageIndent).map (Text.indent usageIndent)

/-! ## Help -/

/-- An operand or an option, and what help says about it. -/
structure HelpEntry where
  label : Text
  description : Text
  deriving DecidableEq, Repr, Inhabited

/-- What the program does. -/
def description : Text := "Parse memory-size flag values such as 512M or 0x10K".toList

/-- The operands. -/
def operandEntries : List HelpEntry :=
  [⟨"\x7bparse,check\x7d".toList, []⟩,
   ⟨"target".toList,
    ("Size value for 'parse' (negative values are accepted, or may follow '--'), ".toList
      ++ "flags file for 'check'".toList)⟩]

/-- The options. -/
def optionEntries : List HelpEntry :=
  [⟨"-h, --help".toList, "show this help message and exit".toList⟩,
   ⟨"--type TYPE_NAME".toList,
    ("Integer type for 'parse' (int32, uint32, int64, uint64, int, uint, intx, ".toList
      ++ "uintx, uint64_t, size_t; default: uint64)".toList)⟩,
   ⟨"--word-bits \x7b32,64\x7d".toList,
    "Platform word size used for intx, uintx and size_t (default: 64)".toList⟩]

/-- The least width of running text. -/
def leastWidth : Int := 11

/-- The greatest column of descriptions. -/
def greatestColumn : Int := 24

/-- The column at which descriptions start: two spaces behind the longest label,
which is itself two spaces in, but not so far right that the lines get short. -/
def descriptionColumn (width : Int) : Nat :=
  let longest := ((operandEntries ++ optionEntries).map fun entry => entry.label.length).foldl max 0
  (min (longest + 4 : Int) (min greatestColumn (max (width - 20) 4))).toNat

/-- The lines of an entry.  A label that is too long has a line of its own. -/
def HelpEntry.lines (width : Int) (entry : HelpEntry) : List Text :=
  let column := descriptionColumn width
  let label := Text.indent 2 entry.label
  let filled := Text.fill (max (width - column) leastWidth) (Text.chunks entry.description)
  match filled with
  | [] => [label]
  | first :: rest =>
    if label.length + 2 ≤ column then
      (label ++ Text.indent (column - label.length) first) :: rest.map (Text.indent column)
    else label :: filled.map (Text.indent column)

/-- What the program does, and its operands and options. -/
def help (columns : Nat) : List Text :=
  let width := lineWidth columns
  usage columns
    ++ [] :: Text.fill (max width leastWidth) (Text.chunks description)
    ++ [] :: "positional arguments:".toList :: operandEntries.flatMap (HelpEntry.lines width)
    ++ [] :: "options:".toList :: optionEntries.flatMap (HelpEntry.lines width)

/-! ## Runs without a request -/

/-- The message of a misuse, behind the usage. -/
def misuseText (columns : Nat) (cause : Misuse) : Text :=
  Text.ofLines (usage columns ++ ["memsize: error: ".toList ++ cause.message])

/-- The run that ends without a request. -/
def Stop.outcome (columns : Nat) : Stop → Outcome
  | .help => .success (Text.ofLines (CommandLine.help columns))
  | .misuse cause => ⟨2, [], misuseText columns cause⟩

end SizeFlags.CommandLine
