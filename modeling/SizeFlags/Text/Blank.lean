import SizeFlags.Text.CodeRange

set_option autoImplicit false

/-!
# Blank characters

Two classes of blanks are in use.  File lines, keys, values and type names are
stripped of every Unicode white space and of the four ASCII separators
U+001C to U+001F.  Number readers know the six ASCII blanks only.
-/

namespace SizeFlags.Text

/-- The characters that stripping removes. -/
def blankRanges : List CodeRange :=
  [⟨0x09, 0x0D⟩, ⟨0x1C, 0x20⟩, ⟨0x85, 0x85⟩, ⟨0xA0, 0xA0⟩, ⟨0x1680, 0x1680⟩,
   ⟨0x2000, 0x200A⟩, ⟨0x2028, 0x2029⟩, ⟨0x202F, 0x202F⟩, ⟨0x205F, 0x205F⟩,
   ⟨0x3000, 0x3000⟩]

/-- White space, in the sense of stripping. -/
def isBlank (c : Char) : Bool := CodeRange.anyHolds blankRanges c

/-- The six blanks that number readers skip. -/
def isAsciiBlank (c : Char) : Bool :=
  c = ' ' || c = '\t' || c = '\n' || c = '\x0b' || c = '\x0c' || c = '\r'

/-- Without the blanks at both ends. -/
def strip (t : Text) : Text := trim isBlank t

end SizeFlags.Text
