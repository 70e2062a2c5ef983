import SizeFlags.Text.Basic

set_option autoImplicit false

/-!
# Filled lines

Running text is cut into pieces between which a line may end, and lines are
filled with pieces from the left.  A line ends where the next piece would not
fit; a piece that is wider than a line stands alone.
-/

namespace SizeFlags.Text

/-- A piece of running text; a space goes before it unless it starts a line. -/
structure Chunk where
  spaced : Bool
  text : Text
  deriving DecidableEq, Repr, Inhabited

namespace Chunk

/-- Put a piece behind what a line already holds. -/
def after (line : Text) (chunk : Chunk) : Text :=
  if chunk.spaced then line ++ ' ' :: chunk.text else line ++ chunk.text

/-- A piece that is a word of its own. -/
def word (t : Text) : Chunk := ⟨true, t⟩

end Chunk

/-- Cut a word behind each hyphen that stands between two letters. -/
def cutAtHyphens : Text → List Text
  | [] => []
  | c :: '-' :: d :: rest =>
    if c.isAlpha && d.isAlpha then [c, '-'] :: cutAtHyphens (d :: rest)
    else extendFirst c (cutAtHyphens ('-' :: d :: rest))
  | c :: rest => extendFirst c (cutAtHyphens rest)

/-- The pieces of a word. -/
def chunksOfWord (word : Text) : List Chunk :=
  match cutAtHyphens word with
  | [] => []
  | first :: rest => ⟨true, first⟩ :: rest.map fun t => ⟨false, t⟩

/-- The pieces of a running text, whose words are separated by single spaces. -/
def chunks (t : Text) : List Chunk := (splitAt ' ' t).flatMap chunksOfWord

/-- Fill lines of a width, the first of which already holds something. -/
def fillFrom (width : Int) (line : Text) : List Chunk → List Text
  | [] => [line]
  | chunk :: rest =>
    let longer := chunk.after line
    if longer.length ≤ width then fillFrom width longer rest
    else line :: fillFrom width chunk.text rest

/-- Fill lines of a width with pieces. -/
def fill (width : Int) : List Chunk → List Text
  | [] => []
  | chunk :: rest => fillFrom width chunk.text rest

/-- A text behind a number of spaces. -/
def indent (spaces : Nat) (t : Text) : Text := List.replicate spaces ' ' ++ t

example : fill 9 (chunks "a memory-size flag".toList)
    = ["a memory-".toList, "size flag".toList] := by decide

end SizeFlags.Text
