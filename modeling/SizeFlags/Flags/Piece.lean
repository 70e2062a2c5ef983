import SizeFlags.Text.Basic

set_option autoImplicit false

/-!
# References to variables

A value may refer to variables, `$NAME` or with the name in braces.  It is cut
into pieces once, from left to right, before any variable is looked up; so what
a variable holds is put in as it is and never read for references again.
-/

namespace SizeFlags.Flags

/-- A piece of a value. -/
inductive Piece where
  /-- a character that stands for itself -/
  | char (c : Char)
  /-- a reference without braces -/
  | plain (name : Text)
  /-- a reference with braces -/
  | braced (name : Text)
  deriving DecidableEq, Repr, Inhabited

namespace Piece

/-- The brace before a name, U+007B. -/
def openingBrace : Char := '\x7b'

/-- The brace behind a name, U+007D. -/
def closingBrace : Char := '\x7d'

/-- How a piece is written. -/
def toText : Piece → Text
  | char c => [c]
  | plain name => '$' :: name
  | braced name => '$' :: openingBrace :: name ++ [closingBrace]

/-- The variable that a piece refers to. -/
def name? : Piece → Option Text
  | char _ => none
  | plain name | braced name => some name

/-- What a piece stands for: a reference to a variable that is not set stays as
it is written. -/
def expand (valueOf? : Text → Option Text) (piece : Piece) : Text :=
  (piece.name?.bind valueOf?).getD piece.toText

/-- The characters of a name without braces. -/
def isNameChar (c : Char) : Bool := c.isAlphanum || c = '_'

/-- The reference that follows a dollar sign. -/
def afterDollar? : Text → Option Piece
  | [] => none
  | c :: rest =>
    if c = openingBrace then (Text.cutAt? closingBrace rest).map fun parts => braced parts.1
    else
      let name := (c :: rest).takeWhile isNameChar
      if name = [] then none else some (plain name)

/-- The piece at the start of a text. -/
def first (c : Char) (rest : Text) : Piece :=
  if c = '$' then (afterDollar? rest).getD (char c) else char c

/-- The pieces of a text behind a number of characters that are already read. -/
def ofTextFrom : (behind : Nat) → Text → List Piece
  | _, [] => []
  | behind + 1, _ :: rest => ofTextFrom behind rest
  | 0, c :: rest =>
    let piece := first c rest
    piece :: ofTextFrom (piece.toText.length - 1) rest

/-- The pieces of a text. -/
def ofText (t : Text) : List Piece := ofTextFrom 0 t

theorem ofTextFrom_eq_drop (behind : Nat) (t : Text) :
    ofTextFrom behind t = ofText (t.drop behind) := by
  induction behind generalizing t with
  | zero => simp [ofText]
  | succ behind ih =>
    cases t with
    | nil => simp [ofText, ofTextFrom]
    | cons c rest => simpa [ofTextFrom] using ih rest

end Piece

/-- A value with the variables that it refers to put in. -/
def expand (valueOf? : Text → Option Text) (value : Text) : Text :=
  (Piece.ofText value).flatMap (Piece.expand valueOf?)

example : expand (fun name => if name = "A".toList then some "$B".toList else none)
    "$A-$B".toList = "$B-$B".toList := by decide

end SizeFlags.Flags
