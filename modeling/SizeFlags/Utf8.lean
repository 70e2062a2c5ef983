import SizeFlags.Text.Decimal
import SizeFlags.Text.Quoted

set_option autoImplicit false

/-!
# UTF-8

Characters to bytes and back.  Reading is strict: it takes the shortest form
of each scalar value and nothing else, and a fault says which bytes are bad and
why.  The reader goes byte by byte and keeps the character it is inside of; a
byte that cannot go on is reported with the bytes that led to it.
-/

namespace SizeFlags.Utf8

/-- The bytes of a file. -/
abbrev Bytes : Type := List UInt8

/-! ## Writing -/

/-- A byte that goes on a character: the six bits of `n` from bit `shift` on. -/
def trail (n shift : Nat) : UInt8 := UInt8.ofNat (0x80 + (n >>> shift) % 0x40)

/-- The bytes of one character. -/
def encodeChar (c : Char) : Bytes :=
  let n := c.toNat
  if n < 0x80 then [UInt8.ofNat n]
  else if n < 0x800 then [UInt8.ofNat (0xC0 + (n >>> 6)), trail n 0]
  else if n < 0x10000 then [UInt8.ofNat (0xE0 + (n >>> 12)), trail n 6, trail n 0]
  else [UInt8.ofNat (0xF0 + (n >>> 18)), trail n 12, trail n 6, trail n 0]

/-- The bytes of a text. -/
def encode (t : Text) : Bytes := t.flatMap encodeChar

/-! ## Faults -/

/-- Why bytes are not the form of a character. -/
inductive Reason where
  /-- no character starts with this byte -/
  | invalidStart
  /-- the character does not go on with the byte that follows -/
  | invalidContinuation
  /-- the bytes end inside the character -/
  | unexpectedEnd
  deriving DecidableEq, Repr, Inhabited

/-- The wording of a reason. -/
def Reason.message : Reason → Text
  | .invalidStart => "invalid start byte".toList
  | .invalidContinuation => "invalid continuation byte".toList
  | .unexpectedEnd => "unexpected end of data".toList

/-- The first bad bytes: their offsets, both included, and the first of them. -/
structure Fault where
  reason : Reason
  first : Nat
  last : Nat
  byte : UInt8
  deriving DecidableEq, Repr, Inhabited

/-- The wording of a fault: one bad byte is named, of several the offsets. -/
def Fault.message (fault : Fault) : Text :=
  let place :=
    if fault.first = fault.last then
      "byte 0x".toList ++ Text.hexDigits 2 fault.byte.toNat ++ " in position ".toList
        ++ Text.ofNat fault.first
    else
      "bytes in position ".toList ++ Text.ofNat fault.first ++ '-' :: Text.ofNat fault.last
  "'utf-8' codec can't decode ".toList ++ place ++ ": ".toList ++ fault.reason.message

/-! ## Reading -/

/-- A character whose first bytes have been read. -/
structure Pending where
  /-- the offset of its first byte -/
  start : Nat
  /-- its first byte -/
  lead : UInt8
  /-- how many bytes are missing, less one -/
  more : Nat
  /-- the least byte that may come next -/
  low : Nat
  /-- the greatest byte that may come next -/
  high : Nat
  /-- the bits read so far -/
  bits : Nat
  deriving DecidableEq, Repr, Inhabited

/-- What a byte starts: a whole character, a longer one, or nothing. -/
inductive Start where
  | whole (c : Char)
  | longer (pending : Pending)
  | invalid
  deriving DecidableEq, Repr, Inhabited

/-- Read the first byte of a character at an offset.  The range of the second
byte leaves out longer forms than needed, surrogates and values past U+10FFFF. -/
def start (offset : Nat) (byte : UInt8) : Start :=
  let b := byte.toNat
  if b < 0x80 then .whole (Char.ofNat b)
  else if b < 0xC2 then .invalid
  else if b < 0xE0 then .longer ⟨offset, byte, 0, 0x80, 0xBF, b - 0xC0⟩
  else if b < 0xF0 then
    .longer ⟨offset, byte, 1, if b = 0xE0 then 0xA0 else 0x80,
      if b = 0xED then 0x9F else 0xBF, b - 0xE0⟩
  else if b < 0xF5 then
    .longer ⟨offset, byte, 2, if b = 0xF0 then 0x90 else 0x80,
      if b = 0xF4 then 0x8F else 0xBF, b - 0xF0⟩
  else .invalid

/-- Read bytes from an offset on, inside of a character or between two. -/
def decodeFrom (offset : Nat) : Option Pending → Bytes → Except Fault Text
  | none, [] => .ok []
  | some p, [] => .error ⟨.unexpectedEnd, p.start, offset - 1, p.lead⟩
  | none, byte :: rest =>
    match start offset byte with
    | .whole c => (decodeFrom (offset + 1) none rest).map (c :: ·)
    | .longer p => decodeFrom (offset + 1) (some p) rest
    | .invalid => .error ⟨.invalidStart, offset, offset, byte⟩
  | some p, byte :: rest =>
    if p.low ≤ byte.toNat ∧ byte.toNat ≤ p.high then
      let bits := p.bits * 0x40 + (byte.toNat - 0x80)
      match p.more with
      | 0 => (decodeFrom (offset + 1) none rest).map (Char.ofNat bits :: ·)
      | more + 1 =>
        decodeFrom (offset + 1)
          (some { p with more := more, low := 0x80, high := 0xBF, bits := bits }) rest
    else .error ⟨.invalidContinuation, p.start, offset - 1, p.lead⟩

/-- The text that bytes are the form of, or the first fault. -/
def decode (bytes : Bytes) : Except Fault Text := decodeFrom 0 none bytes

example : (decode (encode "é€😀".toList)).toOption = some "é€😀".toList := by decide

end SizeFlags.Utf8
