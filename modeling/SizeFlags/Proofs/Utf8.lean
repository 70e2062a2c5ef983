import Mathlib.Tactic.SplitIfs
import SizeFlags.Proofs.Results
import SizeFlags.Utf8

set_option autoImplicit false

/-!
# Reading back what is written in UTF-8

Main statement: bytes are read as a text exactly if they are the bytes of that
text.  The proof follows the four lengths of a character, in both directions.
Each length has its own test on the first byte; all later bytes go through the
two equations for a character that is begun.
-/

namespace SizeFlags.Utf8

theorem toNat_trail (n shift : Nat) : (trail n shift).toNat = 0x80 + (n >>> shift) % 0x40 := by
  rw [trail, UInt8.toNat_ofNat']
  omega

/-! ## One byte -/

section

variable {offset : Nat} {byte : UInt8} {rest : Bytes} {p : Pending}

theorem decodeFrom_whole {c : Char} (h : start offset byte = .whole c) :
    decodeFrom offset none (byte :: rest) = (decodeFrom (offset + 1) none rest).map (c :: ·) := by
  rw [decodeFrom, h]

theorem decodeFrom_longer (h : start offset byte = .longer p) :
    decodeFrom offset none (byte :: rest) = decodeFrom (offset + 1) (some p) rest := by
  rw [decodeFrom, h]

/-- The last byte of a character completes its number. -/
theorem decodeFrom_last {n : Nat} (hlow : p.low ≤ byte.toNat) (hhigh : byte.toNat ≤ p.high)
    (hmore : p.more = 0) (hbits : p.bits * 0x40 + (byte.toNat - 0x80) = n) :
    decodeFrom offset (some p) (byte :: rest) =
      (decodeFrom (offset + 1) none rest).map (Char.ofNat n :: ·) := by
  rw [decodeFrom, if_pos ⟨hlow, hhigh⟩]
  simp only [hmore, hbits]

/-- Any other byte of a character adds six bits, and leaves one byte less to come. -/
theorem decodeFrom_more {more n : Nat} (hlow : p.low ≤ byte.toNat) (hhigh : byte.toNat ≤ p.high)
    (hmore : p.more = more + 1) (hbits : p.bits * 0x40 + (byte.toNat - 0x80) = n) :
    decodeFrom offset (some p) (byte :: rest) =
      decodeFrom (offset + 1) (some ⟨p.start, p.lead, more, 0x80, 0xBF, n⟩) rest := by
  rw [decodeFrom, if_pos ⟨hlow, hhigh⟩]
  simp only [hmore, hbits]

end

/-! ## The first byte -/

section

variable {offset : Nat} {lead : UInt8}

theorem start_of_two (hlow : 0xC2 ≤ lead.toNat) (hhigh : lead.toNat < 0xE0) :
    start offset lead = .longer ⟨offset, lead, 0, 0x80, 0xBF, lead.toNat - 0xC0⟩ := by
  rw [start]
  rw [if_neg (by omega), if_neg (by omega), if_pos hhigh]

theorem start_of_three (hlow : 0xE0 ≤ lead.toNat) (hhigh : lead.toNat < 0xF0) :
    start offset lead =
      .longer ⟨offset, lead, 1, if lead.toNat = 0xE0 then 0xA0 else 0x80,
        if lead.toNat = 0xED then 0x9F else 0xBF, lead.toNat - 0xE0⟩ := by
  rw [start]
  rw [if_neg (by omega), if_neg (by omega), if_neg (by omega), if_pos hhigh]

theorem start_of_four (hlow : 0xF0 ≤ lead.toNat) (hhigh : lead.toNat < 0xF5) :
    start offset lead =
      .longer ⟨offset, lead, 2, if lead.toNat = 0xF0 then 0x90 else 0x80,
        if lead.toNat = 0xF4 then 0x8F else 0xBF, lead.toNat - 0xF0⟩ := by
  rw [start]
  rw [if_neg (by omega), if_neg (by omega), if_neg (by omega), if_neg (by omega), if_pos hhigh]

end

/-! ## One character -/

section

variable {n : Nat} (offset : Nat) (rest : Bytes)

theorem toNat_ofNat_of_lt (h : n < 0x100) : (UInt8.ofNat n).toNat = n := by
  rw [UInt8.toNat_ofNat']
  omega

theorem decodeFrom_two (hlow : 0x80 ≤ n) (hhigh : n < 0x800) :
    decodeFrom offset none (UInt8.ofNat (0xC0 + (n >>> 6)) :: trail n 0 :: rest) =
      (decodeFrom (offset + 2) none rest).map (Char.ofNat n :: ·) := by
  have hlead : (UInt8.ofNat (0xC0 + (n >>> 6))).toNat = 0xC0 + (n >>> 6) :=
    toNat_ofNat_of_lt (by omega)
  have hlast : (trail n 0).toNat = 0x80 + (n >>> 0) % 0x40 := toNat_trail n 0
  rw [decodeFrom_longer (start_of_two (by omega) (by omega))]
  refine decodeFrom_last ?_ ?_ rfl ?_
  · show 0x80 ≤ (trail n 0).toNat
    omega
  · show (trail n 0).toNat ≤ 0xBF
    omega
  · show ((UInt8.ofNat (0xC0 + (n >>> 6))).toNat - 0xC0) * 0x40 + ((trail n 0).toNat - 0x80) = n
    omega

theorem decodeFrom_three (hlow : 0x800 ≤ n) (hhigh : n < 0x10000)
    (hvalid : n < 0xD800 ∨ 0xDFFF < n) :
    decodeFrom offset none
        (UInt8.ofNat (0xE0 + (n >>> 12)) :: trail n 6 :: trail n 0 :: rest) =
      (decodeFrom (offset + 3) none rest).map (Char.ofNat n :: ·) := by
  have hlead : (UInt8.ofNat (0xE0 + (n >>> 12))).toNat = 0xE0 + (n >>> 12) :=
    toNat_ofNat_of_lt (by omega)
  have hsecond : (trail n 6).toNat = 0x80 + (n >>> 6) % 0x40 := toNat_trail n 6
  have hlast : (trail n 0).toNat = 0x80 + (n >>> 0) % 0x40 := toNat_trail n 0
  rw [decodeFrom_longer (start_of_three (by omega) (by omega)), hlead,
    decodeFrom_more ?_ ?_ rfl rfl]
  · refine decodeFrom_last ?_ ?_ rfl ?_
    · show 0x80 ≤ (trail n 0).toNat
      omega
    · show (trail n 0).toNat ≤ 0xBF
      omega
    · show ((0xE0 + (n >>> 12) - 0xE0) * 0x40 + ((trail n 6).toNat - 0x80)) * 0x40
          + ((trail n 0).toNat - 0x80) = n
      omega
  · show (if 0xE0 + (n >>> 12) = 0xE0 then 0xA0 else 0x80) ≤ (trail n 6).toNat
    split <;> omega
  · show (trail n 6).toNat ≤ if 0xE0 + (n >>> 12) = 0xED then 0x9F else 0xBF
    split <;> omega

theorem decodeFrom_four (hlow : 0x10000 ≤ n) (hhigh : n < 0x110000) :
    decodeFrom offset none
        (UInt8.ofNat (0xF0 + (n >>> 18)) :: trail n 12 :: trail n 6 :: trail n 0 :: rest) =
      (decodeFrom (offset + 4) none rest).map (Char.ofNat n :: ·) := by
  have hlead : (UInt8.ofNat (0xF0 + (n >>> 18))).toNat = 0xF0 + (n >>> 18) :=
    toNat_ofNat_of_lt (by omega)
  have hsecond : (trail n 12).toNat = 0x80 + (n >>> 12) % 0x40 := toNat_trail n 12
  have hthird : (trail n 6).toNat = 0x80 + (n >>> 6) % 0x40 := toNat_trail n 6
  have hlast : (trail n 0).toNat = 0x80 + (n >>> 0) % 0x40 := toNat_trail n 0
  rw [decodeFrom_longer (start_of_four (by omega) (by omega)), hlead,
    decodeFrom_more ?_ ?_ rfl rfl, decodeFrom_more ?_ ?_ rfl rfl]
  · refine decodeFrom_last ?_ ?_ rfl ?_
    · show 0x80 ≤ (trail n 0).toNat
      omega
    · show (trail n 0).toNat ≤ 0xBF
      omega
    · show (((0xF0 + (n >>> 18) - 0xF0) * 0x40 + ((trail n 12).toNat - 0x80)) * 0x40
          + ((trail n 6).toNat - 0x80)) * 0x40 + ((trail n 0).toNat - 0x80) = n
      omega
  · show 0x80 ≤ (trail n 6).toNat
    omega
  · show (trail n 6).toNat ≤ 0xBF
    omega
  · show (if 0xF0 + (n >>> 18) = 0xF0 then 0x90 else 0x80) ≤ (trail n 12).toNat
    split <;> omega
  · show (trail n 12).toNat ≤ if 0xF0 + (n >>> 18) = 0xF4 then 0x8F else 0xBF
    split <;> omega

end

/-- The bytes of a character are read as the character. -/
theorem decodeFrom_encodeChar (offset : Nat) (c : Char) (rest : Bytes) :
    decodeFrom offset none (encodeChar c ++ rest) =
      (decodeFrom (offset + (encodeChar c).length) none rest).map (c :: ·) := by
  have hc : Char.ofNat c.toNat = c := Char.ofNat_toNat c
  have hvalid : c.toNat < 0xD800 ∨ 0xDFFF < c.toNat ∧ c.toNat < 0x110000 := c.valid
  rw [encodeChar]
  generalize c.toNat = n at hc hvalid
  subst hc
  split_ifs with hone htwo hthree
  · have hlead : (UInt8.ofNat n).toNat = n := toNat_ofNat_of_lt (by omega)
    refine decodeFrom_whole ?_
    rw [start]
    simp only [hlead, if_pos hone]
  · exact decodeFrom_two offset rest (by omega) htwo
  · exact decodeFrom_three offset rest (by omega) hthree (by omega)
  · exact decodeFrom_four offset rest (by omega) (by omega)

/-! ## Texts -/

theorem decodeFrom_encode (offset : Nat) (t : Text) :
    decodeFrom offset none (encode t) = .ok t := by
  induction t generalizing offset with
  | nil => rfl
  | cons c t ih =>
    have hsplit : encode (c :: t) = encodeChar c ++ encode t := rfl
    rw [hsplit, decodeFrom_encodeChar, ih]
    rfl

/-- The bytes of a text are read as the text. -/
theorem decode_encode (t : Text) : decode (encode t) = .ok t := decodeFrom_encode 0 t

/-! ## Bytes that are read

The range of the second byte is what keeps a character from being read out of
more bytes than it is written in, and surrogates from being read at all.
-/

section

variable {offset first more low high bits : Nat} {lead : UInt8} {bytes : Bytes} {t : Text}

/-- Inside of a character there is a next byte, and it is in its range. -/
theorem exists_next_of_decodeFrom
    (h : decodeFrom offset (some ⟨first, lead, more, low, high, bits⟩) bytes = .ok t) :
    ∃ byte rest, bytes = byte :: rest ∧ low ≤ byte.toNat ∧ byte.toNat ≤ high := by
  cases bytes with
  | nil => cases h
  | cons byte rest =>
    rw [decodeFrom] at h
    split at h
    · rename_i hrange
      exact ⟨byte, rest, rfl, hrange⟩
    · cases h

theorem exists_last_of_decodeFrom
    (h : decodeFrom offset (some ⟨first, lead, 0, low, high, bits⟩) bytes = .ok t) :
    ∃ byte rest u, bytes = byte :: rest ∧ low ≤ byte.toNat ∧ byte.toNat ≤ high ∧
      t = Char.ofNat (bits * 0x40 + (byte.toNat - 0x80)) :: u ∧
      decodeFrom (offset + 1) none rest = .ok u := by
  obtain ⟨byte, rest, rfl, hlow, hhigh⟩ := exists_next_of_decodeFrom h
  rw [decodeFrom_last hlow hhigh rfl rfl] at h
  obtain ⟨u, hu, ht⟩ := map_eq_ok_iff.mp h
  exact ⟨byte, rest, u, rfl, hlow, hhigh, ht.symm, hu⟩

theorem exists_more_of_decodeFrom
    (h : decodeFrom offset (some ⟨first, lead, more + 1, low, high, bits⟩) bytes = .ok t) :
    ∃ byte rest, bytes = byte :: rest ∧ low ≤ byte.toNat ∧ byte.toNat ≤ high ∧
      decodeFrom (offset + 1)
        (some ⟨first, lead, more, 0x80, 0xBF, bits * 0x40 + (byte.toNat - 0x80)⟩) rest = .ok t := by
  obtain ⟨byte, rest, rfl, hlow, hhigh⟩ := exists_next_of_decodeFrom h
  rw [decodeFrom_more hlow hhigh rfl rfl] at h
  exact ⟨byte, rest, rfl, hlow, hhigh, h⟩

end

theorem encodeChar_ofNat {n : Nat} (hvalid : n.isValidChar) :
    encodeChar (Char.ofNat n) =
      if n < 0x80 then [UInt8.ofNat n]
      else if n < 0x800 then [UInt8.ofNat (0xC0 + (n >>> 6)), trail n 0]
      else if n < 0x10000 then [UInt8.ofNat (0xE0 + (n >>> 12)), trail n 6, trail n 0]
      else [UInt8.ofNat (0xF0 + (n >>> 18)), trail n 12, trail n 6, trail n 0] := by
  have hn : (Char.ofNat n).toNat = n := by
    rw [Char.ofNat, dif_pos hvalid]
    rfl
  simp only [encodeChar, hn]

theorem eq_ofNat {byte : UInt8} {n : Nat} (h : byte.toNat = n) : byte = UInt8.ofNat n := by
  rw [← h, UInt8.ofNat_toNat]

section

variable {n : Nat} {lead second third last : UInt8}

theorem encodeChar_eq_two (hlow : 0x80 ≤ n) (hhigh : n < 0x800)
    (hlead : lead.toNat = 0xC0 + (n >>> 6)) (hlast : last.toNat = 0x80 + n % 0x40) :
    encodeChar (Char.ofNat n) = [lead, last] := by
  rw [encodeChar_ofNat (Or.inl (by omega)), if_neg (by omega), if_pos hhigh,
    eq_ofNat hlead, eq_ofNat hlast]
  rfl

theorem encodeChar_eq_three (hlow : 0x800 ≤ n) (hhigh : n < 0x10000)
    (hvalid : n < 0xD800 ∨ 0xDFFF < n) (hlead : lead.toNat = 0xE0 + (n >>> 12))
    (hsecond : second.toNat = 0x80 + (n >>> 6) % 0x40) (hlast : last.toNat = 0x80 + n % 0x40) :
    encodeChar (Char.ofNat n) = [lead, second, last] := by
  have hchar : n.isValidChar := hvalid.imp_right fun h => ⟨h, by omega⟩
  rw [encodeChar_ofNat hchar, if_neg (by omega), if_neg (by omega), if_pos hhigh,
    eq_ofNat hlead, eq_ofNat hsecond, eq_ofNat hlast]
  rfl

theorem encodeChar_eq_four (hlow : 0x10000 ≤ n) (hhigh : n < 0x110000)
    (hlead : lead.toNat = 0xF0 + (n >>> 18)) (hsecond : second.toNat = 0x80 + (n >>> 12) % 0x40)
    (hthird : third.toNat = 0x80 + (n >>> 6) % 0x40) (hlast : last.toNat = 0x80 + n % 0x40) :
    encodeChar (Char.ofNat n) = [lead, second, third, last] := by
  rw [encodeChar_ofNat (Or.inr ⟨by omega, hhigh⟩), if_neg (by omega), if_neg (by omega),
    if_neg (by omega), eq_ofNat hlead, eq_ofNat hsecond, eq_ofNat hthird, eq_ofNat hlast]
  rfl

end

/-- Bytes are those of the first character of a text, and others that are read as the rest
of the text. -/
def StartsWith (bytes : Bytes) (t : Text) : Prop :=
  ∃ c behind u later, bytes = encodeChar c ++ behind ∧ t = c :: u ∧
    decodeFrom later none behind = .ok u

section

variable {offset : Nat} {lead : UInt8} {rest : Bytes} {t : Text}

theorem startsWith_of_two (hlow : 0xC2 ≤ lead.toNat) (hhigh : lead.toNat < 0xE0)
    (h : decodeFrom offset none (lead :: rest) = .ok t) : StartsWith (lead :: rest) t := by
  rw [decodeFrom_longer (start_of_two hlow hhigh)] at h
  obtain ⟨last, behind, u, rfl, hlast, hlast', rfl, hu⟩ := exists_last_of_decodeFrom h
  have hchar : encodeChar (Char.ofNat ((lead.toNat - 0xC0) * 0x40 + (last.toNat - 0x80))) =
      [lead, last] := by
    apply encodeChar_eq_two <;> omega
  exact ⟨_, behind, u, _, by rw [hchar]; rfl, rfl, hu⟩

theorem startsWith_of_three (hlow : 0xE0 ≤ lead.toNat) (hhigh : lead.toNat < 0xF0)
    (h : decodeFrom offset none (lead :: rest) = .ok t) : StartsWith (lead :: rest) t := by
  rw [decodeFrom_longer (start_of_three hlow hhigh)] at h
  obtain ⟨second, rest, rfl, hsecond, hsecond', h⟩ := exists_more_of_decodeFrom h
  obtain ⟨last, behind, u, rfl, hlast, hlast', rfl, hu⟩ := exists_last_of_decodeFrom h
  have hchar : encodeChar (Char.ofNat
      (((lead.toNat - 0xE0) * 0x40 + (second.toNat - 0x80)) * 0x40 + (last.toNat - 0x80))) =
        [lead, second, last] := by
    apply encodeChar_eq_three
    all_goals split at hsecond <;> split at hsecond' <;> omega
  exact ⟨_, behind, u, _, by rw [hchar]; rfl, rfl, hu⟩

theorem startsWith_of_four (hlow : 0xF0 ≤ lead.toNat) (hhigh : lead.toNat < 0xF5)
    (h : decodeFrom offset none (lead :: rest) = .ok t) : StartsWith (lead :: rest) t := by
  rw [decodeFrom_longer (start_of_four hlow hhigh)] at h
  obtain ⟨second, rest, rfl, hsecond, hsecond', h⟩ := exists_more_of_decodeFrom h
  obtain ⟨third, rest, rfl, hthird, hthird', h⟩ := exists_more_of_decodeFrom h
  obtain ⟨last, behind, u, rfl, hlast, hlast', rfl, hu⟩ := exists_last_of_decodeFrom h
  have hchar : encodeChar (Char.ofNat
      ((((lead.toNat - 0xF0) * 0x40 + (second.toNat - 0x80)) * 0x40 + (third.toNat - 0x80)) * 0x40
        + (last.toNat - 0x80))) = [lead, second, third, last] := by
    apply encodeChar_eq_four
    all_goals split at hsecond <;> split at hsecond' <;> omega
  exact ⟨_, behind, u, _, by rw [hchar]; rfl, rfl, hu⟩

/-- What is read starts with the bytes of its first character.  How many there are, the first
byte says. -/
theorem startsWith_of_decodeFrom (h : decodeFrom offset none (lead :: rest) = .ok t) :
    StartsWith (lead :: rest) t := by
  rcases Nat.lt_or_ge lead.toNat 0x80 with hone | hone
  · have hstart : start offset lead = .whole (Char.ofNat lead.toNat) := if_pos hone
    rw [decodeFrom_whole hstart] at h
    obtain ⟨u, hu, rfl⟩ := map_eq_ok_iff.mp h
    have hchar : encodeChar (Char.ofNat lead.toNat) = [lead] := by
      rw [encodeChar_ofNat (Or.inl (by omega)), if_pos hone, UInt8.ofNat_toNat]
    exact ⟨_, rest, u, _, by rw [hchar]; rfl, rfl, hu⟩
  have hinvalid : start offset lead ≠ .invalid := by
    intro hstart
    rw [decodeFrom, hstart] at h
    cases h
  rcases Nat.lt_or_ge lead.toNat 0xC2 with hlow | hlow
  · refine absurd ?_ hinvalid
    rw [start]
    rw [if_neg (Nat.not_lt.mpr hone), if_pos hlow]
  rcases Nat.lt_or_ge lead.toNat 0xE0 with htwo | hthree
  · exact startsWith_of_two hlow htwo h
  rcases Nat.lt_or_ge lead.toNat 0xF0 with hthree' | hfour
  · exact startsWith_of_three hthree hthree' h
  rcases Nat.lt_or_ge lead.toNat 0xF5 with hfour' | hhigh
  · exact startsWith_of_four hfour hfour' h
  · refine absurd ?_ hinvalid
    rw [start]
    rw [if_neg (Nat.not_lt.mpr hone), if_neg (Nat.not_lt.mpr hlow), if_neg (Nat.not_lt.mpr hthree),
      if_neg (Nat.not_lt.mpr hfour), if_neg (Nat.not_lt.mpr hhigh)]

end

theorem eq_encode_of_decodeFrom {offset : Nat} {bytes : Bytes} {t : Text}
    (h : decodeFrom offset none bytes = .ok t) : bytes = encode t := by
  induction t generalizing offset bytes with
  | nil =>
    cases bytes with
    | nil => rfl
    | cons lead rest =>
      obtain ⟨_, _, _, _, _, hnil, _⟩ := startsWith_of_decodeFrom h
      cases hnil
  | cons c t ih =>
    cases bytes with
    | nil => cases h
    | cons lead rest =>
      obtain ⟨_, behind, _, _, hbytes, ht, hbehind⟩ := startsWith_of_decodeFrom h
      obtain ⟨rfl, rfl⟩ := List.cons.inj ht
      rw [hbytes, ih hbehind]
      rfl

/-- Exactly the bytes of a text are read as it: each text has one form. -/
theorem decode_eq_ok_iff {bytes : Bytes} {t : Text} : decode bytes = .ok t ↔ bytes = encode t := by
  constructor
  · exact eq_encode_of_decodeFrom
  · rintro rfl
    exact decode_encode t

theorem exists_decode_eq_error_iff {bytes : Bytes} :
    (∃ cause, decode bytes = .error cause) ↔ ∀ t, bytes ≠ encode t := by
  simp only [ne_eq, ← decode_eq_ok_iff]
  cases decode bytes <;> simp

end SizeFlags.Utf8
