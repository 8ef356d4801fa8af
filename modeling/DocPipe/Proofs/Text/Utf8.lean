import DocPipe.Text.Utf8

/-!
# Text survives its bytes

The bytes of a text decode to the text again.  This is what lets one process hand its output over to
the next: `decodeUtf8` refuses some rows of bytes, but never those that a text was written as.

## One character at a time

The decoder looks at a lead byte, learns from it how many bytes follow, and checks each of them
against a range.  The range behind four of the lead bytes is narrower, which keeps out forms that
are too long, surrogates, and what lies beyond the last code point.  So the only place where it
matters that a `Char` is no surrogate is the second byte of three.
-/

namespace DocPipe
namespace Text

/-! ## The bytes of one character -/

/-- A byte in range adds its six bits. -/
theorem followingBytes_cons {seen bits : Nat} {range : Nat × Nat} {b : UInt8}
    (h : range.1 ≤ b.toNat ∧ b.toNat ≤ range.2) (n : Nat) (bytes : List UInt8) :
    followingBytes seen bits range (n + 1) (b :: bytes) =
      followingBytes (seen + 1) (64 * bits + b.toNat % 64) (0x80, 0xBF) n bytes :=
  if_pos h

/-- A byte behind the second one, as it is written, is in range. -/
theorem followingBytes_written (seen bits v n : Nat) (bytes : List UInt8) :
    followingBytes seen bits (0x80, 0xBF) (n + 1) (UInt8.ofNat (v % 0x40 + 0x80) :: bytes) =
      followingBytes (seen + 1) (64 * bits + v % 64) (0x80, 0xBF) n bytes := by
  have hbyte : (UInt8.ofNat (v % 0x40 + 0x80)).toNat = v % 64 + 128 := by
    rw [UInt8.toNat_ofNat']
    omega
  have hrange : (0x80, 0xBF).1 ≤ (UInt8.ofNat (v % 0x40 + 0x80)).toNat ∧
      (UInt8.ofNat (v % 0x40 + 0x80)).toNat ≤ (0x80, 0xBF).2 := by
    rw [hbyte]
    show 128 ≤ v % 64 + 128 ∧ v % 64 + 128 ≤ 191
    omega
  rw [followingBytes_cons hrange, hbyte]
  congr 2
  omega

/-- What the decoder makes of a lead byte, in terms of the number that the byte is. -/
theorem charAt_of_leadByte? {lead : UInt8} {n bits : Nat}
    (h : leadByte? lead.toNat = some (n, bits)) (bytes : List UInt8) :
    charAt lead bytes =
      (followingBytes 1 bits (secondByteRange lead.toNat) n bytes).map (·, n) := by
  simp only [charAt, h]

/-- Below U+0080 a character is its own byte. -/
theorem charAt_one {v : Nat} (hv : v ≤ 0x7F) (bytes : List UInt8) :
    charAt (UInt8.ofNat v) bytes = .ok (v, 0) := by
  have hbyte : (UInt8.ofNat v).toNat = v := by
    rw [UInt8.toNat_ofNat']
    omega
  have hlead : leadByte? (UInt8.ofNat v).toNat = some (0, v) := by
    rw [hbyte]
    exact if_pos (by omega)
  rw [charAt_of_leadByte? hlead]
  rfl

/-- Two bytes. -/
theorem charAt_two {v : Nat} (hlow : 0x7F < v) (hv : v ≤ 0x7FF) (bytes : List UInt8) :
    charAt (UInt8.ofNat (v / 64 % 0x20 + 0xC0)) (UInt8.ofNat (v % 0x40 + 0x80) :: bytes) =
      .ok (v, 1) := by
  have hbyte : (UInt8.ofNat (v / 64 % 0x20 + 0xC0)).toNat = v / 64 + 0xC0 := by
    rw [UInt8.toNat_ofNat']
    omega
  have hlead : leadByte? (UInt8.ofNat (v / 64 % 0x20 + 0xC0)).toNat = some (1, v / 64) := by
    rw [hbyte, leadByte?, if_neg (by omega), if_pos (by omega), Nat.add_sub_cancel]
  have hrange : secondByteRange (UInt8.ofNat (v / 64 % 0x20 + 0xC0)).toNat = (0x80, 0xBF) := by
    rw [hbyte, secondByteRange, if_neg (by omega), if_neg (by omega), if_neg (by omega),
      if_neg (by omega)]
  rw [charAt_of_leadByte? hlead, hrange, followingBytes_written]
  show Except.ok (64 * (v / 64) + v % 64, 1) = _
  rw [Nat.div_add_mod]

/-- Three bytes.  The narrower ranges behind two of the lead bytes are those of the characters from
U+0800 and of those that are no surrogates. -/
theorem charAt_three {v : Nat} (hlow : 0x7FF < v) (hv : v ≤ 0xFFFF)
    (hsurrogate : v < 0xD800 ∨ 0xDFFF < v) (bytes : List UInt8) :
    charAt (UInt8.ofNat (v / 4096 % 0x10 + 0xE0))
        (UInt8.ofNat (v / 64 % 0x40 + 0x80) :: UInt8.ofNat (v % 0x40 + 0x80) :: bytes) =
      .ok (v, 2) := by
  have hbyte : (UInt8.ofNat (v / 4096 % 0x10 + 0xE0)).toNat = v / 4096 + 0xE0 := by
    rw [UInt8.toNat_ofNat']
    omega
  have hsecond : (UInt8.ofNat (v / 64 % 0x40 + 0x80)).toNat = v / 64 % 64 + 128 := by
    rw [UInt8.toNat_ofNat']
    omega
  have hlead : leadByte? (UInt8.ofNat (v / 4096 % 0x10 + 0xE0)).toNat = some (2, v / 4096) := by
    rw [hbyte, leadByte?, if_neg (by omega), if_neg (by omega), if_pos (by omega),
      Nat.add_sub_cancel]
  have hrange : (secondByteRange (v / 4096 + 0xE0)).1 ≤ v / 64 % 64 + 128 ∧
      v / 64 % 64 + 128 ≤ (secondByteRange (v / 4096 + 0xE0)).2 := by
    by_cases hfirst : v / 4096 + 0xE0 = 0xE0
    · rw [secondByteRange, if_pos hfirst]
      show 0xA0 ≤ _ ∧ _ ≤ 0xBF
      omega
    · by_cases hmiddle : v / 4096 + 0xE0 = 0xED
      · rw [secondByteRange, if_neg hfirst, if_pos hmiddle]
        show 0x80 ≤ _ ∧ _ ≤ 0x9F
        omega
      · rw [secondByteRange, if_neg hfirst, if_neg hmiddle, if_neg (by omega), if_neg (by omega)]
        show 0x80 ≤ _ ∧ _ ≤ 0xBF
        omega
  rw [charAt_of_leadByte? hlead, hbyte,
    followingBytes_cons (by rw [hsecond]; exact hrange), hsecond, followingBytes_written]
  show Except.ok (64 * (64 * (v / 4096) + (v / 64 % 64 + 128) % 64) + v % 64, 2) = _
  congr 2
  omega

/-- Four bytes.  The narrower ranges are those of the characters from U+10000 up to the last
one. -/
theorem charAt_four {v : Nat} (hlow : 0xFFFF < v) (hv : v < 0x110000) (bytes : List UInt8) :
    charAt (UInt8.ofNat (v / 262144 % 0x08 + 0xF0))
        (UInt8.ofNat (v / 4096 % 0x40 + 0x80) :: UInt8.ofNat (v / 64 % 0x40 + 0x80) ::
          UInt8.ofNat (v % 0x40 + 0x80) :: bytes) =
      .ok (v, 3) := by
  have hbyte : (UInt8.ofNat (v / 262144 % 0x08 + 0xF0)).toNat = v / 262144 + 0xF0 := by
    rw [UInt8.toNat_ofNat']
    omega
  have hsecond : (UInt8.ofNat (v / 4096 % 0x40 + 0x80)).toNat = v / 4096 % 64 + 128 := by
    rw [UInt8.toNat_ofNat']
    omega
  have hlead :
      leadByte? (UInt8.ofNat (v / 262144 % 0x08 + 0xF0)).toNat = some (3, v / 262144) := by
    rw [hbyte, leadByte?, if_neg (by omega), if_neg (by omega), if_neg (by omega),
      if_pos (by omega), Nat.add_sub_cancel]
  have hrange : (secondByteRange (v / 262144 + 0xF0)).1 ≤ v / 4096 % 64 + 128 ∧
      v / 4096 % 64 + 128 ≤ (secondByteRange (v / 262144 + 0xF0)).2 := by
    rw [secondByteRange, if_neg (by omega), if_neg (by omega)]
    by_cases hfirst : v / 262144 + 0xF0 = 0xF0
    · rw [if_pos hfirst]
      show 0x90 ≤ _ ∧ _ ≤ 0xBF
      omega
    · rw [if_neg hfirst]
      by_cases hlast : v / 262144 + 0xF0 = 0xF4
      · rw [if_pos hlast]
        show 0x80 ≤ _ ∧ _ ≤ 0x8F
        omega
      · rw [if_neg hlast]
        show 0x80 ≤ _ ∧ _ ≤ 0xBF
        omega
  rw [charAt_of_leadByte? hlead, hbyte,
    followingBytes_cons (by rw [hsecond]; exact hrange), hsecond, followingBytes_written,
    followingBytes_written]
  show Except.ok
    (64 * (64 * (64 * (v / 262144) + (v / 4096 % 64 + 128) % 64) + v / 64 % 64) + v % 64, 3) = _
  congr 2
  omega

/-- The bytes of a character, in front of any others, are read as that character. -/
theorem charAt_utf8EncodeChar (c : Char) (rest : List UInt8) :
    ∃ lead following, String.utf8EncodeChar c = lead :: following ∧
      charAt lead (following ++ rest) = .ok (c.toNat, following.length) := by
  have hvalid : c.toNat < 0xD800 ∨ 0xDFFF < c.toNat ∧ c.toNat < 0x110000 := c.valid
  rw [String.utf8EncodeChar]
  by_cases h1 : c.toNat ≤ 0x7F
  · exact ⟨_, _, if_pos h1, charAt_one h1 _⟩
  by_cases h2 : c.toNat ≤ 0x7FF
  · exact ⟨_, _, (if_neg h1).trans (if_pos h2), charAt_two (v := c.toNat) (by omega) h2 _⟩
  by_cases h3 : c.toNat ≤ 0xFFFF
  · exact ⟨_, _, ((if_neg h1).trans (if_neg h2)).trans (if_pos h3),
      charAt_three (v := c.toNat) (by omega) h3 (by omega) _⟩
  · exact ⟨_, _, ((if_neg h1).trans (if_neg h2)).trans (if_neg h3),
      charAt_four (v := c.toNat) (by omega) (by omega) _⟩

/-! ## The bytes of a text -/

/-- The bytes of characters are read as these characters, behind those read before. -/
theorem decodeFrom_flatMap (cs : List Char) (index : Nat) (text : List Char) :
    decodeFrom index text (cs.flatMap String.utf8EncodeChar) = .ok (text.reverse ++ cs) := by
  induction cs generalizing index text with
  | nil =>
    rw [List.flatMap_nil, decodeFrom, List.append_nil]
  | cons c cs ih =>
    obtain ⟨lead, following, hbytes, hchar⟩ :=
      charAt_utf8EncodeChar c (cs.flatMap String.utf8EncodeChar)
    rw [List.flatMap_cons, hbytes, List.cons_append, decodeFrom, hchar]
    show decodeFrom _ (Char.ofNat c.toNat :: text) (List.drop following.length _) = _
    rw [List.drop_left, Char.ofNat_toNat, ih, List.reverse_cons, List.append_assoc,
      List.singleton_append]

/-- **The bytes of a text decode to the text.** -/
theorem decodeUtf8_toUTF8 (s : String) : decodeUtf8 s.toUTF8.data.toList = .ok s := by
  have hbytes : s.toUTF8.data.toList = s.toList.flatMap String.utf8EncodeChar := by
    rw [String.toUTF8_eq_toByteArray, ← String.utf8Encode_toList, List.utf8Encode,
      List.toList_data_toByteArray]
  rw [decodeUtf8, hbytes, decodeFrom_flatMap]
  show Except.ok (String.ofList s.toList) = _
  rw [String.ofList_toList]

end Text
end DocPipe
