import Mathlib
import Airspace.Text.Utf8

/-!
# UTF-8: decoding what was encoded

The bytes of a string are the UTF-8 encodings of its characters, one after the
other (`toUTF8_toList`). The decoder reads the encoding of any character back as
that character and consumes exactly its bytes (`decodeFirst_utf8EncodeChar`),
one lemma per length of the encoding; so decoding the bytes of a string gives
the string (`toText_toUTF8`). An ASCII character is its own single byte
(`asciiByte`), which is how the readers of numbers and times see their input.
-/

namespace Airspace.Text

theorem byteArray_toList_loop (bs : ByteArray) (i : Nat) (r : List UInt8) :
    ByteArray.toList.loop bs i r = r.reverse ++ bs.data.toList.drop i := by
  fun_induction ByteArray.toList.loop bs i r with
  | case1 i r hlt ih =>
    have hlen : i < bs.data.toList.length := by simpa using hlt
    rw [ih, List.drop_eq_getElem_cons hlen]
    simp [ByteArray.get!, hlt]
  | case2 i r hlt =>
    rw [List.drop_eq_nil_of_le (by simpa using Nat.le_of_not_lt hlt)]
    simp

/-- The bytes of a string are the encodings of its characters. -/
theorem toUTF8_toList (s : String) :
    s.toUTF8.toList = s.toList.flatMap String.utf8EncodeChar := by
  rw [ByteArray.toList, byteArray_toList_loop, String.toUTF8_eq_toByteArray,
    ← String.utf8Encode_toList, List.utf8Encode, List.data_toByteArray]
  simp

theorem toUTF8_append_toList (s t : String) :
    (s ++ t).toUTF8.toList = s.toUTF8.toList ++ t.toUTF8.toList := by
  simp only [toUTF8_toList, String.toList_append, List.flatMap_append]

/-! ## Bytes and their values -/

theorem toNat_valid (c : Char) : c.toNat < 0xD800 ∨ (0xDFFF < c.toNat ∧ c.toNat < 0x110000) := by
  simpa [UInt32.isValidChar, Nat.isValidChar] using c.valid

@[simp] theorem charOf_toNat (c : Char) : charOf c.toNat = c := by
  have hvalid : c.toNat.isValidChar := by
    simpa [UInt32.isValidChar, Nat.isValidChar] using c.valid
  simp [charOf, hvalid, Char.ofNat_toNat]

theorem inRange_eq_true_iff {b lo hi : UInt8} :
    inRange b lo hi = true ↔ lo.toNat ≤ b.toNat ∧ b.toNat ≤ hi.toNat := by
  simp [inRange, UInt8.le_iff_toNat_le]

theorem toNat_and_mask (b : UInt8) (k : Nat) (hk : k ≤ 8) :
    (b &&& UInt8.ofNat (2 ^ k - 1)).toNat = b.toNat % 2 ^ k := by
  rw [UInt8.toNat_and, UInt8.toNat_ofNat', Nat.mod_eq_of_lt, Nat.and_two_pow_sub_one_eq_mod]
  have : 2 ^ k ≤ 2 ^ 8 := Nat.pow_le_pow_right (by decide) hk
  omega

theorem low6_eq (b : UInt8) : low6 b = b.toNat % 64 := toNat_and_mask b 6 (by decide)

theorem toNat_ofNat_of_lt (n : Nat) (h : n < 256) : (UInt8.ofNat n).toNat = n := by
  simp only [UInt8.toNat_ofNat']; omega

/-! ## One character, by the length of its encoding -/

theorem decodeFirst_one {c : Char} (h : c.toNat < 0x80) (rest : List UInt8) :
    decodeFirst (UInt8.ofNat c.toNat :: rest) = some (c, rest) := by
  have hb := toNat_ofNat_of_lt (c.toNat) (by omega)
  have hlt : UInt8.ofNat c.toNat < 0x80 := by
    rw [UInt8.lt_iff_toNat_lt, hb]; simpa using h
  simp [decodeFirst, decodeLead, hlt, hb]

theorem decodeFirst_two {c : Char} (h1 : 0x80 ≤ c.toNat) (h2 : c.toNat < 0x800) (rest : List UInt8) :
    decodeFirst (UInt8.ofNat (c.toNat / 64 % 32 + 192) :: UInt8.ofNat (c.toNat % 64 + 128) :: rest) =
      some (c, rest) := by
  have hb := toNat_ofNat_of_lt (c.toNat / 64 % 32 + 192) (by omega)
  have hc := toNat_ofNat_of_lt (c.toNat % 64 + 128) (by omega)
  have hlt : ¬ UInt8.ofNat (c.toNat / 64 % 32 + 192) < 0x80 := by
    rw [UInt8.lt_iff_toNat_lt, hb]; simp
  have hlead : inRange (UInt8.ofNat (c.toNat / 64 % 32 + 192)) 0xC2 0xDF = true := by
    rw [inRange_eq_true_iff, hb]; simp; omega
  have hcont : inRange (UInt8.ofNat (c.toNat % 64 + 128)) 0x80 0xBF = true := by
    rw [inRange_eq_true_iff, hc]; simp; omega
  have hval : (UInt8.ofNat (c.toNat / 64 % 32 + 192) &&& 0x1F).toNat * 64 +
      low6 (UInt8.ofNat (c.toNat % 64 + 128)) = c.toNat := by
    rw [low6_eq, hc, show (0x1F : UInt8) = UInt8.ofNat (2 ^ 5 - 1) from rfl,
      toNat_and_mask _ 5 (by decide), hb]
    omega
  simp only [decodeFirst, decodeLead, hlt, hlead, hcont, hval, charOf_toNat, if_false, if_true,
    List.drop_succ_cons, List.drop_zero]

/-- A character of three bytes decodes from its encoding. The second byte lies in the window the
first byte allows: above the overlong forms after `E0`, below the surrogates after `ED`. -/
theorem decodeFirst_three {c : Char} (h1 : 0x800 ≤ c.toNat) (h2 : c.toNat < 0x10000)
    (hsur : c.toNat < 0xD800 ∨ 0xDFFF < c.toNat) (rest : List UInt8) :
    decodeFirst (UInt8.ofNat (c.toNat / 4096 % 16 + 224) :: UInt8.ofNat (c.toNat / 64 % 64 + 128) ::
      UInt8.ofNat (c.toNat % 64 + 128) :: rest) = some (c, rest) := by
  have hb := toNat_ofNat_of_lt (c.toNat / 4096 % 16 + 224) (by omega)
  have hc := toNat_ofNat_of_lt (c.toNat / 64 % 64 + 128) (by omega)
  have hd := toNat_ofNat_of_lt (c.toNat % 64 + 128) (by omega)
  have hlt : ¬ UInt8.ofNat (c.toNat / 4096 % 16 + 224) < 0x80 := by
    rw [UInt8.lt_iff_toNat_lt, hb]; simp
  have hnot2 : inRange (UInt8.ofNat (c.toNat / 4096 % 16 + 224)) 0xC2 0xDF = false := by
    rw [Bool.eq_false_iff, ne_eq, inRange_eq_true_iff, hb]; simp
  have hlead : inRange (UInt8.ofNat (c.toNat / 4096 % 16 + 224)) 0xE0 0xEF = true := by
    rw [inRange_eq_true_iff, hb]; simp; omega
  have hE0 : (UInt8.ofNat (c.toNat / 4096 % 16 + 224) == 0xE0) = decide (c.toNat < 4096) := by
    rw [Bool.eq_iff_iff, beq_iff_eq, decide_eq_true_iff, ← UInt8.toNat_inj, hb]; simp; omega
  have hED : (UInt8.ofNat (c.toNat / 4096 % 16 + 224) == 0xED) = decide (c.toNat / 4096 = 13) := by
    rw [Bool.eq_iff_iff, beq_iff_eq, decide_eq_true_iff, ← UInt8.toNat_inj, hb]; simp; omega
  have hlast : inRange (UInt8.ofNat (c.toNat % 64 + 128)) 0x80 0xBF = true := by
    rw [inRange_eq_true_iff, hd]; simp; omega
  have hval : (UInt8.ofNat (c.toNat / 4096 % 16 + 224) &&& 0x0F).toNat * 4096 +
      low6 (UInt8.ofNat (c.toNat / 64 % 64 + 128)) * 64 +
      low6 (UInt8.ofNat (c.toNat % 64 + 128)) = c.toNat := by
    rw [low6_eq, low6_eq, hc, hd, show (0x0F : UInt8) = UInt8.ofNat (2 ^ 4 - 1) from rfl,
      toNat_and_mask _ 4 (by decide), hb]
    omega
  have hmid : ∀ lo hi : UInt8, lo.toNat ≤ c.toNat / 64 % 64 + 128 →
      c.toNat / 64 % 64 + 128 ≤ hi.toNat →
      inRange (UInt8.ofNat (c.toNat / 64 % 64 + 128)) lo hi = true := by
    intro lo hi hlo hhi
    rw [inRange_eq_true_iff, hc]; exact ⟨hlo, hhi⟩
  simp only [decodeFirst, decodeLead, hlt, hnot2, hlead, hE0, hED, hlast, hval, if_false, if_true,
    Bool.false_eq_true, Bool.and_true]
  by_cases hE : c.toNat < 4096
  · simp only [hE, decide_true, if_true, hmid 0xA0 0xBF (by simp; omega) (by simp; omega),
      charOf_toNat, List.drop_succ_cons, List.drop_zero]
  · by_cases hD : c.toNat / 4096 = 13
    · simp only [hE, hD, decide_true, decide_false, if_true, if_false, Bool.false_eq_true,
        hmid 0x80 0x9F (by simp) (by simp; omega), charOf_toNat, List.drop_succ_cons,
        List.drop_zero]
    · simp only [hE, hD, decide_false, if_false, if_true, Bool.false_eq_true,
        hmid 0x80 0xBF (by simp) (by simp; omega), charOf_toNat, List.drop_succ_cons,
        List.drop_zero]

/-- A character of four bytes decodes from its encoding. The second byte lies in the window the
first byte allows: above the overlong forms after `F0`, below U+110000 after `F4`. -/
theorem decodeFirst_four {c : Char} (h1 : 0x10000 ≤ c.toNat) (h2 : c.toNat < 0x110000)
    (rest : List UInt8) :
    decodeFirst (UInt8.ofNat (c.toNat / 262144 % 8 + 240) :: UInt8.ofNat (c.toNat / 4096 % 64 + 128) ::
      UInt8.ofNat (c.toNat / 64 % 64 + 128) :: UInt8.ofNat (c.toNat % 64 + 128) :: rest) =
      some (c, rest) := by
  have hb := toNat_ofNat_of_lt (c.toNat / 262144 % 8 + 240) (by omega)
  have hc := toNat_ofNat_of_lt (c.toNat / 4096 % 64 + 128) (by omega)
  have hd := toNat_ofNat_of_lt (c.toNat / 64 % 64 + 128) (by omega)
  have he := toNat_ofNat_of_lt (c.toNat % 64 + 128) (by omega)
  have hlt : ¬ UInt8.ofNat (c.toNat / 262144 % 8 + 240) < 0x80 := by
    rw [UInt8.lt_iff_toNat_lt, hb]; simp
  have hnot2 : inRange (UInt8.ofNat (c.toNat / 262144 % 8 + 240)) 0xC2 0xDF = false := by
    rw [Bool.eq_false_iff, ne_eq, inRange_eq_true_iff, hb]; simp
  have hnot3 : inRange (UInt8.ofNat (c.toNat / 262144 % 8 + 240)) 0xE0 0xEF = false := by
    rw [Bool.eq_false_iff, ne_eq, inRange_eq_true_iff, hb]; simp
  have hlead : inRange (UInt8.ofNat (c.toNat / 262144 % 8 + 240)) 0xF0 0xF4 = true := by
    rw [inRange_eq_true_iff, hb]; simp; omega
  have hF0 : (UInt8.ofNat (c.toNat / 262144 % 8 + 240) == 0xF0) = decide (c.toNat < 262144) := by
    rw [Bool.eq_iff_iff, beq_iff_eq, decide_eq_true_iff, ← UInt8.toNat_inj, hb]; simp; omega
  have hF4 : (UInt8.ofNat (c.toNat / 262144 % 8 + 240) == 0xF4) = decide (1048576 ≤ c.toNat) := by
    rw [Bool.eq_iff_iff, beq_iff_eq, decide_eq_true_iff, ← UInt8.toNat_inj, hb]; simp; omega
  have hthird : inRange (UInt8.ofNat (c.toNat / 64 % 64 + 128)) 0x80 0xBF = true := by
    rw [inRange_eq_true_iff, hd]; simp; omega
  have hlast : inRange (UInt8.ofNat (c.toNat % 64 + 128)) 0x80 0xBF = true := by
    rw [inRange_eq_true_iff, he]; simp; omega
  have hval : (UInt8.ofNat (c.toNat / 262144 % 8 + 240) &&& 0x07).toNat * 262144 +
      low6 (UInt8.ofNat (c.toNat / 4096 % 64 + 128)) * 4096 +
      low6 (UInt8.ofNat (c.toNat / 64 % 64 + 128)) * 64 +
      low6 (UInt8.ofNat (c.toNat % 64 + 128)) = c.toNat := by
    rw [low6_eq, low6_eq, low6_eq, hc, hd, he,
      show (0x07 : UInt8) = UInt8.ofNat (2 ^ 3 - 1) from rfl, toNat_and_mask _ 3 (by decide), hb]
    omega
  have hmid : ∀ lo hi : UInt8, lo.toNat ≤ c.toNat / 4096 % 64 + 128 →
      c.toNat / 4096 % 64 + 128 ≤ hi.toNat →
      inRange (UInt8.ofNat (c.toNat / 4096 % 64 + 128)) lo hi = true := by
    intro lo hi hlo hhi
    rw [inRange_eq_true_iff, hc]; exact ⟨hlo, hhi⟩
  simp only [decodeFirst, decodeLead, hlt, hnot2, hnot3, hlead, hF0, hF4, hthird, hlast, hval,
    if_false, if_true, Bool.false_eq_true, Bool.and_true]
  by_cases hF : c.toNat < 262144
  · simp only [hF, decide_true, if_true, hmid 0x90 0xBF (by simp; omega) (by simp; omega),
      charOf_toNat, List.drop_succ_cons, List.drop_zero]
  · by_cases hT : 1048576 ≤ c.toNat
    · simp only [hF, hT, decide_true, decide_false, if_true, if_false, Bool.false_eq_true,
        hmid 0x80 0x8F (by simp) (by simp; omega), charOf_toNat, List.drop_succ_cons,
        List.drop_zero]
    · simp only [hF, hT, decide_false, if_false, if_true, Bool.false_eq_true,
        hmid 0x80 0xBF (by simp) (by simp; omega), charOf_toNat, List.drop_succ_cons,
        List.drop_zero]

/-- The decoder reads the encoding of a character back as that character, and
consumes exactly its bytes. -/
theorem decodeFirst_utf8EncodeChar (c : Char) (rest : List UInt8) :
    decodeFirst (String.utf8EncodeChar c ++ rest) = some (c, rest) := by
  have hvalid := toNat_valid c
  have hv : c.val.toNat = c.toNat := rfl
  unfold String.utf8EncodeChar
  simp only [hv]
  split
  · exact decodeFirst_one (by omega) rest
  · split
    · exact decodeFirst_two (by omega) (by omega) rest
    · split
      · exact decodeFirst_three (by omega) (by omega) (by omega) rest
      · exact decodeFirst_four (by omega) (by omega) rest

/-! ## Whole texts -/

theorem decode_encodeChar_append (c : Char) (rest : List UInt8) :
    decode (String.utf8EncodeChar c ++ rest) = c :: decode rest := by
  obtain ⟨b, tail, hbt⟩ := List.exists_cons_of_ne_nil
    (String.utf8EncodeChar_ne_nil : String.utf8EncodeChar c ≠ [])
  have h := decodeFirst_utf8EncodeChar c rest
  rw [hbt] at h ⊢
  simp only [List.cons_append, decodeFirst, Option.some.injEq, Prod.mk.injEq] at h
  simp only [List.cons_append] at h ⊢
  rw [decode.eq_2, h.1, h.2]

theorem decode_flatMap (cs : List Char) : decode (cs.flatMap String.utf8EncodeChar) = cs := by
  induction cs with
  | nil => simp [decode]
  | cons c cs ih => rw [List.flatMap_cons, decode_encodeChar_append, ih]

/-- Decoding the bytes of a string gives the string. -/
theorem toText_toUTF8 (s : String) : toText s.toUTF8.toList = s := by
  rw [toText, toUTF8_toList, decode_flatMap, String.ofList_toList]

/-! ## ASCII -/

/-- The byte of an ASCII character. -/
def asciiByte (c : Char) : UInt8 := UInt8.ofNat c.toNat

theorem toNat_asciiByte {c : Char} (h : c.toNat < 128) : (asciiByte c).toNat = c.toNat := by
  simp only [asciiByte, UInt8.toNat_ofNat']; omega

theorem utf8EncodeChar_of_lt {c : Char} (h : c.toNat < 128) : String.utf8EncodeChar c = [asciiByte c] := by
  have hv : c.val.toNat = c.toNat := rfl
  unfold String.utf8EncodeChar
  simp only [hv, show c.toNat ≤ 0x7f by omega, if_true]
  rfl

/-- The bytes of ASCII characters are the characters themselves. -/
theorem flatMap_utf8EncodeChar_of_ascii {cs : List Char} (h : ∀ c ∈ cs, c.toNat < 128) :
    cs.flatMap String.utf8EncodeChar = cs.map asciiByte := by
  induction cs with
  | nil => rfl
  | cons c cs ih =>
    rw [List.flatMap_cons, List.map_cons, utf8EncodeChar_of_lt (h c List.mem_cons_self),
      ih fun x hx => h x (List.mem_cons_of_mem c hx)]
    rfl

theorem isDigit_iff {c : Char} : c.isDigit = true ↔ 48 ≤ c.toNat ∧ c.toNat ≤ 57 := by
  simp only [Char.isDigit, Bool.and_eq_true, decide_eq_true_eq, UInt32.le_iff_toNat_le]
  rfl

theorem digit_lt {c : Char} (h : c.isDigit = true) : c.toNat < 128 := by
  have := isDigit_iff.mp h
  omega

theorem toText_map_asciiByte {cs : List Char} (h : ∀ c ∈ cs, c.toNat < 128) :
    toText (cs.map asciiByte) = String.ofList cs := by
  rw [toText, ← flatMap_utf8EncodeChar_of_ascii h, decode_flatMap]

end Airspace.Text
