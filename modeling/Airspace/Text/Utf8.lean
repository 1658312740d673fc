/-!
# Decoding UTF-8

Bytes are decoded one code point at a time. A byte that does not begin a
well-formed sequence — a stray continuation byte, an overlong form, a
surrogate, a value beyond U+10FFFF, or a sequence cut short — decodes as
U+FFFD and consumes that one byte only, so decoding never fails and always
makes progress.
-/

namespace Airspace.Text

/-- The replacement character U+FFFD. -/
def replacement : Char := '�'

/-- Whether a byte continues a sequence within `[lo, hi]`. -/
def inRange (b lo hi : UInt8) : Bool := lo ≤ b && b ≤ hi

/-- The code point of a decoded value, or U+FFFD if it is not a scalar value. -/
def charOf (n : Nat) : Char := if n.isValidChar then Char.ofNat n else replacement

/-- The payload bits of a continuation byte. -/
def low6 (b : UInt8) : Nat := (b &&& 0x3F).toNat

/-- The code point that starts with byte `b` followed by `rest`, and how many
bytes of `rest` it takes. -/
def decodeLead (b : UInt8) (rest : List UInt8) : Char × Nat :=
  if b < 0x80 then (charOf b.toNat, 0)
  else if inRange b 0xC2 0xDF then
    match rest with
    | c :: _ => if inRange c 0x80 0xBF then (charOf ((b &&& 0x1F).toNat * 64 + low6 c), 1)
                else (replacement, 0)
    | [] => (replacement, 0)
  else if inRange b 0xE0 0xEF then
    let (lo, hi) : UInt8 × UInt8 :=
      if b == 0xE0 then (0xA0, 0xBF) else if b == 0xED then (0x80, 0x9F) else (0x80, 0xBF)
    match rest with
    | c :: d :: _ =>
      if inRange c lo hi && inRange d 0x80 0xBF then
        (charOf ((b &&& 0x0F).toNat * 4096 + low6 c * 64 + low6 d), 2)
      else (replacement, 0)
    | _ => (replacement, 0)
  else if inRange b 0xF0 0xF4 then
    let (lo, hi) : UInt8 × UInt8 :=
      if b == 0xF0 then (0x90, 0xBF) else if b == 0xF4 then (0x80, 0x8F) else (0x80, 0xBF)
    match rest with
    | c :: d :: e :: _ =>
      if inRange c lo hi && inRange d 0x80 0xBF && inRange e 0x80 0xBF then
        (charOf ((b &&& 0x07).toNat * 262144 + low6 c * 4096 + low6 d * 64 + low6 e), 3)
      else (replacement, 0)
    | _ => (replacement, 0)
  else (replacement, 0)

/-- Decodes the first code point, returning it and the bytes after it; `none` for no bytes. -/
def decodeFirst : List UInt8 → Option (Char × List UInt8)
  | [] => none
  | b :: rest => let (c, k) := decodeLead b rest; some (c, rest.drop k)

/-- Decodes all the bytes into code points. -/
def decode : List UInt8 → List Char
  | [] => []
  | b :: rest => (decodeLead b rest).1 :: decode (rest.drop (decodeLead b rest).2)
termination_by bs => bs.length
decreasing_by simp only [List.length_drop, List.length_cons]; omega

/-- The text of the bytes, each ill-formed byte replaced by U+FFFD. -/
def toText (bs : List UInt8) : String := String.ofList (decode bs)

end Airspace.Text
