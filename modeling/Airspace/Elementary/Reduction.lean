import Airspace.Binary64.Basic

/-!
# Reduction of an angle to an octant

The circular functions are evaluated on `[-π/4, π/4]` after writing a
nonnegative angle as `x = j · π/4 + z`. The octant `j` is taken modulo eight and
made even, so `z` lies within `π/4` of zero.

Two reductions are used. Below `2^29` the multiple of `π/4` is subtracted in
three pieces whose leading parts are exact, so only the last product rounds.
From `2^29` on, the reduction multiplies the integer significand by the binary
expansion of `4/π` (the table `fourOverPiWords`) and keeps only the bits that
matter modulo eight, which is exact however large the angle is.
-/

namespace Airspace.Elementary

open Airspace.Binary64

/-- π to double precision. -/
def pi : Float := 3.14159265358979323846264338327950288419716939937510582097494459

/-- The binary64 value nearest to π/4. -/
def quarterPi : Float := 0.7853981633974483

/-- The binary64 value nearest to 4/π. -/
def fourOverPi : Float := 1.2732395447351628

/-- π/4 split into three parts; the first two have short significands so that
their products with a small integer are exact. -/
def quarterPiHigh : Float := 7.85398125648498535156e-1
def quarterPiMid : Float := 3.77489470793079817668e-8
def quarterPiLow : Float := 2.69515142907905952645e-15

/-- Angles from this magnitude on are reduced with the long expansion of 4/π. -/
def longReductionThreshold : Float := 536870912.0

/-- The binary expansion of 4/π in 64-bit words: `4/π = Σ w[i] · 2^(-64·i)`. -/
def fourOverPiWords : Array Nat := #[
  0x0000000000000001, 0x45F306DC9C882A53, 0xF84EAFA3EA69BB81, 0xB6C52B3278872083,
  0xFCA2C757BD778AC3, 0x6E48DC74849BA5C0, 0x0C925DD413A32439, 0xFC3BD63962534E7D,
  0xD1046BEA5D768909, 0xD338E04D68BEFC82, 0x7323AC7306A673E9, 0x3908BF177BF25076,
  0x3FF12FFFBC0B301F, 0xDE5E2316B414DA3E, 0xDA6CFD9E4F96136E, 0x9E8C7ECD3CBFD45A,
  0xEA4F758FD7CBE2F6, 0x7A0E73EF14A525D4, 0xD7F6BF623F1ABA10, 0xAC06608DF8F6D757]

/-- The word `i` of the expansion; beyond the table, zero. -/
def fourOverPiWord (i : Nat) : Nat := fourOverPiWords.getD i 0

/-- Sixty-four bits of the expansion of 4/π starting `shift` bits into word `i`. -/
def fourOverPiWindow (i shift : Nat) : Nat :=
  ((fourOverPiWord i * Nat.pow 2 shift) % Nat.pow 2 64) ||| (fourOverPiWord (i + 1) / Nat.pow 2 (64 - shift))

/-- Octant and remainder of a large nonnegative angle, using the long expansion of 4/π.
The product of the significand with three words of the expansion gives the
fractional part of `x / (π/4)` to 128 bits; its top three bits are the octant. -/
def reduceLong (x : Float) : Nat × Float :=
  if x < quarterPi then (0, x)
  else
    let bits := x.toBits.toNat
    let exp : Int := ((bits / Nat.pow 2 52) % 2048 : Nat) - 1023 - 52
    let ix := bits % Nat.pow 2 52 + Nat.pow 2 52
    let start := (exp + 61).toNat
    let digit := start / 64
    let shift := start % 64
    let z0 := fourOverPiWindow digit shift
    let z1 := fourOverPiWindow (digit + 1) shift
    let z2 := fourOverPiWindow (digit + 2) shift
    let z2hi := (z2 * ix) / Nat.pow 2 64
    let z1hi := (z1 * ix) / Nat.pow 2 64
    let z1lo := (z1 * ix) % Nat.pow 2 64
    let z0lo := (z0 * ix) % Nat.pow 2 64
    let low := z1lo + z2hi
    let lo := low % Nat.pow 2 64
    let hi := (z0lo + z1hi + low / Nat.pow 2 64) % Nat.pow 2 64
    let j := hi / Nat.pow 2 61
    -- the remaining 125 bits are the fraction; normalise its leading digit
    let hi := ((hi * 8) % Nat.pow 2 64) ||| (lo / Nat.pow 2 61)
    let lz := 64 - bitLength hi
    let e := 1023 - (lz + 1)
    let hi := ((hi * Nat.pow 2 (lz + 1)) % Nat.pow 2 64) ||| (lo / Nat.pow 2 (64 - (lz + 1)))
    let hi := hi / Nat.pow 2 12
    let z := Float.ofBits (UInt64.ofNat (hi ||| (e * Nat.pow 2 52)))
    if j % 2 = 1 then (((j + 1) % 8), (z - 1) * quarterPi)
    else (j, z * quarterPi)

/-- Octant (not yet taken modulo eight) and remainder of a nonnegative angle
below `2^29`: the multiple of π/4 is subtracted in three exact-leading pieces. -/
def reduceShort (x : Float) : Nat × Float :=
  let j := (truncInt (x * fourOverPi)).toNat
  let y := Float.ofNat j
  let (j, y) := if j % 2 = 1 then (j + 1, y + 1) else (j, y)
  (j, ((x - y * quarterPiHigh) - y * quarterPiMid) - y * quarterPiLow)

/-- Octant modulo eight and remainder of a finite nonnegative angle. -/
def reduce (x : Float) : Nat × Float :=
  if x ≥ longReductionThreshold then reduceLong x
  else
    let (j, z) := reduceShort x
    (j % 8, z)

end Airspace.Elementary
