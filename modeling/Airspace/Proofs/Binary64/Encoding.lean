import Airspace.Binary64.Basic
import Mathlib

/-!
# Binary64 values and their bit patterns

A binary64 value is read through its unpacked form (`view`): a signed zero, a signed
infinity, NaN, or a finite value `± m · 2^e` with a natural mantissa `m`. The operations of
`Float` are defined on that form and rounded back through the bit pattern, so every fact
about them starts from how packing and unpacking treat a value.

* `unpack_pack_of_representable`: a finite value whose mantissa and exponent binary64 can
  hold (`Representable`) survives packing and unpacking unchanged.
* `parts_of_view_finite`, `parts_of_view_zero`: the significand and exponent that the
  decomposition `Binary64.parts` reads off the bits are those of the unpacked value.
* `view_pack_zero`, `view_pack_subnormal`, `view_pack_normal`: what the bit pattern built by
  `Binary64.pack` from a sign, a stored exponent and a fraction unpacks to.
-/

namespace Airspace.IEEE754

open Float.Model UnpackedFloat

/-- A mantissa and exponent that binary64 holds as they are: at most 53 bits, an exponent
in the finite range, and a full 53-bit mantissa unless the exponent is the subnormals'. -/
structure Representable (m : ℕ) (e : ℤ) : Prop where
  lt_two_pow : m < 2 ^ 53
  min_le : -1074 ≤ e
  le_max : e ≤ 971
  normal_or_subnormal : 2 ^ 52 ≤ m ∨ e = -1074

theorem toNat_one_append (M : BitVec 52) : (1#1 ++ M).toNat = 2 ^ 52 + M.toNat := by
  rw [BitVec.toNat_append, ← Nat.shiftLeft_add_eq_or_of_lt M.isLt]
  simp [Nat.shiftLeft_eq]

/-- Unpacking the fields of a value that is a number: a stored exponent of zero holds zero
or a subnormal, any other the normal value with its hidden bit. -/
theorem unpack_packComponents (s : Sign) (E : BitVec 11) (M : BitVec 52) (hE : E ≠ -1#11) :
    unpack .binary64 (packComponents .binary64 s E M) =
      if E = 0#11 then
        (if hM : M = 0#52 then .zero s else .finite s M.toNat (-1074) (by
          simpa [BitVec.toNat_pos, BitVec.pos_iff_ne_zero] using hM))
      else .finite s (2 ^ 52 + M.toNat) ((E.toNat : ℤ) - 1075) (by omega) := by
  rw [UnpackedFloat.unpack]
  simp only [unpackMantissa_packComponents, unpackExponent_packComponents,
    unpackSign_packComponents, Sign.ofBitVec_toBitVec]
  rw [if_neg hE]
  by_cases hz : E = 0#11
  · rw [if_pos hz, if_pos hz]
    by_cases hM : M = 0#52
    · rw [dif_pos hM, dif_pos hM]
    · rw [dif_neg hM, dif_neg hM]
      simp [hz, Format.exponentBias]
  · rw [if_neg hz, if_neg hz]
    simp only [toNat_one_append, finite.injEq, true_and]
    norm_num [Format.exponentBias]

theorem unpack_model_pack (u : UnpackedFloat) :
    (Float.Model.pack u).unpack = unpack .binary64 (UnpackedFloat.pack .binary64 u) := rfl

theorem unpack_packedInfinity (s : Sign) :
    unpack .binary64 (packedInfinity .binary64 s) = .infinity s := by
  cases s <;> rfl

theorem log2_eq_of_le {m : ℕ} (hlo : 2 ^ 52 ≤ m) (hhi : m < 2 ^ 53) : m.log2 = 52 :=
  (Nat.log2_eq_iff (by omega)).mpr ⟨hlo, hhi⟩

theorem log2_lt_of_lt {m : ℕ} (hm : 0 < m) (hhi : m < 2 ^ 52) : m.log2 < 52 :=
  (Nat.log2_lt (by omega)).mpr hhi

theorem log2_le_of_lt {m : ℕ} (hm : m < 2 ^ 53) : m.log2 ≤ 52 := by
  rcases Nat.eq_zero_or_pos m with rfl | hpos
  · simp
  · have := (Nat.log2_lt hpos.ne').mpr hm
    omega

/-- Packing a finite value: past the largest exponent it becomes an infinity, a full
mantissa is stored normal with its exponent biased by `1075`, any other as a subnormal. -/
theorem pack_finite (s : Sign) (m : ℕ) (e : ℤ) (h : 0 < m) :
    UnpackedFloat.pack .binary64 (.finite s m e h) =
      if 2047 ≤ (e + 1075).toNat then packedInfinity .binary64 s
      else if m.log2 = 52 then
        packComponents .binary64 s (BitVec.ofNat 11 (e + 1075).toNat) (BitVec.ofNat 52 m)
      else packComponents .binary64 s 0#11 (BitVec.ofNat 52 m) := by
  have hbias : (e + (Format.binary64.exponentBias : ℤ) +
      (Format.binary64.mantissaBitsWithoutImplicit : ℤ)).toNat = (e + 1075).toNat := by
    norm_num [Format.exponentBias]
    omega
  simp only [UnpackedFloat.pack, hbias]
  congr 1
  · show (2 ^ 11 ≤ (e + 1075).toNat + 1) = (2047 ≤ (e + 1075).toNat)
    exact propext (by omega)
  · congr 1
    show (m.log2 + 1 = 53) = (m.log2 = 52)
    exact propext (by omega)

/-- A representable value comes back unchanged from packing and unpacking. -/
theorem unpack_pack_of_representable {s : Sign} {m : ℕ} {e : ℤ} {h : 0 < m}
    (hr : Representable m e) : (Float.Model.pack (.finite s m e h)).unpack = .finite s m e h := by
  rw [unpack_model_pack, pack_finite, if_neg (by have := hr.le_max; omega)]
  have hm : BitVec.toNat (BitVec.ofNat 52 m) = m % 2 ^ 52 := BitVec.toNat_ofNat _ _
  by_cases hnormal : 2 ^ 52 ≤ m
  · have hE : (BitVec.ofNat 11 (e + 1075).toNat).toNat = (e + 1075).toNat := by
      rw [BitVec.toNat_ofNat]
      have := hr.le_max
      omega
    rw [if_pos (log2_eq_of_le hnormal hr.lt_two_pow), unpack_packComponents]
    · have hE0 : BitVec.ofNat 11 (e + 1075).toNat ≠ 0#11 := by
        intro h0
        have h0' := congrArg BitVec.toNat h0
        have hmin := hr.min_le
        rw [hE, BitVec.toNat_zero] at h0'
        omega
      rw [if_neg hE0]
      simp only [finite.injEq, true_and, hm, hE]
      have := hr.lt_two_pow
      have := hr.min_le
      omega
    · intro h1
      have h1' := congrArg BitVec.toNat h1
      have hmax := hr.le_max
      rw [hE] at h1'
      norm_num at h1'
      omega
  · have hsub : e = -1074 := hr.normal_or_subnormal.resolve_left hnormal
    have hlt : m < 2 ^ 52 := by omega
    have hM : BitVec.ofNat 52 m ≠ 0#52 := by
      intro h0
      have h0' := congrArg BitVec.toNat h0
      rw [hm, BitVec.toNat_zero] at h0'
      omega
    rw [if_neg (by have := log2_lt_of_lt h hlt; omega), unpack_packComponents _ _ _ (by decide),
      if_pos rfl, dif_neg hM]
    simp only [finite.injEq, true_and, hm, hsub, and_true]
    exact Nat.mod_eq_of_lt hlt

/-- Every finite value that unpacking gives is representable. -/
theorem representable_of_unpack {b : BitVec 64} {s : Sign} {m : ℕ} {e : ℤ} {h : 0 < m}
    (hu : unpack .binary64 b = .finite s m e h) : Representable m e := by
  have hM : (@unpackMantissa .binary64 b).toNat < 2 ^ 52 := BitVec.isLt _
  have hE : (@unpackExponent .binary64 b).toNat < 2 ^ 11 := BitVec.isLt _
  rw [UnpackedFloat.unpack] at hu
  simp only at hu
  split at hu
  · split at hu <;> cases hu
  · rename_i hinf
    split at hu
    · rename_i hzero
      split at hu
      · cases hu
      · simp only [finite.injEq] at hu
        obtain ⟨-, rfl, rfl⟩ := hu
        have hE0 : (@unpackExponent .binary64 b).toNat = 0 := by
          rw [hzero, BitVec.toNat_zero]
        rw [hE0]
        refine ⟨by simp at hM ⊢; omega, by norm_num [Format.exponentBias],
          by norm_num [Format.exponentBias], Or.inr (by norm_num [Format.exponentBias])⟩
    · rename_i hzero
      simp only [finite.injEq] at hu
      obtain ⟨-, rfl, rfl⟩ := hu
      have hE0 : (@unpackExponent .binary64 b).toNat ≠ 0 := fun h0 =>
        hzero (BitVec.eq_of_toNat_eq (by rw [h0, BitVec.toNat_zero]))
      have hE1 : (@unpackExponent .binary64 b).toNat ≠ 2047 := fun h1 =>
        hinf (BitVec.eq_of_toNat_eq (by rw [h1]; rfl))
      rw [toNat_one_append]
      refine ⟨by omega, ?_, ?_, Or.inl (by omega)⟩ <;> norm_num [Format.exponentBias] <;> omega

/-- Unpacking, packing and unpacking again gives what the first unpacking gave. -/
theorem unpack_pack_unpack (b : BitVec 64) :
    (Float.Model.pack (unpack .binary64 b)).unpack = unpack .binary64 b := by
  rcases hu : unpack .binary64 b with (_ | _) | _ | (_ | _) | ⟨s, m, e, h⟩
  all_goals try rfl
  exact unpack_pack_of_representable (representable_of_unpack hu)

/-- The sign of a zero, an infinity or a finite value; NaN has none. -/
def sign? : UnpackedFloat → Option Sign
  | .zero s => some s
  | .infinity s => some s
  | .finite s .. => some s
  | .notANumber => none

/-- Packing a finite value keeps its sign, whether it comes back finite, as a zero or as
an infinity. -/
theorem sign?_unpack_pack_finite (s : Sign) (m : ℕ) (e : ℤ) (h : 0 < m) :
    sign? (Float.Model.pack (.finite s m e h)).unpack = some s := by
  rw [unpack_model_pack, pack_finite]
  split_ifs with hinf hnormal
  · rw [unpack_packedInfinity]
    rfl
  · have hE : (BitVec.ofNat 11 (e + 1075).toNat).toNat = (e + 1075).toNat := by
      rw [BitVec.toNat_ofNat]
      omega
    rw [unpack_packComponents]
    · split_ifs <;> rfl
    · intro h1
      have h1' := congrArg BitVec.toNat h1
      rw [hE] at h1'
      norm_num at h1'
      omega
  · rw [unpack_packComponents _ _ _ (by decide)]
    split_ifs <;> rfl

/-- The unpacked form of a binary64 value, on which its arithmetic and comparisons are
defined. -/
def view (x : Float) : UnpackedFloat := x.toModel.unpack

theorem view_eq_unpack_toBits (x : Float) : view x = unpack .binary64 x.toBits.toBitVec := rfl

theorem isNaN_eq_view (x : Float) : x.isNaN = (view x).isNaN := rfl

/-- Zero is the positive zero. -/
theorem view_zero : view (0 : Float) = .zero .positive := rfl

theorem isInf_eq_view (x : Float) : x.isInf = (view x).isInf := rfl

/-! ## Binary64 values -/

section Views

variable (x y : Float)

theorem view_add : view (x + y) =
    (Float.Model.pack (UnpackedFloat.add .binary64 (view x) (view y))).unpack := rfl

theorem view_mul : view (x * y) =
    (Float.Model.pack (UnpackedFloat.mul .binary64 (view x) (view y))).unpack := rfl

theorem view_div : view (x / y) =
    (Float.Model.pack (UnpackedFloat.div .binary64 (view x) (view y))).unpack := rfl

theorem view_neg : view (-x) = (Float.Model.pack (view x).neg).unpack := rfl

theorem view_ofBits (w : UInt64) : view (Float.ofBits w) = unpack .binary64 w.toBitVec :=
  unpack_pack_unpack w.toBitVec

end Views

/-- One is `2^52 · 2^-52`. -/
theorem view_one :
    view (Float.ofBits 0x3FF0000000000000) =
      .finite .positive (2 ^ 52) (-52) (Nat.two_pow_pos 52) :=
  rfl

/-! ## Fields of a bit pattern -/

theorem toNat_unpackExponent (w : BitVec 64) :
    (@unpackExponent .binary64 w).toNat = w.toNat / 2 ^ 52 % 2 ^ 11 := by
  simp [unpackExponent, Nat.shiftRight_eq_div_pow]

theorem toNat_unpackMantissa (w : BitVec 64) :
    (@unpackMantissa .binary64 w).toNat = w.toNat % 2 ^ 52 := by
  simp [unpackMantissa]

theorem biasedExponent_eq (x : Float) :
    Binary64.biasedExponent x = x.toBits.toNat / 2 ^ 52 % 2 ^ 11 := by
  simp only [Binary64.biasedExponent, UInt64.toNat_and, UInt64.toNat_shiftRight]
  rw [show (0x7FF : UInt64).toNat = 2 ^ 11 - 1 from rfl, Nat.and_two_pow_sub_one_eq_mod]
  simp [Nat.shiftRight_eq_div_pow]

theorem fraction_eq (x : Float) : Binary64.fraction x = x.toBits.toNat % 2 ^ 52 := by
  simp only [Binary64.fraction, UInt64.toNat_and]
  rw [show (0xFFFFFFFFFFFFF : UInt64).toNat = 2 ^ 52 - 1 from rfl, Nat.and_two_pow_sub_one_eq_mod]

/-- The significand and exponent that `parts` reads off the bits are those of the unpacked
value; zero reads as significand zero at the subnormal exponent. -/
theorem parts_of_view_finite {x : Float} {s : Sign} {m : ℕ} {e : ℤ} {h : 0 < m}
    (hx : view x = .finite s m e h) :
    (Binary64.parts x).significand = m ∧ (Binary64.parts x).exponent = e := by
  have hE := toNat_unpackExponent x.toBits.toBitVec
  have hM := toNat_unpackMantissa x.toBits.toBitVec
  rw [UInt64.toNat_toBitVec] at hE hM
  rw [view_eq_unpack_toBits, UnpackedFloat.unpack] at hx
  simp only at hx
  simp only [Binary64.parts, biasedExponent_eq, fraction_eq]
  split at hx
  · split at hx <;> cases hx
  · rename_i hinf
    split at hx
    · rename_i hzero
      split at hx
      · cases hx
      · simp only [finite.injEq] at hx
        obtain ⟨-, rfl, rfl⟩ := hx
        have hb : x.toBits.toNat / 2 ^ 52 % 2 ^ 11 = 0 := by
          rw [← hE, hzero, BitVec.toNat_zero]
        simp only [hb, if_true, hM, true_and]
        norm_num [hE, hb, Format.exponentBias]
        omega
    · rename_i hzero
      simp only [finite.injEq] at hx
      obtain ⟨-, rfl, rfl⟩ := hx
      have hb : x.toBits.toNat / 2 ^ 52 % 2 ^ 11 ≠ 0 := fun h0 =>
        hzero (BitVec.eq_of_toNat_eq (by rw [hE, h0, BitVec.toNat_zero]))
      simp only [hb, if_false, toNat_one_append, hM, hE]
      norm_num [Format.exponentBias]
      omega

theorem parts_of_view_zero {x : Float} {s : Sign} (hx : view x = .zero s) :
    (Binary64.parts x).significand = 0 ∧ (Binary64.parts x).exponent = -1074 := by
  have hE := toNat_unpackExponent x.toBits.toBitVec
  have hM := toNat_unpackMantissa x.toBits.toBitVec
  rw [UInt64.toNat_toBitVec] at hE hM
  rw [view_eq_unpack_toBits, UnpackedFloat.unpack] at hx
  simp only at hx
  simp only [Binary64.parts, biasedExponent_eq, fraction_eq]
  split at hx
  · split at hx <;> cases hx
  · split at hx
    · rename_i hzero
      split at hx
      · rename_i hmzero
        have hb : x.toBits.toNat / 2 ^ 52 % 2 ^ 11 = 0 := by
          rw [← hE, hzero, BitVec.toNat_zero]
        have hf : x.toBits.toNat % 2 ^ 52 = 0 := by
          rw [← hM, hmzero, BitVec.toNat_zero]
        simp only [Nat.reducePow] at hb hf ⊢
        simp [hb, hf]
      · cases hx
    · cases hx

theorem toNat_packComponents (s : Sign) (E : BitVec 11) (M : BitVec 52) :
    (packComponents .binary64 s E M).toNat =
      s.toBitVec.toNat * 2 ^ 63 + E.toNat * 2 ^ 52 + M.toNat := by
  simp only [packComponents, BitVec.toNat_append]
  rw [← Nat.shiftLeft_add_eq_or_of_lt M.isLt, ← Nat.shiftLeft_add_eq_or_of_lt E.isLt,
    Nat.shiftLeft_eq, Nat.shiftLeft_eq]
  ring

/-- The value that `pack` writes: its bits are the sign, the stored exponent and the stored
fraction, as `packComponents` lays them out. -/
theorem view_pack (neg : Bool) {B F : ℕ} (hB : B < 2047) (hF : F < 2 ^ 52) :
    view (Binary64.pack neg B F) = unpack .binary64 (packComponents .binary64
      (if neg then .negative else .positive) (BitVec.ofNat 11 B) (BitVec.ofNat 52 F)) := by
  have hbits : (UInt64.ofNat ((if neg then Nat.pow 2 63 else 0) + B * Nat.pow 2 52 + F)).toBitVec =
      packComponents .binary64 (if neg then .negative else .positive)
        (BitVec.ofNat 11 B) (BitVec.ofNat 52 F) := by
    apply BitVec.eq_of_toNat_eq
    rw [toNat_packComponents, UInt64.toNat_toBitVec, UInt64.toNat_ofNat', BitVec.toNat_ofNat,
      BitVec.toNat_ofNat, Nat.pow_eq, Nat.pow_eq]
    cases neg
    · simp only [Bool.false_eq_true, if_false]
      show (0 + B * 2 ^ 52 + F) % 2 ^ 64 = 0 * 2 ^ 63 + B % 2 ^ 11 * 2 ^ 52 + F % 2 ^ 52
      omega
    · simp only [if_true]
      show (2 ^ 63 + B * 2 ^ 52 + F) % 2 ^ 64 = 1 * 2 ^ 63 + B % 2 ^ 11 * 2 ^ 52 + F % 2 ^ 52
      omega
  rw [Binary64.pack, view_ofBits, hbits]

section Pack

variable (neg : Bool)

/-- A stored exponent and fraction of zero hold a zero of the given sign. -/
theorem view_pack_zero :
    view (Binary64.pack neg 0 0) = .zero (if neg then .negative else .positive) := by
  rw [view_pack neg (by norm_num) (by norm_num), unpack_packComponents _ _ _ (by decide),
    if_pos rfl, dif_pos rfl]

/-- A stored exponent of zero holds the subnormal `F · 2^-1074`. -/
theorem view_pack_subnormal {F : ℕ} (h0 : 0 < F) (hF : F < 2 ^ 52) :
    view (Binary64.pack neg 0 F) = .finite (if neg then .negative else .positive) F (-1074) h0 := by
  have hM : BitVec.ofNat 52 F ≠ 0#52 := fun h =>
    absurd (congrArg BitVec.toNat h) (by rw [BitVec.toNat_ofNat, Nat.mod_eq_of_lt hF]; simp; omega)
  rw [view_pack neg (by norm_num) hF, unpack_packComponents _ _ _ (by decide), if_pos rfl,
    dif_neg hM]
  simp only [finite.injEq, and_true, true_and, BitVec.toNat_ofNat]
  exact Nat.mod_eq_of_lt hF

/-- Any other stored exponent below `2047` holds the normal `(2^52 + F) · 2^(B - 1075)`. -/
theorem view_pack_normal {B F : ℕ} (hB₀ : 0 < B) (hB : B < 2047) (hF : F < 2 ^ 52) :
    view (Binary64.pack neg B F) =
      .finite (if neg then .negative else .positive) (2 ^ 52 + F) ((B : ℤ) - 1075)
        (Nat.add_pos_left (Nat.two_pow_pos 52) F) := by
  have hE : (BitVec.ofNat 11 B).toNat = B := by
    rw [BitVec.toNat_ofNat]
    omega
  rw [view_pack neg hB hF, unpack_packComponents]
  · rw [if_neg (fun h => by have := congrArg BitVec.toNat h; rw [hE] at this; simp at this; omega)]
    simp only [hE, BitVec.toNat_ofNat, Nat.mod_eq_of_lt hF]
  · intro h
    have := congrArg BitVec.toNat h
    rw [hE] at this
    simp at this
    omega

/-- A stored exponent below `2047` holds a number, never NaN. -/
theorem isNaN_pack {B F : ℕ} (hB : B < 2047) (hF : F < 2 ^ 52) :
    (Binary64.pack neg B F).isNaN = false := by
  have hE : BitVec.ofNat 11 B ≠ -1#11 := fun h => by
    have := congrArg BitVec.toNat h
    simp only [BitVec.toNat_ofNat] at this
    norm_num at this
    omega
  rw [isNaN_eq_view, view_pack neg hB hF, unpack_packComponents _ _ _ hE]
  split_ifs <;> rfl

end Pack

end Airspace.IEEE754
