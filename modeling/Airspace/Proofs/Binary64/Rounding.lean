import Airspace.Proofs.Binary64.Encoding

/-!
# Rounding to binary64

Every arithmetic result is rounded by `roundWithAccuracy`: the mantissa is shifted to the
target exponent (52 below its leading digit, never below the subnormals'), rounded to
nearest-even, and shifted once more when the rounding carries into a 54th bit.

`Bounded N u` says that `u` is zero, or a finite value binary64 holds exactly with magnitude
at most `2^N`. Such a value survives packing and is neither NaN nor infinite. Rounding a
magnitude of at most `2^N` gives a `Bounded (N + 1)` value (`roundWithAccuracy_bounded`,
`normalize_bounded`) as long as `2^(N + 1)` stays inside the finite range; this is what keeps
every result of a chain of operations finite. Rounding never changes a sign
(`sign?_roundWithAccuracy`).
-/

namespace Airspace.IEEE754

open Float.Model UnpackedFloat

/-- The exponent that binary64 rounding gives `m · 2^e`: 52 below its leading digit, and
never below the exponent of the subnormals. -/
theorem targetExponent_eq (m : ℕ) (e : ℤ) :
    Format.binary64.targetExponent (totalExponent m e) = max ((m.log2 : ℤ) + e - 52) (-1074) := by
  simp only [Format.targetExponent, totalExponent, Format.mantissaBits, Format.minExponent]
  norm_num
  omega

theorem mantissa_shiftRight (em : ExtendedMantissa) (k : ℕ) :
    (em >>> k).mantissa = em.mantissa / 2 ^ k := by
  induction k with
  | zero => simp [HShiftRight.hShiftRight, Nat.repeat]
  | succ k ih =>
    show (em >>> k).mantissa / 2 = _
    rw [ih, Nat.div_div_eq_div_mul, Nat.pow_succ]

/-- Rounding to nearest adds at most one to the truncated mantissa. -/
theorem roundedMantissa_mem (em : ExtendedMantissa) :
    em.mantissa ≤ em.roundedMantissa ∧ em.roundedMantissa ≤ em.mantissa + 1 := by
  rcases em with ⟨m, _ | _, _ | _⟩ <;>
    simp only [ExtendedMantissa.roundedMantissa, ExtendedMantissa.accuracy,
      Accuracy.roundToNearestEven] <;> omega

theorem ofMantissaAndAccuracy_mantissa (m : ℕ) (a : Accuracy) :
    (ExtendedMantissa.ofMantissaAndAccuracy m a).mantissa = m := by
  rcases a with _ | (_ | _ | _) <;> rfl

theorem shiftToTargetExponent_mantissa (m : ℕ) (e : ℤ) (a : Accuracy) :
    (shiftToTargetExponent .binary64 m e a).1.mantissa =
      m / 2 ^ (Format.binary64.targetExponent (totalExponent m e) - e).toNat := by
  simp only [shiftToTargetExponent, shiftToExponent, mantissa_shiftRight,
    ofMantissaAndAccuracy_mantissa]

theorem shiftToTargetExponent_exponent (m : ℕ) (e : ℤ) (a : Accuracy) :
    (shiftToTargetExponent .binary64 m e a).2 =
      max e (Format.binary64.targetExponent (totalExponent m e)) := by
  simp only [shiftToTargetExponent, shiftToExponent]
  omega

/-- A mantissa of at most 53 bits at an exponent no lower than the subnormals' is not
shifted again. -/
theorem shiftToTargetExponent_of_lt {r : ℕ} {e : ℤ} (hr : r < 2 ^ 53) (he : -1074 ≤ e) :
    shiftToTargetExponent .binary64 r e .exact = (⟨r, false, false⟩, e) := by
  have hlog : r.log2 ≤ 52 := log2_le_of_lt hr
  have hshift : (Format.binary64.targetExponent (totalExponent r e) - e).toNat = 0 := by
    rw [targetExponent_eq]
    omega
  simp only [shiftToTargetExponent, shiftToExponent, hshift]
  simp only [Nat.cast_zero, add_zero]
  rfl

/-- A carry into the 54th bit is shifted out once, to `2^52` one exponent higher. -/
theorem shiftToTargetExponent_carry {e : ℤ} (he : -1074 ≤ e) :
    shiftToTargetExponent .binary64 (2 ^ 53) e .exact = (⟨2 ^ 52, false, false⟩, e + 1) := by
  have hshift : (Format.binary64.targetExponent (totalExponent (2 ^ 53) e) - e).toNat = 1 := by
    rw [targetExponent_eq, Nat.log2_two_pow]
    omega
  simp only [shiftToTargetExponent, shiftToExponent, hshift]
  simp only [Nat.cast_one]
  rfl

/-- The first shift leaves at most 53 bits, so rounding them gives at most `2^53`. -/
theorem roundedMantissa_shiftToTargetExponent_le (m : ℕ) (e : ℤ) (a : Accuracy) :
    (shiftToTargetExponent .binary64 m e a).1.roundedMantissa ≤ 2 ^ 53 := by
  have hmem := roundedMantissa_mem (shiftToTargetExponent .binary64 m e a).1
  rw [shiftToTargetExponent_mantissa, targetExponent_eq] at hmem
  have hlt : m / 2 ^ (max ((m.log2 : ℤ) + e - 52) (-1074) - e).toNat < 2 ^ 53 := by
    apply Nat.div_lt_of_lt_mul
    calc m < 2 ^ (m.log2 + 1) := Nat.lt_log2_self
      _ ≤ 2 ^ (max ((m.log2 : ℤ) + e - 52) (-1074) - e).toNat * 2 ^ 53 := by
        rw [← Nat.pow_add]
        exact Nat.pow_le_pow_right (by norm_num) (by omega)
  omega

/-- Rounding at the exponent `e₁` that the first shift reaches: zero, the rounded mantissa
at `e₁`, or `2^52` at `e₁ + 1` when rounding carries into a 54th bit. -/
theorem roundWithAccuracy_eq (s : Sign) (m : ℕ) (e : ℤ) (a : Accuracy) :
    roundWithAccuracy .binary64 s m e a =
      if h : (shiftToTargetExponent .binary64 m e a).1.roundedMantissa = 0 then .zero s
      else if (shiftToTargetExponent .binary64 m e a).1.roundedMantissa < 2 ^ 53 then
        .finite s (shiftToTargetExponent .binary64 m e a).1.roundedMantissa
          (shiftToTargetExponent .binary64 m e a).2 (Nat.pos_of_ne_zero h)
      else .finite s (2 ^ 52) ((shiftToTargetExponent .binary64 m e a).2 + 1)
        (Nat.two_pow_pos 52) := by
  have he₁ : -1074 ≤ (shiftToTargetExponent .binary64 m e a).2 := by
    rw [shiftToTargetExponent_exponent, targetExponent_eq]
    omega
  have hr := roundedMantissa_shiftToTargetExponent_le m e a
  generalize hfirst : shiftToTargetExponent .binary64 m e a = first at he₁ hr ⊢
  rcases first with ⟨em, e₁⟩
  dsimp only at he₁ hr ⊢
  rw [roundWithAccuracy, hfirst]
  dsimp only
  by_cases hz : em.roundedMantissa = 0
  · rw [dif_pos hz, hz, shiftToTargetExponent_of_lt (by norm_num) he₁]
    rfl
  · rw [dif_neg hz]
    by_cases hlt : em.roundedMantissa < 2 ^ 53
    · rw [if_pos hlt, shiftToTargetExponent_of_lt hlt he₁]
      dsimp only
      rw [dif_neg hz]
    · rw [if_neg hlt, show em.roundedMantissa = 2 ^ 53 by omega, shiftToTargetExponent_carry he₁]
      dsimp only
      rw [dif_neg (Nat.two_pow_pos 52).ne']

/-! ## Bounded values -/

/-- An unpacked value that is zero or a representable finite value of magnitude at most
`2^N`: what the arithmetic of finite operands gives while it stays clear of overflow. -/
inductive Bounded (N : ℤ) : UnpackedFloat → Prop
  | zero (s : Sign) : Bounded N (.zero s)
  | finite (s : Sign) (m : ℕ) (e : ℤ) (h : 0 < m) (hr : Representable m e)
      (hv : (m : ℚ) * 2 ^ e ≤ 2 ^ N) : Bounded N (.finite s m e h)

namespace Bounded

variable {N N' : ℤ} {u : UnpackedFloat}

theorem mono (h : Bounded N u) (hN : N ≤ N') : Bounded N' u := by
  cases h with
  | zero s => exact .zero s
  | finite s m e hm hr hv =>
    exact .finite s m e hm hr (hv.trans (zpow_le_zpow_right₀ (by norm_num) hN))

/-- A bounded value comes back unchanged from its bit pattern. -/
theorem unpack_pack (h : Bounded N u) : (Float.Model.pack u).unpack = u := by
  cases h with
  | zero s => cases s <;> rfl
  | finite s m e hm hr hv => exact unpack_pack_of_representable hr

theorem isNaN_eq_false (h : Bounded N u) : u.isNaN = false := by
  cases h <;> rfl

theorem isInf_eq_false (h : Bounded N u) : u.isInf = false := by
  cases h <;> rfl

end Bounded

theorem two_zpow_add_natCast (e : ℤ) (k : ℕ) : (2 : ℚ) ^ (e + k) = 2 ^ e * 2 ^ k := by
  rw [zpow_add₀ two_ne_zero, zpow_natCast]

/-- The leading digit of `m · 2^e` lies at or below `2^N` when the value does. -/
theorem log2_add_le {m : ℕ} {e N : ℤ} (hm : 0 < m) (hv : (m : ℚ) * 2 ^ e ≤ 2 ^ N) :
    (m.log2 : ℤ) + e ≤ N := by
  have hlow : (2 : ℚ) ^ m.log2 ≤ m := by exact_mod_cast Nat.log2_self_le hm.ne'
  have h : (2 : ℚ) ^ ((m.log2 : ℤ) + e) ≤ 2 ^ N := by
    rw [add_comm, two_zpow_add_natCast, mul_comm]
    exact le_trans (mul_le_mul_of_nonneg_right hlow (by positivity)) hv
  exact (zpow_le_zpow_iff_right₀ (by norm_num)).mp h

/-- The truncated mantissa at `e + k`, put back at its weight, is at most the value. -/
theorem div_two_pow_mul_le (m k : ℕ) (e : ℤ) :
    ((m / 2 ^ k : ℕ) : ℚ) * 2 ^ (e + k) ≤ m * 2 ^ e := by
  have h : ((m / 2 ^ k : ℕ) : ℚ) * 2 ^ k ≤ m := by
    exact_mod_cast Nat.div_mul_le_self m (2 ^ k)
  rw [two_zpow_add_natCast, mul_comm ((2 : ℚ) ^ e), ← mul_assoc]
  exact mul_le_mul_of_nonneg_right h (by positivity)

section Target

variable (m : ℕ) (e : ℤ) (a : Accuracy)

/-- Rounding from at or below the target exponent `t` adds at most one unit of `2^t` to the
value. -/
theorem roundedMantissa_mul_le (hc : e ≤ Format.binary64.targetExponent (totalExponent m e)) :
    ((shiftToTargetExponent .binary64 m e a).1.roundedMantissa : ℚ) *
        2 ^ Format.binary64.targetExponent (totalExponent m e) ≤
      m * 2 ^ e + 2 ^ Format.binary64.targetExponent (totalExponent m e) := by
  set t := Format.binary64.targetExponent (totalExponent m e) with ht
  have hk : e + ((t - e).toNat : ℕ) = t := by omega
  have hmem := roundedMantissa_mem (shiftToTargetExponent .binary64 m e a).1
  rw [shiftToTargetExponent_mantissa, ← ht] at hmem
  have hdiv := div_two_pow_mul_le m (t - e).toNat e
  rw [hk] at hdiv
  have hr : ((shiftToTargetExponent .binary64 m e a).1.roundedMantissa : ℚ) ≤
      ((m / 2 ^ (t - e).toNat : ℕ) : ℚ) + 1 := by exact_mod_cast hmem.2
  calc ((shiftToTargetExponent .binary64 m e a).1.roundedMantissa : ℚ) * 2 ^ t
      ≤ (((m / 2 ^ (t - e).toNat : ℕ) : ℚ) + 1) * 2 ^ t :=
        mul_le_mul_of_nonneg_right hr (by positivity)
    _ ≤ m * 2 ^ e + 2 ^ t := by linarith

/-- Above the subnormals the target exponent keeps 53 bits of the mantissa, so the rounded
mantissa is at least `2^52`. A zero mantissa has the subnormal target. -/
theorem two_pow_le_roundedMantissa (hc : e ≤ Format.binary64.targetExponent (totalExponent m e))
    (hsub : Format.binary64.targetExponent (totalExponent m e) ≠ -1074) :
    2 ^ 52 ≤ (shiftToTargetExponent .binary64 m e a).1.roundedMantissa := by
  set t := Format.binary64.targetExponent (totalExponent m e) with ht
  have hmem := roundedMantissa_mem (shiftToTargetExponent .binary64 m e a).1
  rw [shiftToTargetExponent_mantissa, ← ht] at hmem
  have hm : 0 < m := by
    rcases Nat.eq_zero_or_pos m with rfl | hm
    · rw [ht, targetExponent_eq] at hc hsub
      simp only [Nat.log2_zero, Nat.cast_zero, zero_add] at hc hsub
      omega
    · exact hm
  have hlog : t = (m.log2 : ℤ) + e - 52 := by
    rw [ht, targetExponent_eq] at hsub ⊢
    omega
  have hshift : (t - e).toNat + 52 = m.log2 := by omega
  have h52 : 2 ^ 52 ≤ m / 2 ^ (t - e).toNat := by
    rw [Nat.le_div_iff_mul_le (Nat.two_pow_pos _), ← Nat.pow_add, add_comm, hshift]
    exact Nat.log2_self_le hm.ne'
  exact h52.trans hmem.1

end Target

/-- Rounding a value of magnitude at most `2^N`, from at or below its target exponent, gives
zero or a representable value of magnitude at most `2^(N + 1)`: the rounded mantissa is at
most one unit of the target exponent above the truncated one, and a carry to `2^53` is written as
`2^52` one exponent higher. The target exponent is at most `N` and below the largest binade. -/
theorem roundWithAccuracy_bounded (s : Sign) {m : ℕ} {e N : ℤ} (a : Accuracy)
    (hc : e ≤ Format.binary64.targetExponent (totalExponent m e))
    (hv : (m : ℚ) * 2 ^ e ≤ 2 ^ N) (hN₀ : -1074 ≤ N) (hN : N ≤ 1022) :
    Bounded (N + 1) (roundWithAccuracy .binary64 s m e a) := by
  set t := Format.binary64.targetExponent (totalExponent m e) with ht
  have hexp : (shiftToTargetExponent .binary64 m e a).2 = t := by
    rw [shiftToTargetExponent_exponent]
    omega
  have htN : t ≤ max (N - 52) (-1074) := by
    rcases Nat.eq_zero_or_pos m with rfl | hm
    · rw [ht, targetExponent_eq] at hc ⊢
      simp only [Nat.log2_zero, Nat.cast_zero, zero_add] at hc ⊢
      omega
    · have hlog := log2_add_le hm hv
      rw [ht, targetExponent_eq]
      omega
  have ht₀ : -1074 ≤ t := by
    rw [ht, targetExponent_eq]
    omega
  have hpow : (2 : ℚ) ^ t ≤ 2 ^ N := zpow_le_zpow_right₀ (by norm_num) (by omega)
  have hval : ((shiftToTargetExponent .binary64 m e a).1.roundedMantissa : ℚ) * 2 ^ t ≤
      2 ^ (N + 1) :=
    calc ((shiftToTargetExponent .binary64 m e a).1.roundedMantissa : ℚ) * 2 ^ t
        ≤ m * 2 ^ e + 2 ^ t := roundedMantissa_mul_le m e a hc
      _ ≤ 2 ^ N + 2 ^ N := add_le_add hv hpow
      _ = 2 ^ (N + 1) := by rw [zpow_add_one₀ two_ne_zero]; ring
  rw [roundWithAccuracy_eq, hexp]
  split_ifs with hz hlt
  · exact .zero s
  · refine .finite _ _ _ _ ⟨hlt, by omega, by omega, ?_⟩ hval
    by_cases hsub : t = -1074
    · exact Or.inr hsub
    · exact Or.inl (two_pow_le_roundedMantissa m e a hc hsub)
  · have hr : (shiftToTargetExponent .binary64 m e a).1.roundedMantissa = 2 ^ 53 := by
      have hle := roundedMantissa_shiftToTargetExponent_le m e a
      omega
    refine .finite _ _ _ _ ⟨by norm_num, by omega, by omega, Or.inl le_rfl⟩ ?_
    rw [hr] at hval
    calc ((2 ^ 52 : ℕ) : ℚ) * 2 ^ (t + 1) = ((2 ^ 53 : ℕ) : ℚ) * 2 ^ t := by
          rw [zpow_add_one₀ two_ne_zero]; push_cast; ring
      _ ≤ 2 ^ (N + 1) := hval

theorem log2_shiftLeft {m : ℕ} (hm : 0 < m) (k : ℕ) : (m <<< k).log2 = m.log2 + k := by
  rw [Nat.shiftLeft_eq]
  refine (Nat.log2_eq_iff (by positivity)).mpr ⟨?_, ?_⟩
  · rw [Nat.pow_add]
    exact Nat.mul_le_mul_right _ (Nat.log2_self_le hm.ne')
  · rw [show m.log2 + k + 1 = (m.log2 + 1) + k by omega, Nat.pow_add]
    exact Nat.mul_lt_mul_of_pos_right Nat.lt_log2_self (Nat.two_pow_pos k)

/-- Rounding a nonzero value of magnitude at most `2^N` gives zero or a representable value
of magnitude at most `2^(N + 1)`. Moving the mantissa left keeps the value and the leading digit, and
so the target exponent. -/
theorem round_bounded (s : Sign) {m : ℕ} {e N : ℤ} (hm : 0 < m)
    (hv : (m : ℚ) * 2 ^ e ≤ 2 ^ N) (hN₀ : -1074 ≤ N) (hN : N ≤ 1022) :
    Bounded (N + 1) (round .binary64 s m e) := by
  set k := (e - Format.binary64.targetExponent (totalExponent m e)).toNat with hk
  have hlog := log2_shiftLeft hm k
  have htarget : Format.binary64.targetExponent (totalExponent (m <<< k) (e - k)) =
      Format.binary64.targetExponent (totalExponent m e) := by
    rw [targetExponent_eq, targetExponent_eq, hlog]
    omega
  have hvalue : ((m <<< k : ℕ) : ℚ) * 2 ^ (e - k) = m * 2 ^ e := by
    rw [Nat.shiftLeft_eq, Nat.cast_mul, Nat.cast_pow, Nat.cast_ofNat, mul_assoc,
      ← zpow_natCast, ← zpow_add₀ two_ne_zero]
    congr 2
    omega
  show Bounded (N + 1) (roundWithAccuracy .binary64 s (m <<< k) (e - k) .exact)
  refine roundWithAccuracy_bounded s .exact ?_ (hvalue ▸ hv) hN₀ hN
  rw [htarget, hk]
  omega

/-- Normalizing a signed mantissa of magnitude at most `2^N`: zero stays zero, anything else
is rounded within `2^(N + 1)`. -/
theorem normalize_bounded {M e N : ℤ} (zs : Sign) (hv : |(M : ℚ)| * 2 ^ e ≤ 2 ^ N)
    (hN₀ : -1074 ≤ N) (hN : N ≤ 1022) : Bounded (N + 1) (normalize .binary64 M e zs) := by
  unfold UnpackedFloat.normalize
  rcases lt_trichotomy M 0 with hneg | rfl | hpos
  · rw [Int.compare_eq_lt.mpr hneg]
    have hcast : (((-M).toNat : ℕ) : ℚ) = |(M : ℚ)| := by
      rw [abs_of_neg (by exact_mod_cast hneg)]
      exact_mod_cast Int.toNat_of_nonneg (by omega)
    exact round_bounded _ (by omega) (hcast ▸ hv) hN₀ hN
  · exact .zero zs
  · rw [Int.compare_eq_gt.mpr hpos]
    have hcast : ((M.toNat : ℕ) : ℚ) = |(M : ℚ)| := by
      rw [abs_of_pos (by exact_mod_cast hpos)]
      exact_mod_cast Int.toNat_of_nonneg (by omega)
    exact round_bounded _ (by omega) (hcast ▸ hv) hN₀ hN

/-! ## Signs of rounded values -/

theorem sign?_roundWithAccuracy (s : Sign) (m : ℕ) (e : ℤ) (a : Accuracy) :
    sign? (roundWithAccuracy .binary64 s m e a) = some s := by
  rw [roundWithAccuracy_eq]
  split_ifs <;> rfl

/-- A nonnegative sum normalizes, with a positive zero, to a value of positive sign. -/
theorem sign?_normalize_of_nonneg {M : ℤ} (e : ℤ) (hM : 0 ≤ M) :
    sign? (normalize .binary64 M e .positive) = some .positive := by
  unfold UnpackedFloat.normalize
  rcases hM.lt_or_eq with hpos | rfl
  · rw [Int.compare_eq_gt.mpr hpos]
    exact sign?_roundWithAccuracy _ _ _ _
  · rfl

/-- Packing and unpacking keeps the sign of any value. -/
theorem sign?_unpack_pack (u : UnpackedFloat) :
    sign? (Float.Model.pack u).unpack = sign? u := by
  rcases u with (_ | _) | _ | (_ | _) | ⟨s, m, e, h⟩
  all_goals try rfl
  exact sign?_unpack_pack_finite s m e h

/-- A significand scaled up by `2^(e' - e)` and read at exponent `e` keeps its value. -/
theorem natCast_mul_two_pow_toNat (m : ℕ) {e e' : ℤ} (h : e ≤ e') :
    ((m * 2 ^ (e' - e).toNat : ℕ) : ℚ) * 2 ^ e = m * 2 ^ e' := by
  rw [Nat.cast_mul, Nat.cast_pow, Nat.cast_ofNat, mul_assoc,
    mul_comm ((2 : ℚ) ^ (e' - e).toNat), ← two_zpow_add_natCast]
  congr 2
  omega

end Airspace.IEEE754
