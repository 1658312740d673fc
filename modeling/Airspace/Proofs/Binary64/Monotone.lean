import Airspace.Proofs.Binary64.Arithmetic

/-!
# Binary64 rounding is monotone

A binary64 sum or quotient is the exact result rounded once to the nearest value binary64
holds, a tie going to the even significand, and a value past the largest finite one becoming
`+∞`. Rounding in this way never reverses an order, so on values that are not negative a sum
grows with its operands and a quotient by a positive divisor with its dividend.

* `roundEven` rounds a rational to the nearest integer, a tie going to the even one; it is
  monotone (`roundEven_mono`).
* `Describes em v`: an extended mantissa of the model, a truncated significand with its round
  and sticky bits, says exactly where `v` lies between two integers. A shift right halves
  `v` (`Describes.shiftRight`), and rounding the mantissa gives `roundEven v`
  (`Describes.roundedMantissa`).
* `roundedPos r`: the binary64 value nearest a positive rational `r`, unpacked, before packing
  sends an exponent past the largest to `+∞`. The model's rounding computes it
  (`roundWithAccuracy_eq_roundedPos`, `round_eq_roundedPos`, `div_eq_roundedPos`), and its
  place in the order grows with `r` (`orderKey_roundedPos_mono`).
* `add_le_add_of_nonneg`, `div_le_div_of_nonneg`: the monotonicity of the two operations on
  values that are not negative, `+∞` included.
-/

namespace Airspace.IEEE754

open Float.Model UnpackedFloat

/-! ## Nearest-even rounding of a rational -/

/-- `v` rounded to the nearest integer, a tie going to the even one. -/
def roundEven (v : ℚ) : ℤ :=
  if v - ⌊v⌋ < 1 / 2 then ⌊v⌋ else if 1 / 2 < v - ⌊v⌋ then ⌊v⌋ + 1 else ⌊v⌋ + ⌊v⌋ % 2

theorem roundEven_bounds (v : ℚ) : ⌊v⌋ ≤ roundEven v ∧ roundEven v ≤ ⌊v⌋ + 1 := by
  have h0 := Int.emod_nonneg ⌊v⌋ (by norm_num : (2 : ℤ) ≠ 0)
  have h1 := Int.emod_lt_of_pos ⌊v⌋ (by norm_num : (0 : ℤ) < 2)
  unfold roundEven
  split_ifs <;> omega

@[simp] theorem roundEven_intCast (k : ℤ) : roundEven k = k := by
  simp [roundEven]

@[simp] theorem roundEven_natCast (k : ℕ) : roundEven k = k := by
  simpa using roundEven_intCast k

/-- Rounding to the nearest integer never reverses an order. Across integer parts one value
rounds to at most the next integer and the other to at least it; within one integer part the
fractional parts are ordered as the values are, and a tie is resolved the same way for
both. -/
theorem roundEven_mono {v w : ℚ} (h : v ≤ w) : roundEven v ≤ roundEven w := by
  rcases (Int.floor_mono h).lt_or_eq with hlt | heq
  · have := (roundEven_bounds v).2
    have := (roundEven_bounds w).1
    omega
  · have hfrac : v - ⌊w⌋ ≤ w - ⌊w⌋ := by linarith
    have h0 := Int.emod_nonneg ⌊w⌋ (by norm_num : (2 : ℤ) ≠ 0)
    have h1 := Int.emod_lt_of_pos ⌊w⌋ (by norm_num : (0 : ℤ) < 2)
    unfold roundEven
    rw [heq]
    split_ifs <;> first | omega | linarith

/-! ## Extended mantissas -/

/-- What an extended mantissa of the model says of the exact value `v` it stands for: the
mantissa is the integer part of `v`, the round bit says whether the rest is at least one
half, and the sticky bit whether it is anything but zero or one half. -/
def Describes (em : ExtendedMantissa) (v : ℚ) : Prop :=
  if em.roundBit then
    if em.stickyBit then (em.mantissa : ℚ) + 1 / 2 < v ∧ v < em.mantissa + 1
    else v = em.mantissa + 1 / 2
  else
    if em.stickyBit then (em.mantissa : ℚ) < v ∧ v < em.mantissa + 1 / 2
    else v = em.mantissa

namespace Describes

variable {em : ExtendedMantissa} {v : ℚ}

theorem mantissa_le (h : Describes em v) : (em.mantissa : ℚ) ≤ v := by
  rcases em with ⟨m, _ | _, _ | _⟩ <;> simp only [Describes] at h <;> grind

theorem lt_mantissa_add_one (h : Describes em v) : v < em.mantissa + 1 := by
  rcases em with ⟨m, _ | _, _ | _⟩ <;> simp only [Describes] at h <;> grind

theorem floor_eq (h : Describes em v) : ⌊v⌋ = em.mantissa :=
  Int.floor_eq_iff.mpr ⟨by exact_mod_cast h.mantissa_le, by exact_mod_cast h.lt_mantissa_add_one⟩

/-- Rounding the mantissa by its round and sticky bits is rounding the value it stands
for. -/
theorem roundedMantissa (h : Describes em v) : (em.roundedMantissa : ℤ) = roundEven v := by
  have hf := h.floor_eq
  unfold roundEven
  rw [hf]
  rcases em with ⟨m, _ | _, _ | _⟩ <;>
    simp only [Describes, ExtendedMantissa.roundedMantissa, ExtendedMantissa.accuracy,
      Accuracy.roundToNearestEven, Bool.false_eq_true, if_false, if_true] at h ⊢
  all_goals push_cast
  all_goals split_ifs <;> first | omega | linarith

/-- A shift right by one halves the value a mantissa stands for: the bit shifted out
becomes the round bit, and the old round and sticky bits the new sticky bit. -/
theorem shiftRightOne (h : Describes em v) : Describes em.shiftRightOne (v / 2) := by
  rcases em with ⟨m, r, s⟩
  have hm : ((m % 2 : ℕ) : ℚ) + 2 * ((m / 2 : ℕ) : ℚ) = m := by exact_mod_cast Nat.mod_add_div m 2
  have hr : m % 2 = 0 ∨ m % 2 = 1 := by omega
  cases r <;> cases s <;> rcases hr with hr | hr <;>
    simp_all [Describes, ExtendedMantissa.shiftRightOne] <;>
    (try constructor) <;> linarith

theorem shiftRight (h : Describes em v) (k : ℕ) : Describes (em >>> k) (v / 2 ^ k) := by
  induction k with
  | zero =>
    change Describes em (v / 2 ^ 0)
    simpa using h
  | succ k ih =>
    have hk := ih.shiftRightOne
    rw [pow_succ, ← div_div]
    exact hk

end Describes

/-- An exact significand stands for itself. -/
theorem describes_exact (m : ℕ) : Describes (.ofMantissaAndAccuracy m .exact) m := by
  simp [Describes, ExtendedMantissa.ofMantissaAndAccuracy]

/-- The quotient `q` with the accuracy of the remainder `r < d` stands for `q + r / d`. -/
theorem describes_fraction (q : ℕ) {r d : ℕ} (hrd : r < d) :
    Describes (.ofMantissaAndAccuracy q (accuracyOfFraction r d)) (q + r / d) := by
  have hd : (0 : ℚ) < d := by exact_mod_cast (Nat.zero_le r).trans_lt hrd
  have hrd' : (r : ℚ) / d < 1 := (div_lt_one hd).mpr (by exact_mod_cast hrd)
  unfold accuracyOfFraction
  by_cases hr : r = 0
  · simp [hr, Describes, ExtendedMantissa.ofMantissaAndAccuracy]
  · have hr' : (0 : ℚ) < r / d := div_pos (by exact_mod_cast Nat.pos_of_ne_zero hr) hd
    rw [if_neg hr]
    rcases hc : compare (2 * r) d with _ | _ | _
    · have h2 : 2 * r < d := Nat.compare_eq_lt.mp hc
      have : (r : ℚ) / d < 1 / 2 := by
        rw [div_lt_div_iff₀ hd (by norm_num)]
        exact_mod_cast (by omega : r * 2 < 1 * d)
      simp only [Describes, ExtendedMantissa.ofMantissaAndAccuracy]
      constructor <;> linarith
    · have h2 : 2 * r = d := Nat.compare_eq_eq.mp hc
      have : (r : ℚ) / d = 1 / 2 := by
        rw [div_eq_div_iff hd.ne' (by norm_num)]
        exact_mod_cast (by omega : r * 2 = 1 * d)
      simp [Describes, ExtendedMantissa.ofMantissaAndAccuracy, this]
    · have h2 : d < 2 * r := Nat.compare_eq_gt.mp hc
      have : 1 / 2 < (r : ℚ) / d := by
        rw [div_lt_div_iff₀ (by norm_num) hd]
        exact_mod_cast (by omega : 1 * d < r * 2)
      simp only [Describes, ExtendedMantissa.ofMantissaAndAccuracy]
      constructor <;> linarith

/-! ## The binary64 value nearest a positive rational -/

/-- The exponent of the last digit binary64 keeps of `r > 0`: 52 below its leading digit,
and never below the exponent of the subnormals. -/
def quantumExponent (r : ℚ) : ℤ := max (Int.log 2 r - 52) (-1074)

/-- The significand of `r > 0` rounded at its quantum; `2^53` when rounding carries into a
54th digit. -/
def roundedSignificand (r : ℚ) : ℕ := (roundEven (r / 2 ^ quantumExponent r)).toNat

/-- The binary64 value nearest `r > 0`, unpacked: zero below half the least subnormal, and a
carry into a 54th digit renormalized to `2^52` one binade higher. Packing then sends an
exponent past the largest to `+∞`. -/
def roundedPos (r : ℚ) : UnpackedFloat :=
  if h : roundedSignificand r = 0 then .zero .positive
  else if roundedSignificand r < 2 ^ 53 then
    .finite .positive (roundedSignificand r) (quantumExponent r) (Nat.pos_of_ne_zero h)
  else .finite .positive (2 ^ 52) (quantumExponent r + 1) (Nat.two_pow_pos 52)

theorem log_eq_of_le_of_lt {r : ℚ} {k : ℤ} (hlo : (2 : ℚ) ^ k ≤ r) (hhi : r < 2 ^ (k + 1)) :
    Int.log 2 r = k := by
  have hr : 0 < r := lt_of_lt_of_le (by positivity) hlo
  have hlt := (Int.lt_zpow_iff_log_lt (b := 2) (by norm_num) hr).mp (by exact_mod_cast hhi)
  have hle := (Int.zpow_le_iff_le_log (b := 2) (by norm_num) hr).mp (by exact_mod_cast hlo)
  omega

/-- A value in `[q, q + 1)` for a positive integer `q` has its leading binary digit where `q`
has it. -/
theorem log_mul_zpow {q : ℕ} (hq : 0 < q) {v : ℚ} (hlo : (q : ℚ) ≤ v) (hhi : v < q + 1)
    (e : ℤ) : Int.log 2 (v * 2 ^ e) = q.log2 + e := by
  have hpow : ((2 ^ q.log2 : ℕ) : ℚ) ≤ q := by exact_mod_cast Nat.log2_self_le hq.ne'
  have hnext : (q : ℚ) + 1 ≤ ((2 ^ (q.log2 + 1) : ℕ) : ℚ) := by exact_mod_cast Nat.lt_log2_self
  push_cast at hpow hnext
  apply log_eq_of_le_of_lt
  · rw [zpow_add₀ two_ne_zero, zpow_natCast]
    exact mul_le_mul_of_nonneg_right (hpow.trans hlo) (by positivity)
  · rw [add_right_comm, zpow_add₀ two_ne_zero, ← Nat.cast_succ, zpow_natCast]
    exact mul_lt_mul_of_pos_right (hhi.trans_le hnext) (by positivity)

theorem neg_le_quantumExponent (r : ℚ) : -1074 ≤ quantumExponent r := le_max_right _ _

theorem quantumExponent_mono {r r' : ℚ} (hr : 0 < r) (h : r ≤ r') :
    quantumExponent r ≤ quantumExponent r' := by
  have := Int.log_mono_right (b := 2) hr h
  unfold quantumExponent
  omega

/-- Scaled to its quantum, `r` has at most 53 binary digits. -/
theorem div_zpow_quantumExponent_lt (r : ℚ) : r / 2 ^ quantumExponent r < 2 ^ 53 := by
  have hhi : r < 2 ^ (Int.log 2 r + 1) := by
    exact_mod_cast Int.lt_zpow_succ_log_self (b := 2) (by norm_num) r
  rw [div_lt_iff₀ (by positivity)]
  calc r < 2 ^ (Int.log 2 r + 1) := hhi
    _ ≤ 2 ^ ((53 : ℤ) + quantumExponent r) :=
      zpow_le_zpow_right₀ (by norm_num) (by unfold quantumExponent; omega)
    _ = 2 ^ 53 * 2 ^ quantumExponent r := by rw [zpow_add₀ two_ne_zero]; norm_num

/-- Above the subnormals, `r` scaled to its quantum has all 53 binary digits. -/
theorem le_div_zpow_quantumExponent {r : ℚ} (hr : 0 < r) (hE : -1074 < quantumExponent r) :
    2 ^ 52 ≤ r / 2 ^ quantumExponent r := by
  have hlo : (2 : ℚ) ^ Int.log 2 r ≤ r := by
    exact_mod_cast Int.zpow_log_le_self (b := 2) (by norm_num) hr
  have hq : Int.log 2 r = 52 + quantumExponent r := by
    unfold quantumExponent at hE ⊢
    omega
  rw [le_div_iff₀ (by positivity)]
  calc (2 : ℚ) ^ 52 * 2 ^ quantumExponent r = 2 ^ Int.log 2 r := by
        rw [hq, zpow_add₀ two_ne_zero]; norm_num
    _ ≤ r := hlo

theorem roundedSignificand_le (r : ℚ) : roundedSignificand r ≤ 2 ^ 53 := by
  have h := roundEven_mono (div_zpow_quantumExponent_lt r).le
  rw [show ((2 : ℚ) ^ 53) = ((2 ^ 53 : ℕ) : ℚ) by norm_num, roundEven_natCast] at h
  unfold roundedSignificand
  omega

theorem le_roundedSignificand {r : ℚ} (hr : 0 < r) (hE : -1074 < quantumExponent r) :
    2 ^ 52 ≤ roundedSignificand r := by
  have h := roundEven_mono (le_div_zpow_quantumExponent hr hE)
  rw [show ((2 : ℚ) ^ 52) = ((2 ^ 52 : ℕ) : ℚ) by norm_num, roundEven_natCast] at h
  unfold roundedSignificand
  omega

/-- At one quantum, a larger value has a significand at least as large. -/
theorem roundedSignificand_mono {r r' : ℚ} (h : r ≤ r')
    (hE : quantumExponent r = quantumExponent r') :
    roundedSignificand r ≤ roundedSignificand r' := by
  have hdiv : r / 2 ^ quantumExponent r ≤ r' / 2 ^ quantumExponent r' := by
    rw [hE]
    exact div_le_div_of_nonneg_right h (by positivity)
  have := roundEven_mono hdiv
  unfold roundedSignificand
  omega

/-! ## The model's rounding -/

/-- The model's rounding of a significand `m` at exponent `e`, with the accuracy of what lies
below it, gives the value nearest the exact `v · 2^e` that they stand for, once the
significand has 53 binary digits or the exponent is the subnormals' already. The exponent the model
rounds at is the quantum of the exact value; below one the value lies under `2^e`, where only the
subnormals' exponent is left. -/
theorem roundWithAccuracy_eq_roundedPos {m : ℕ} {e : ℤ} {acc : Accuracy} {v : ℚ}
    (hv : Describes (.ofMantissaAndAccuracy m acc) v) (hpos : 0 < v)
    (hm : 2 ^ 52 ≤ m ∨ e ≤ -1074) :
    roundWithAccuracy .binary64 .positive m e acc = roundedPos (v * 2 ^ e) := by
  have hlo : (m : ℚ) ≤ v := by simpa [ofMantissaAndAccuracy_mantissa] using hv.mantissa_le
  have hhi : v < m + 1 := by simpa [ofMantissaAndAccuracy_mantissa] using hv.lt_mantissa_add_one
  have htarget : Format.binary64.targetExponent (totalExponent m e) =
      quantumExponent (v * 2 ^ e) := by
    rw [targetExponent_eq]
    unfold quantumExponent
    rcases Nat.eq_zero_or_pos m with rfl | hm0
    · have he : e ≤ -1074 := by omega
      have hlog : Int.log 2 (v * 2 ^ e) < e := by
        refine (Int.lt_zpow_iff_log_lt (b := 2) (by norm_num) (by positivity)).mp ?_
        push_cast
        exact mul_lt_of_lt_one_left (by positivity) (by simpa using hhi)
      simp only [Nat.log2_zero, CharP.cast_eq_zero, zero_add]
      omega
    · rw [log_mul_zpow hm0 hlo hhi e]
  have hle : e ≤ quantumExponent (v * 2 ^ e) := by
    rw [← htarget, targetExponent_eq]
    rcases hm with hm | hm
    · have := (Nat.le_log2 (by omega)).mpr hm
      omega
    · omega
  set E := quantumExponent (v * 2 ^ e) with hE
  have hshift : shiftToTargetExponent .binary64 m e acc =
      ((ExtendedMantissa.ofMantissaAndAccuracy m acc) >>> (E - e).toNat, E) := by
    simp only [shiftToTargetExponent, shiftToExponent, htarget]
    congr 1
    omega
  have hscaled : v / 2 ^ (E - e).toNat = v * 2 ^ e / 2 ^ E := by
    rw [← zpow_natCast, Int.toNat_of_nonneg (by omega), zpow_sub₀ two_ne_zero]
    field_simp
  have hround : (shiftToTargetExponent .binary64 m e acc).1.roundedMantissa =
      roundedSignificand (v * 2 ^ e) := by
    have h := (hv.shiftRight (E - e).toNat).roundedMantissa
    rw [hscaled] at h
    rw [hshift, roundedSignificand, ← hE]
    dsimp only
    omega
  have hexp : (shiftToTargetExponent .binary64 m e acc).2 = E := by rw [hshift]
  rw [roundWithAccuracy_eq]
  unfold roundedPos
  generalize (shiftToTargetExponent .binary64 m e acc).1.roundedMantissa = q at hround ⊢
  generalize (shiftToTargetExponent .binary64 m e acc).2 = E' at hexp ⊢
  subst hround hexp
  rfl

theorem decreaseExponent_mul_zpow (m : ℕ) (e t : ℤ) :
    ((decreaseExponent m e t).1 : ℚ) * 2 ^ (decreaseExponent m e t).2 = m * 2 ^ e := by
  simp only [decreaseExponent, Nat.shiftLeft_eq, Nat.cast_mul, Nat.cast_pow, Nat.cast_ofNat]
  rw [mul_assoc, ← zpow_natCast, ← zpow_add₀ two_ne_zero]
  congr 2
  omega

/-- Rounding an exact positive significand at an exponent gives the nearest value. The significand
is widened to 53 digits unless the subnormals' exponent stops it. -/
theorem round_eq_roundedPos {m : ℕ} (hm : 0 < m) (e : ℤ) :
    UnpackedFloat.round .binary64 .positive m e = roundedPos (m * 2 ^ e) := by
  have hT := targetExponent_eq m e
  have hv := decreaseExponent_mul_zpow m e (Format.binary64.targetExponent (totalExponent m e))
  unfold UnpackedFloat.round
  generalize Format.binary64.targetExponent (totalExponent m e) = T at hT hv ⊢
  dsimp only
  have hpos : 0 < (decreaseExponent m e T).1 := by
    simp only [decreaseExponent, Nat.shiftLeft_eq]
    positivity
  have hwide : 2 ^ 52 ≤ (decreaseExponent m e T).1 ∨ (decreaseExponent m e T).2 ≤ -1074 := by
    simp only [decreaseExponent] at hpos ⊢
    have hlog := log2_shiftLeft hm (e - T).toNat
    have hself := Nat.log2_self_le hpos.ne'
    by_cases hbig : (52 : ℤ) ≤ (m <<< (e - T).toNat).log2
    · left
      exact (Nat.pow_le_pow_right (by norm_num) (by omega)).trans hself
    · right
      omega
  rw [roundWithAccuracy_eq_roundedPos (describes_exact _) (by exact_mod_cast hpos) hwide, hv]

/-- A dividend shifted left far enough beyond the divisor gives a quotient of at least 53
binary digits. -/
theorem two_pow_le_mul_div {m₁ m₂ k : ℕ} (h₁ : 0 < m₁) (h₂ : 0 < m₂)
    (hk : m₂.log2 + 53 ≤ m₁.log2 + k) : 2 ^ 52 ≤ m₁ * 2 ^ k / m₂ := by
  rw [Nat.le_div_iff_mul_le h₂]
  calc 2 ^ 52 * m₂ ≤ 2 ^ 52 * 2 ^ (m₂.log2 + 1) := Nat.mul_le_mul_left _ Nat.lt_log2_self.le
    _ = 2 ^ (m₂.log2 + 53) := by rw [← Nat.pow_add]; ring_nf
    _ ≤ 2 ^ (m₁.log2 + k) := Nat.pow_le_pow_right (by norm_num) hk
    _ = 2 ^ m₁.log2 * 2 ^ k := Nat.pow_add _ _ _
    _ ≤ m₁ * 2 ^ k := Nat.mul_le_mul_right _ (Nat.log2_self_le h₁.ne')

/-- The quotient of two positive values is the value nearest the exact quotient. The exact quotient
is `N / m₂` at the target exponent. Above the subnormals the quotient keeps 53 digits: `N` has at least
53 more than `m₂`. -/
theorem div_eq_roundedPos {m₁ m₂ : ℕ} (h₁ : 0 < m₁) (h₂ : 0 < m₂) (e₁ e₂ : ℤ) :
    UnpackedFloat.div .binary64 (.finite .positive m₁ e₁ h₁) (.finite .positive m₂ e₂ h₂) =
      roundedPos (m₁ * 2 ^ e₁ / (m₂ * 2 ^ e₂)) := by
  set target := min (e₁ - e₂)
    (Format.binary64.targetExponent (totalExponent m₁ e₁ - totalExponent m₂ e₂)) with htarget
  have htarget' : target = min (e₁ - e₂)
      (max ((m₁.log2 : ℤ) - m₂.log2 + e₁ - e₂ - 53) (-1074)) := by
    simp only [htarget, Format.targetExponent, totalExponent, Format.mantissaBits,
      Format.minExponent]
    norm_num
    omega
  set shift := (e₁ - e₂ - target).toNat with hshift
  set N := m₁ <<< shift with hN
  have hN' : N = m₁ * 2 ^ shift := Nat.shiftLeft_eq _ _
  have hNpos : 0 < N := by rw [hN']; positivity
  have hsplit : ((N / m₂ : ℕ) : ℚ) + ((N % m₂ : ℕ) : ℚ) / m₂ = N / m₂ := by
    have := Nat.div_add_mod N m₂
    field_simp
    exact_mod_cast (by rw [Nat.mul_comm]; omega : N / m₂ * m₂ + N % m₂ = N)
  have hvalue : ((N / m₂ : ℕ) + ((N % m₂ : ℕ) : ℚ) / m₂) * 2 ^ target =
      m₁ * 2 ^ e₁ / (m₂ * 2 ^ e₂) := by
    have hpow : (2 : ℚ) ^ e₁ = 2 ^ shift * 2 ^ target * 2 ^ e₂ := by
      rw [← zpow_natCast, ← zpow_add₀ two_ne_zero, ← zpow_add₀ two_ne_zero]
      congr 1
      omega
    rw [hsplit, hN', hpow]
    push_cast
    field_simp
  have hpos : (0 : ℚ) < (N / m₂ : ℕ) + ((N % m₂ : ℕ) : ℚ) / m₂ := by
    rw [hsplit]
    positivity
  have hwide : 2 ^ 52 ≤ N / m₂ ∨ target ≤ -1074 := by
    by_cases hsub : target ≤ -1074
    · exact Or.inr hsub
    · rw [hN']
      exact Or.inl (two_pow_le_mul_div h₁ h₂ (by omega))
  rw [← hvalue, ← roundWithAccuracy_eq_roundedPos
    (describes_fraction (N / m₂) (Nat.mod_lt N h₂)) hpos hwide]
  rfl

/-! ## The order of nearest values -/

/-- A canonical positive value comes back from packing unchanged, or as `+∞` past the
largest exponent. -/
theorem unpack_pack_positive {q : ℕ} {E : ℤ} (h : 0 < q) (hq : q < 2 ^ 53) (hE : -1074 ≤ E)
    (hn : 2 ^ 52 ≤ q ∨ E = -1074) :
    (Float.Model.pack (.finite .positive q E h)).unpack =
      if 972 ≤ E then .infinity .positive else .finite .positive q E h := by
  split_ifs with hbig
  · rw [unpack_model_pack, pack_finite, if_pos (by omega), unpack_packedInfinity]
  · exact unpack_pack_of_representable ⟨hq, hE, by omega, hn⟩

/-- The nearest value to `r > 0`, packed: zero, a positive finite value or `+∞`. -/
theorem pack_roundedPos_cases {r : ℚ} (hr : 0 < r) :
    (Float.Model.pack (roundedPos r)).unpack = .zero .positive ∨
      (Float.Model.pack (roundedPos r)).unpack = .infinity .positive ∨
      ∃ q E h, (Float.Model.pack (roundedPos r)).unpack = .finite .positive q E h := by
  have hmin := neg_le_quantumExponent r
  have hn : -1074 < quantumExponent r → 2 ^ 52 ≤ roundedSignificand r := le_roundedSignificand hr
  unfold roundedPos
  split_ifs with h0 hlt
  · exact Or.inl rfl
  · rw [unpack_pack_positive (Nat.pos_of_ne_zero h0) hlt hmin (by omega)]
    split_ifs
    · exact Or.inr (Or.inl rfl)
    · exact Or.inr (Or.inr ⟨_, _, Nat.pos_of_ne_zero h0, rfl⟩)
  · rw [unpack_pack_positive _ (by norm_num) (by omega) (Or.inl le_rfl)]
    split_ifs
    · exact Or.inr (Or.inl rfl)
    · exact Or.inr (Or.inr ⟨_, _, Nat.two_pow_pos 52, rfl⟩)

/-- Where the nearest value to `r > 0` stands in the order once packed: by its exponent and
significand, above every finite value when it overflows. -/
theorem orderKey_pack_roundedPos {r : ℚ} (hr : 0 < r) :
    orderKey (Float.Model.pack (roundedPos r)).unpack =
      if roundedSignificand r = 0 then toLex (2, toLex (0, 0))
      else if roundedSignificand r < 2 ^ 53 then
        if 972 ≤ quantumExponent r then toLex (4, toLex (0, 0))
        else toLex (3, toLex (quantumExponent r, (roundedSignificand r : ℤ)))
      else if 971 ≤ quantumExponent r then toLex (4, toLex (0, 0))
      else toLex (3, toLex (quantumExponent r + 1, 2 ^ 52)) := by
  have hmin := neg_le_quantumExponent r
  have hn : -1074 < quantumExponent r → 2 ^ 52 ≤ roundedSignificand r := le_roundedSignificand hr
  unfold roundedPos
  by_cases h0 : roundedSignificand r = 0
  · rw [dif_pos h0, if_pos h0]
    rfl
  · rw [dif_neg h0, if_neg h0]
    by_cases hlt : roundedSignificand r < 2 ^ 53
    · rw [if_pos hlt, if_pos hlt, unpack_pack_positive _ hlt hmin (by omega)]
      split_ifs <;> rfl
    · rw [if_neg hlt, if_neg hlt, unpack_pack_positive _ (by norm_num) (by omega) (Or.inl le_rfl)]
      split_ifs <;> first | rfl | omega

/-- The nearest value grows with `r`: packed, its place in the order never goes down. Over
one quantum the significands are ordered; a larger quantum starts above every significand a
smaller one can reach, a carry included. -/
theorem orderKey_roundedPos_mono {r r' : ℚ} (hr : 0 < r) (h : r ≤ r') :
    orderKey (Float.Model.pack (roundedPos r)).unpack ≤
      orderKey (Float.Model.pack (roundedPos r')).unpack := by
  have hr' := hr.trans_le h
  have hE := quantumExponent_mono hr h
  have hmin := neg_le_quantumExponent r
  have hq := roundedSignificand_le r
  have hq' := roundedSignificand_le r'
  have hn' : -1074 < quantumExponent r' → 2 ^ 52 ≤ roundedSignificand r' :=
    le_roundedSignificand hr'
  have hsame : quantumExponent r = quantumExponent r' →
      roundedSignificand r ≤ roundedSignificand r' := roundedSignificand_mono h
  rw [orderKey_pack_roundedPos hr, orderKey_pack_roundedPos hr']
  generalize quantumExponent r = E at *
  generalize quantumExponent r' = E' at *
  generalize roundedSignificand r = q at *
  generalize roundedSignificand r' = q' at *
  split_ifs <;> simp only [Prod.Lex.toLex_le_toLex, true_and] <;> omega

/-- A positive representable value is its own nearest value. -/
theorem roundedPos_of_representable {m : ℕ} {e : ℤ} (h : 0 < m) (hr : Representable m e) :
    roundedPos (m * 2 ^ e) = .finite .positive m e h := by
  have hlt := hr.lt_two_pow
  have hmin := hr.min_le
  have hlog := log2_le_of_lt hlt
  have hE : quantumExponent (m * 2 ^ e) = e := by
    unfold quantumExponent
    rw [log_mul_zpow h le_rfl (by linarith) e]
    rcases hr.normal_or_subnormal with hn | hs
    · have := (Nat.le_log2 h.ne').mpr hn
      omega
    · omega
  have hq : roundedSignificand (m * 2 ^ e) = m := by
    rw [roundedSignificand, hE, mul_div_cancel_right₀ _ (zpow_ne_zero _ two_ne_zero),
      roundEven_natCast]
    simp
  unfold roundedPos
  rw [dif_neg (by omega), if_pos (by omega)]
  simp only [hq, hE]

/-! ## Values that are not negative -/

section Float

variable {x y z : Float}

theorem le_trans (hxy : x ≤ y) (hyz : y ≤ z) : x ≤ z := by
  obtain ⟨hx, -, hxy⟩ := le_iff.mp hxy
  obtain ⟨-, hz, hyz⟩ := le_iff.mp hyz
  exact le_iff.mpr ⟨hx, hz, hxy.trans hyz⟩

theorem le_of_lt (h : x < y) : x ≤ y := by
  obtain ⟨hx, hy, h⟩ := lt_iff.mp h
  exact le_iff.mpr ⟨hx, hy, h.le⟩

theorem le_of_beq (h : (x == y) = true) : x ≤ y := by
  obtain ⟨hx, hy, h⟩ := beq_iff.mp h
  exact le_iff.mpr ⟨hx, hy, h.le⟩

theorem le_refl_of_isNaN (hx : x.isNaN = false) : x ≤ x :=
  le_iff.mpr ⟨hx, hx, le_rfl⟩

/-- A value that is not negative is a zero, a positive representable value, or `+∞`. -/
theorem view_of_nonneg (hx : 0 ≤ x) :
    (∃ s, view x = .zero s) ∨ (∃ m e h, view x = .finite .positive m e h ∧ Representable m e) ∨
      view x = .infinity .positive := by
  obtain ⟨-, hxn, hkey⟩ := le_iff.mp hx
  rw [view_zero, isNaN_eq_view] at *
  cases hv : view x with
  | zero s => exact Or.inl ⟨s, rfl⟩
  | finite s m e h =>
    have hr : Representable m e :=
      representable_of_unpack (by rw [← view_eq_unpack_toBits]; exact hv)
    cases s with
    | positive => exact Or.inr (Or.inl ⟨m, e, h, rfl, hr⟩)
    | negative =>
      rw [hv] at hkey
      simp [orderKey, Prod.Lex.toLex_le_toLex] at hkey
  | infinity s =>
    cases s with
    | positive => exact Or.inr (Or.inr rfl)
    | negative =>
      rw [hv] at hkey
      simp [orderKey, Prod.Lex.toLex_le_toLex] at hkey
  | notANumber =>
    rw [hv] at hxn
    simp [UnpackedFloat.isNaN] at hxn

/-- A zero, a positive finite value and `+∞` are not negative. -/
theorem zero_le_of_view
    (h : (∃ s, view x = .zero s) ∨ view x = .infinity .positive ∨
      ∃ m e h, view x = .finite .positive m e h) : 0 ≤ x := by
  rw [le_iff, isNaN_eq_view, isNaN_eq_view, view_zero]
  rcases h with ⟨s, hv⟩ | hv | ⟨m, e, hm, hv⟩ <;> rw [hv] <;>
    simp [orderKey, UnpackedFloat.isNaN, Prod.Lex.toLex_le_toLex]

/-- `+∞` lies above every value. -/
theorem orderKey_le_infinity (u : UnpackedFloat) :
    orderKey u ≤ orderKey (.infinity .positive) := by
  rcases u with (_ | _) | _ | (_ | _) | ⟨_ | _, m, e, hm⟩ <;>
    simp [orderKey, Prod.Lex.toLex_le_toLex]

/-- A zero lies at or below every value that is not negative, whatever its sign. -/
theorem orderKey_zero_le (s : Sign) (hx : 0 ≤ x) : orderKey (.zero s) ≤ orderKey (view x) := by
  have h0 := (le_iff.mp hx).2.2
  rwa [view_zero] at h0

/-- A value that is not negative and infinite is `+∞`. -/
theorem view_eq_infinity_of_isInf (hx : 0 ≤ x) (h : x.isInf = true) :
    view x = .infinity .positive := by
  rw [isInf_eq_view] at h
  rcases view_of_nonneg hx with ⟨s, hv⟩ | ⟨m, e, hm, hv, -⟩ | hv <;>
    simp_all [UnpackedFloat.isInf]

/-- A positive value below `+∞` has a positive magnitude. -/
theorem magnitude_pos (hx : 0 < x) (hx' : x.isInf = false) : 0 < magnitude (view x) := by
  rcases view_of_pos hx with ⟨m, e, hm, hv⟩ | hv
  · rw [hv, magnitude_finite]
    positivity
  · rw [isInf_eq_view, hv] at hx'
    simp [UnpackedFloat.isInf] at hx'

theorem unpack_pack_infinity (s : Sign) : (Float.Model.pack (.infinity s)).unpack = .infinity s := by
  rw [unpack_model_pack]
  exact unpack_packedInfinity s

theorem unpack_pack_zero (s : Sign) : (Float.Model.pack (.zero s)).unpack = .zero s := by
  cases s <;> rfl

/-- A value that is the nearest value of a positive number is not negative: it is a zero, a
positive finite value or `+∞`. -/
theorem zero_le_of_view_roundedPos {r : ℚ} (hr : 0 < r)
    (hv : view x = (Float.Model.pack (roundedPos r)).unpack) : 0 ≤ x := by
  rcases pack_roundedPos_cases hr with hz | hi | ⟨q, E, hq, hf⟩
  · exact zero_le_of_view (Or.inl ⟨_, hv.trans hz⟩)
  · exact zero_le_of_view (Or.inr (Or.inl (hv.trans hi)))
  · exact zero_le_of_view (Or.inr (Or.inr ⟨q, E, hq, hv.trans hf⟩))

/-- Between values that are not negative and below `+∞`, the order is that of their
magnitudes: a zero is below every other value, and a larger exponent, being a normal one whose
significand has all 53 digits, starts above every significand of a smaller one. -/
theorem magnitude_le_of_le (hx : 0 ≤ x) (hxy : x ≤ y) (hy : y.isInf = false) :
    magnitude (view x) ≤ magnitude (view y) := by
  obtain ⟨-, -, hkey⟩ := le_iff.mp hxy
  rw [isInf_eq_view] at hy
  rcases view_of_nonneg (le_trans hx hxy) with ⟨s', hvy⟩ | ⟨m', e', hm', hvy, hry⟩ | hvy
  · rcases view_of_nonneg hx with ⟨s, hvx⟩ | ⟨m, e, hm, hvx, -⟩ | hvx <;>
      simp [hvx, hvy, orderKey, Prod.Lex.toLex_le_toLex] at hkey ⊢
  · rcases view_of_nonneg hx with ⟨s, hvx⟩ | ⟨m, e, hm, hvx, hrx⟩ | hvx
    · simp only [hvx, hvy, magnitude_zero, magnitude_finite]
      positivity
    · simp only [hvx, hvy, orderKey, Prod.Lex.toLex_le_toLex, magnitude_finite] at hkey ⊢
      rcases hkey with hlt | ⟨-, hlt | ⟨he, hle⟩⟩
      · norm_num at hlt
      · have hn : 2 ^ 52 ≤ m' :=
          hry.normal_or_subnormal.resolve_right (by have := hrx.min_le; omega)
        have hm53 : (m : ℚ) < 2 ^ 53 := by exact_mod_cast hrx.lt_two_pow
        have hm52 : (2 : ℚ) ^ 52 ≤ m' := by exact_mod_cast hn
        calc (m : ℚ) * 2 ^ e ≤ 2 ^ 53 * 2 ^ e := by gcongr
          _ = 2 ^ 52 * 2 ^ (e + 1) := by rw [zpow_add_one₀ two_ne_zero]; ring
          _ ≤ m' * 2 ^ e' := by
            gcongr
            · norm_num
            · omega
      · rw [he]
        gcongr
        exact_mod_cast hle
    · simp [hvx, hvy, orderKey, Prod.Lex.toLex_le_toLex] at hkey
  · simp [hvy, UnpackedFloat.isInf] at hy

/-! ### Sums -/

variable {a b c d : Float}

/-- A sum with `+∞` of values that are not negative is `+∞`. -/
theorem view_add_of_isInf (ha : 0 ≤ a) (hb : 0 ≤ b) (h : a.isInf = true ∨ b.isInf = true) :
    view (a + b) = .infinity .positive := by
  rw [view_add, isInf_eq_view, isInf_eq_view] at *
  rcases view_of_nonneg ha with ⟨sa, hva⟩ | ⟨ma, ea, hma, hva, -⟩ | hva <;>
  rcases view_of_nonneg hb with ⟨sb, hvb⟩ | ⟨mb, eb, hmb, hvb, -⟩ | hvb <;>
  simp only [hva, hvb, UnpackedFloat.isInf, Bool.false_eq_true, or_false, false_or] at h <;>
  simp only [hva, hvb, UnpackedFloat.add] <;> exact unpack_pack_infinity _

/-- The sum of two values that are not negative and below `+∞` is a zero when both are
zeros, and otherwise the value nearest the exact sum of their magnitudes: with one zero, the
positive value, which is its own nearest value; with none, their significands aligned at the
smaller exponent, then rounded. -/
theorem view_add_of_finite (ha : 0 ≤ a) (hb : 0 ≤ b) (ha' : a.isInf = false)
    (hb' : b.isInf = false) :
    ((∃ s, view (a + b) = .zero s) ∧ magnitude (view a) + magnitude (view b) = 0) ∨
      (view (a + b) =
          (Float.Model.pack (roundedPos (magnitude (view a) + magnitude (view b)))).unpack ∧
        0 < magnitude (view a) + magnitude (view b)) := by
  rw [view_add]
  rw [isInf_eq_view] at ha' hb'
  rcases view_of_nonneg ha with ⟨sa, hva⟩ | ⟨ma, ea, hma, hva, hra⟩ | hva <;>
  rcases view_of_nonneg hb with ⟨sb, hvb⟩ | ⟨mb, eb, hmb, hvb, hrb⟩ | hvb <;>
  simp only [hva, hvb, UnpackedFloat.isInf, Bool.true_eq_false] at ha' hb' <;>
  simp only [hva, hvb, UnpackedFloat.add, magnitude_zero, magnitude_finite]
  · left
    refine ⟨?_, by norm_num⟩
    split_ifs <;> exact ⟨_, unpack_pack_zero _⟩
  · right
    rw [zero_add, roundedPos_of_representable hmb hrb]
    exact ⟨rfl, by positivity⟩
  · right
    rw [add_zero, roundedPos_of_representable hma hra]
    exact ⟨rfl, by positivity⟩
  · right
    refine ⟨?_, by positivity⟩
    have hmin := decreaseExponent_value ma (min_le_left ea eb)
    have hmin' := decreaseExponent_value mb (min_le_right ea eb)
    generalize hA : (decreaseExponent ma ea (min ea eb)).1 = A at hmin
    generalize hB : (decreaseExponent mb eb (min ea eb)).1 = B at hmin'
    have hApos : 0 < A := by
      rw [← hA, decreaseExponent, Nat.shiftLeft_eq]
      positivity
    have hsum : (0 : ℤ) < Sign.positive.apply A + Sign.positive.apply B := by
      simp only [Sign.apply]
      omega
    rw [UnpackedFloat.normalize, Int.compare_eq_gt.mpr hsum]
    dsimp only
    have hnat : ((A : ℤ) + B).toNat = A + B := by omega
    simp only [Sign.apply, hnat]
    rw [round_eq_roundedPos (by omega), ← hmin, ← hmin']
    push_cast
    ring_nf

/-- A sum of values that are not negative is not negative. -/
theorem zero_le_add_of_nonneg (ha : 0 ≤ a) (hb : 0 ≤ b) : 0 ≤ a + b := by
  by_cases hinf : a.isInf = true ∨ b.isInf = true
  · exact zero_le_of_view (Or.inr (Or.inl (view_add_of_isInf ha hb hinf)))
  · simp only [not_or, Bool.not_eq_true] at hinf
    rcases view_add_of_finite ha hb hinf.1 hinf.2 with ⟨hz, -⟩ | ⟨hv, hpos⟩
    · exact zero_le_of_view (Or.inl hz)
    · exact zero_le_of_view_roundedPos hpos hv

/-- On values that are not negative a sum grows with both operands: a sum with `+∞` is `+∞`;
otherwise the magnitudes add up in order, and their nearest values stay in order. -/
theorem add_le_add_of_nonneg (ha : 0 ≤ a) (hb : 0 ≤ b) (hac : a ≤ c) (hbd : b ≤ d) :
    a + b ≤ c + d := by
  have hc := le_trans ha hac
  have hd := le_trans hb hbd
  have hab := zero_le_add_of_nonneg ha hb
  have hcd := zero_le_add_of_nonneg hc hd
  refine le_iff.mpr ⟨(le_iff.mp hab).2.1, (le_iff.mp hcd).2.1, ?_⟩
  by_cases hinf : c.isInf = true ∨ d.isInf = true
  · rw [view_add_of_isInf hc hd hinf]
    exact orderKey_le_infinity _
  simp only [not_or, Bool.not_eq_true] at hinf
  have ha' := (finite_of_le_of_le ha hac rfl hinf.1).2
  have hb' := (finite_of_le_of_le hb hbd rfl hinf.2).2
  rcases view_add_of_finite ha hb ha' hb' with ⟨⟨s, hz⟩, -⟩ | ⟨hv, hpos⟩
  · rw [hz]
    exact orderKey_zero_le s hcd
  · rcases view_add_of_finite hc hd hinf.1 hinf.2 with ⟨-, hzero⟩ | ⟨hv', -⟩
    · have := add_le_add (magnitude_le_of_le ha hac hinf.1) (magnitude_le_of_le hb hbd hinf.2)
      linarith
    · rw [hv, hv']
      exact orderKey_roundedPos_mono hpos
        (add_le_add (magnitude_le_of_le ha hac hinf.1) (magnitude_le_of_le hb hbd hinf.2))

/-! ### Quotients -/

/-- `+∞` divided by a positive finite value is `+∞`. -/
theorem view_div_of_isInf (ha : view a = .infinity .positive) (hd : 0 < d)
    (hd' : d.isInf = false) : view (a / d) = .infinity .positive := by
  rw [isInf_eq_view] at hd'
  rw [view_div, ha]
  rcases view_of_pos hd with ⟨md, ed, hmd, hvd⟩ | hvd <;>
    simp only [hvd, UnpackedFloat.isInf, Bool.true_eq_false] at hd' ⊢
  exact unpack_pack_infinity _

/-- The quotient of a value that is not negative and below `+∞` by a positive finite value is
a zero when the dividend is a zero, and otherwise the value nearest the exact quotient of the
magnitudes. -/
theorem view_div_of_finite (ha : 0 ≤ a) (ha' : a.isInf = false) (hd : 0 < d)
    (hd' : d.isInf = false) :
    ((∃ s, view (a / d) = .zero s) ∧ magnitude (view a) = 0) ∨
      (view (a / d) =
          (Float.Model.pack (roundedPos (magnitude (view a) / magnitude (view d)))).unpack ∧
        0 < magnitude (view a)) := by
  rw [isInf_eq_view] at ha' hd'
  rw [view_div]
  rcases view_of_pos hd with ⟨md, ed, hmd, hvd⟩ | hvd <;>
    simp only [hvd, UnpackedFloat.isInf, Bool.true_eq_false] at hd'
  rcases view_of_nonneg ha with ⟨sa, hva⟩ | ⟨ma, ea, hma, hva, -⟩ | hva <;>
    simp only [hva, UnpackedFloat.isInf, Bool.true_eq_false] at ha'
  · left
    rw [hva, hvd]
    exact ⟨⟨_, unpack_pack_zero _⟩, magnitude_zero sa⟩
  · right
    rw [hva, hvd, magnitude_finite, magnitude_finite, div_eq_roundedPos hma hmd]
    exact ⟨rfl, by positivity⟩

/-- A quotient of a value that is not negative by a positive finite value is not negative. -/
theorem zero_le_div_of_nonneg (ha : 0 ≤ a) (hd : 0 < d) (hd' : d.isInf = false) :
    0 ≤ a / d := by
  by_cases hinf : a.isInf = true
  · exact zero_le_of_view
      (Or.inr (Or.inl (view_div_of_isInf (view_eq_infinity_of_isInf ha hinf) hd hd')))
  · rcases view_div_of_finite ha (by simpa using hinf) hd hd' with ⟨hz, -⟩ | ⟨hv, hpos⟩
    · exact zero_le_of_view (Or.inl hz)
    · exact zero_le_of_view_roundedPos (div_pos hpos (magnitude_pos hd hd')) hv

/-- On values that are not negative a quotient by a positive finite value grows with the
dividend. -/
theorem div_le_div_of_nonneg (ha : 0 ≤ a) (hab : a ≤ b) (hd : 0 < d) (hd' : d.isInf = false) :
    a / d ≤ b / d := by
  have hb := le_trans ha hab
  have had := zero_le_div_of_nonneg ha hd hd'
  have hbd := zero_le_div_of_nonneg hb hd hd'
  refine le_iff.mpr ⟨(le_iff.mp had).2.1, (le_iff.mp hbd).2.1, ?_⟩
  by_cases hinf : b.isInf = true
  · rw [view_div_of_isInf (view_eq_infinity_of_isInf hb hinf) hd hd']
    exact orderKey_le_infinity _
  have hinf' : b.isInf = false := by simpa using hinf
  have ha' := (finite_of_le_of_le ha hab rfl hinf').2
  have hmag := magnitude_le_of_le ha hab hinf'
  rcases view_div_of_finite ha ha' hd hd' with ⟨⟨s, hz⟩, -⟩ | ⟨hv, hpos⟩
  · rw [hz]
    exact orderKey_zero_le s hbd
  · rcases view_div_of_finite hb hinf' hd hd' with ⟨-, hzero⟩ | ⟨hv', -⟩
    · linarith
    · have hd0 := magnitude_pos hd hd'
      rw [hv, hv']
      exact orderKey_roundedPos_mono (div_pos hpos hd0) (div_le_div_of_nonneg_right hmag hd0.le)

/-! ### Midpoints -/

/-- Two is `2^52 · 2^-51`. -/
theorem view_two :
    view (Float.ofNat 2) = .finite .positive (2 ^ 52) (-51) (Nat.two_pow_pos 52) := rfl

theorem zero_lt_ofNat_two : 0 < Float.ofNat 2 :=
  lt_iff.mpr ⟨rfl, rfl, by
    rw [view_zero, view_two]
    simp [orderKey, Prod.Lex.toLex_lt_toLex]⟩

theorem isInf_ofNat_two : (Float.ofNat 2).isInf = false := rfl

/-- The midpoint `(a + b) / 2` of two values that are not negative is not negative. -/
theorem zero_le_midpoint (ha : 0 ≤ a) (hb : 0 ≤ b) : 0 ≤ (a + b) / Float.ofNat 2 :=
  zero_le_div_of_nonneg (zero_le_add_of_nonneg ha hb) zero_lt_ofNat_two isInf_ofNat_two

/-- The midpoint `(a + b) / 2` computed in binary64 grows with both ends, for ends that are
not negative. -/
theorem midpoint_le_midpoint (ha : 0 ≤ a) (hb : 0 ≤ b) (hac : a ≤ c) (hbd : b ≤ d) :
    (a + b) / Float.ofNat 2 ≤ (c + d) / Float.ofNat 2 :=
  div_le_div_of_nonneg (zero_le_add_of_nonneg ha hb) (add_le_add_of_nonneg ha hb hac hbd)
    zero_lt_ofNat_two isInf_ofNat_two

end Float

end Airspace.IEEE754
