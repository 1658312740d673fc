import Airspace.Proofs.Binary64.Order
import Airspace.Proofs.Binary64.Rounding

/-!
# Binary64 arithmetic that stays finite

The sum, product and quotient of bounded values are bounded, with the bound growing by at
most one or two binades per operation (`Bounded.add`, `Bounded.mul`, `Bounded.div`), and so
are the conversions of integers (`bounded_ofNat`, `bounded_ofInt`). A chain of such
operations on values far inside the finite range therefore never overflows.

The remainder of truncated division is exact (`view_ofParts`, `view_rem_of_finite`): it is
the integer remainder of the aligned significands, which binary64 holds without rounding, so
it is no larger than the dividend and smaller than the divisor. By `+∞` it is the dividend
(`rem_of_infinity`). A negative remainder plus a positive divisor is therefore never below
zero (`zero_le_fold`), which is what folds a remainder into `[0, divisor)` (`fold_mem`).
-/

namespace Airspace.IEEE754

open Float.Model UnpackedFloat

/-! ## Arithmetic on bounded values -/

theorem decreaseExponent_value (m : ℕ) {e t : ℤ} (ht : t ≤ e) :
    ((decreaseExponent m e t).1 : ℚ) * 2 ^ t = m * 2 ^ e := by
  simp only [decreaseExponent, Nat.shiftLeft_eq, Nat.cast_mul, Nat.cast_pow, Nat.cast_ofNat]
  rw [mul_assoc, ← zpow_natCast, ← zpow_add₀ two_ne_zero]
  congr 2
  omega

theorem abs_apply (s : Sign) (n : ℕ) : |((s.apply n : ℤ) : ℚ)| = n := by
  cases s <;> simp [Sign.apply]

namespace Bounded

variable {N : ℤ} {a b : UnpackedFloat}

theorem neg (h : Bounded N a) : Bounded N a.neg := by
  cases h with
  | zero s => exact .zero _
  | finite s m e hm hr hv => exact .finite _ m e hm hr hv

/-- The sum of two values of magnitude at most `2^N` is zero or a representable value of
magnitude at most `2^(N + 2)`: the aligned sum is at most `2^(N + 1)`, and rounding it adds
one more. -/
theorem add (ha : Bounded N a) (hb : Bounded N b) (hN₀ : -1074 ≤ N) (hN : N ≤ 1021) :
    Bounded (N + 2) (UnpackedFloat.add .binary64 a b) := by
  cases ha with
  | zero sa =>
    cases hb with
    | zero sb =>
      show Bounded (N + 2) (if sa == sb then .zero sa else .zero .positive)
      split_ifs
      · exact .zero _
      · exact .zero _
    | finite sb mb eb hmb hrb hvb => exact (Bounded.finite sb mb eb hmb hrb hvb).mono (by omega)
  | finite sa ma ea hma hra hva =>
    cases hb with
    | zero sb => exact (Bounded.finite sa ma ea hma hra hva).mono (by omega)
    | finite sb mb eb hmb hrb hvb =>
      have hsum : |((sa.apply (decreaseExponent ma ea (min ea eb)).1 +
          sb.apply (decreaseExponent mb eb (min ea eb)).1 : ℤ) : ℚ)| * 2 ^ (min ea eb) ≤
            2 ^ (N + 1) := by
        have hx := decreaseExponent_value ma (min_le_left ea eb)
        have hy := decreaseExponent_value mb (min_le_right ea eb)
        calc _ ≤ (|((sa.apply (decreaseExponent ma ea (min ea eb)).1 : ℤ) : ℚ)| +
                |((sb.apply (decreaseExponent mb eb (min ea eb)).1 : ℤ) : ℚ)|) *
                  2 ^ (min ea eb) := by
              push_cast
              exact mul_le_mul_of_nonneg_right (abs_add_le _ _) (by positivity)
          _ = ma * 2 ^ ea + mb * 2 ^ eb := by rw [abs_apply, abs_apply, add_mul, hx, hy]
          _ ≤ 2 ^ N + 2 ^ N := add_le_add hva hvb
          _ = 2 ^ (N + 1) := by rw [zpow_add_one₀ two_ne_zero]; ring
      have hround := normalize_bounded .positive hsum (by omega) (by omega)
      rw [show N + 1 + 1 = N + 2 by ring] at hround
      exact hround

variable {M : ℤ}

/-- The product of values of magnitudes at most `2^N` and `2^M` is zero or a representable
value of magnitude at most `2^(N + M + 1)`. A product with a full 53-bit factor has at least 53
bits, and a product of two subnormals lies below the subnormal exponent. -/
theorem mul (ha : Bounded N a) (hb : Bounded M b) (h₀ : -1074 ≤ N + M) (h : N + M ≤ 1022) :
    Bounded (N + M + 1) (UnpackedFloat.mul .binary64 a b) := by
  cases ha with
  | zero sa => cases hb <;> exact .zero _
  | finite sa ma ea hma hra hva =>
    cases hb with
    | zero sb => exact .zero _
    | finite sb mb eb hmb hrb hvb =>
      show Bounded _ (roundWithAccuracy .binary64 (sa * sb) (ma * mb) (ea + eb) .exact)
      refine roundWithAccuracy_bounded _ _ ?_ ?_ h₀ h
      · rw [targetExponent_eq]
        rcases hra.normal_or_subnormal with hna | hsa
        · have : 52 ≤ (ma * mb).log2 := (Nat.le_log2 (Nat.mul_pos hma hmb).ne').mpr
            (hna.trans (Nat.le_mul_of_pos_right _ hmb))
          omega
        · rcases hrb.normal_or_subnormal with hnb | hsb
          · have : 52 ≤ (ma * mb).log2 := (Nat.le_log2 (Nat.mul_pos hma hmb).ne').mpr
              (hnb.trans (Nat.le_mul_of_pos_left _ hma))
            omega
          · omega
      · calc ((ma * mb : ℕ) : ℚ) * 2 ^ (ea + eb) = (ma * 2 ^ ea) * (mb * 2 ^ eb) := by
              rw [zpow_add₀ two_ne_zero]; push_cast; ring
          _ ≤ 2 ^ N * 2 ^ M := mul_le_mul hva hvb (by positivity) (by positivity)
          _ = 2 ^ (N + M) := by rw [zpow_add₀ two_ne_zero]

/-- Dividing a value of magnitude at most `2^N` by a representable value of magnitude at
least `2^M` gives zero or a representable value of magnitude at most `2^(N - M + 1)`. Above the
subnormals the quotient keeps 53 bits. -/
theorem div (ha : Bounded N a) {sb : Sign} {mb : ℕ} {eb : ℤ} {hmb : 0 < mb}
    (hlow : (2 : ℚ) ^ M ≤ mb * 2 ^ eb)
    (h₀ : -1074 ≤ N - M) (h : N - M ≤ 1022) :
    Bounded (N - M + 1) (UnpackedFloat.div .binary64 a (.finite sb mb eb hmb)) := by
  cases ha with
  | zero sa => exact .zero _
  | finite sa ma ea hma hra hva =>
    show Bounded _ (roundWithAccuracy .binary64 (sa / sb)
      ((ma <<< (ea - eb - min (ea - eb) (Format.binary64.targetExponent
        (totalExponent ma ea - totalExponent mb eb))).toNat) / mb)
      (min (ea - eb) (Format.binary64.targetExponent (totalExponent ma ea - totalExponent mb eb)))
      (accuracyOfFraction _ mb))
    set D := totalExponent ma ea - totalExponent mb eb with hD
    set tgt := min (ea - eb) (Format.binary64.targetExponent D) with htgt
    set k := (ea - eb - tgt).toNat with hk
    have hD' : D = (ma.log2 : ℤ) - mb.log2 + ea - eb := by
      simp only [hD, totalExponent]
      ring
    have htarget : Format.binary64.targetExponent D = max (D - 53) (-1074) := by
      simp only [Format.targetExponent, Format.mantissaBits, Format.minExponent]
      norm_num
    have hlogma := log2_le_of_lt hra.lt_two_pow
    have hk' : (k : ℤ) = ea - eb - tgt := by omega
    refine roundWithAccuracy_bounded _ _ ?_ ?_ h₀ h
    · rw [targetExponent_eq]
      by_cases hsub : tgt ≤ -1074
      · omega
      · have hq : 2 ^ 52 ≤ (ma <<< k) / mb := by
          rw [Nat.le_div_iff_mul_le hmb, Nat.shiftLeft_eq]
          calc 2 ^ 52 * mb ≤ 2 ^ 52 * 2 ^ (mb.log2 + 1) :=
                Nat.mul_le_mul_left _ Nat.lt_log2_self.le
            _ = 2 ^ ma.log2 * 2 ^ k := by
                rw [← Nat.pow_add, ← Nat.pow_add]
                congr 1
                omega
            _ ≤ ma * 2 ^ k := Nat.mul_le_mul_right _ (Nat.log2_self_le hma.ne')
        have := (Nat.le_log2 (by omega)).mpr hq
        omega
    · have hq : (((ma <<< k) / mb : ℕ) : ℚ) * mb ≤ ma * 2 ^ k := by
        rw [Nat.shiftLeft_eq]
        exact_mod_cast Nat.div_mul_le_self _ _
      have hexp : (2 : ℚ) ^ k * 2 ^ tgt = 2 ^ ea / 2 ^ eb := by
        rw [← zpow_natCast, ← zpow_add₀ two_ne_zero, ← zpow_sub₀ two_ne_zero]
        congr 1
        omega
      have hmb' : (0 : ℚ) < mb := by exact_mod_cast hmb
      calc (((ma <<< k) / mb : ℕ) : ℚ) * 2 ^ tgt ≤ (ma * 2 ^ k / mb) * 2 ^ tgt :=
            mul_le_mul_of_nonneg_right ((le_div_iff₀ hmb').mpr hq) (by positivity)
        _ = (ma * 2 ^ ea) / (mb * 2 ^ eb) := by
            rw [div_mul_eq_mul_div, mul_assoc, hexp]
            field_simp
        _ ≤ 2 ^ N / 2 ^ M := div_le_div₀ (by positivity) hva (by positivity) hlow
        _ = 2 ^ (N - M) := by rw [zpow_sub₀ two_ne_zero]

end Bounded

/-! ## Conversions -/

theorem bounded_one : Bounded 0 (view (Float.ofBits 0x3FF0000000000000)) := by
  rw [view_one]
  refine .finite _ _ _ _ ⟨by norm_num, by norm_num, by norm_num, Or.inl le_rfl⟩ ?_
  norm_num

/-- A natural number up to `2^N` converts to a value of magnitude at most `2^(N + 2)`: below
`2^53` by converting and multiplying by one, above by the decimal conversion, which reads it as
`n · 2^53` at exponent `-53`, times `10^0`. -/
theorem bounded_ofNat {n : ℕ} {N : ℤ} (hn : (n : ℚ) ≤ 2 ^ N) (hN₀ : 0 ≤ N)
    (hN : N ≤ 1020) :
    Bounded (N + 2) (view (Float.ofNat n)) := by
  show Bounded (N + 2) (view (Float.ofScientific n false 0))
  by_cases hfast : n < 2 ^ 53
  · rw [Float.ofScientific, dif_pos ⟨hfast, by norm_num⟩]
    simp only [Bool.false_eq_true, if_false]
    have h64 : n.toUInt64.toNat = n := UInt64.toNat_ofNat_of_lt' (by simp [UInt64.size]; omega)
    have hconv : Bounded (N + 1) (view n.toUInt64.toFloat) := by
      have h := normalize_bounded .positive (M := (n.toUInt64.toNat : ℤ)) (e := 0) (N := N)
        (by rw [h64]; simpa using hn) (by omega) (by omega)
      rw [show view n.toUInt64.toFloat = (Float.Model.pack
        (UnpackedFloat.normalize .binary64 (n.toUInt64.toNat : ℤ) 0 .positive)).unpack from rfl,
        h.unpack_pack]
      exact h
    have h := hconv.mul bounded_one (by omega) (by omega)
    rw [view_mul, show view (Float.exactlyRepresentablePowersOfTen[0]) =
      view (Float.ofBits 0x3FF0000000000000) from rfl, h.unpack_pack]
    exact h.mono (by omega)
  · rw [Float.ofScientific, dif_neg (fun h => hfast h.1)]
    simp only [Bool.false_eq_true, if_false]
    have hpos : 0 < n := by omega
    have hround :
        Bounded (N + 1) (roundWithAccuracy .binary64 .positive (n <<< 53) (-53) .exact) := by
      have hc : (-53 : ℤ) ≤
          Format.binary64.targetExponent (totalExponent (n <<< 53) (-53)) := by
        rw [targetExponent_eq, log2_shiftLeft hpos]
        omega
      have hv : ((n <<< 53 : ℕ) : ℚ) * 2 ^ (-53 : ℤ) ≤ 2 ^ N := by
        rw [Nat.shiftLeft_eq, Nat.cast_mul, Nat.cast_pow, Nat.cast_ofNat, mul_assoc,
          ← zpow_natCast, ← zpow_add₀ two_ne_zero]
        simpa using hn
      exact roundWithAccuracy_bounded .positive .exact hc hv (by omega) (by omega)
    have hsci : UnpackedFloat.ofScientific .binary64 n (Int.ofNat 0) =
        roundWithAccuracy .binary64 .positive (n <<< 53) (-53) .exact := by
      have hlarge : ¬ Int.ofNat 0 < -((2 ^ Format.binary64.exponentBits : ℤ) + n.log2) := by
        show ¬ (0 : ℤ) < -(2 ^ 11 + n.log2)
        omega
      rw [UnpackedFloat.ofScientific, dif_neg (by omega), if_neg (by decide), if_neg hlarge,
        if_pos (by decide)]
      show roundWithAccuracy .binary64 (.positive * .positive)
        ((n <<< 53) * 10 ^ (Int.ofNat 0).toNat) (-53 + 0) .exact = _
      rw [show (Int.ofNat 0).toNat = 0 from rfl, Nat.pow_zero, Nat.mul_one, add_zero]
      rfl
    show Bounded (N + 2)
      (Float.Model.pack (UnpackedFloat.ofScientific .binary64 n (Int.ofNat 0))).unpack
    rw [hsci, hround.unpack_pack]
    exact hround.mono (by omega)

/-- Negation keeps the magnitude. -/
theorem bounded_neg {x : Float} {N : ℤ} (h : Bounded N (view x)) : Bounded N (view (-x)) := by
  rw [view_neg, h.neg.unpack_pack]
  exact h.neg

/-- An integer of magnitude up to `2^N` converts to a value of magnitude at most
`2^(N + 2)`; a negative one is the negation of its magnitude converted. -/
theorem bounded_ofInt {n : ℤ} {N : ℤ} (hn : (|n| : ℚ) ≤ 2 ^ N) (hN₀ : 0 ≤ N)
    (hN : N ≤ 1020) :
    Bounded (N + 2) (view (Float.ofInt n)) := by
  rcases n with k | k
  · exact bounded_ofNat (by simpa using hn) hN₀ hN
  · show Bounded (N + 2) (view (-(Float.ofNat (k + 1))))
    refine bounded_neg (bounded_ofNat ?_ hN₀ hN)
    have : |((Int.negSucc k : ℤ) : ℚ)| = ((k + 1 : ℕ) : ℚ) := by
      rw [Int.negSucc_eq, abs_of_neg (by push_cast; linarith)]
      push_cast
      ring
    rw [this] at hn
    exact hn

theorem view_billion :
    view (1e9 : Float) =
      .finite .positive (10 ^ 9 * 2 ^ 23) (-23) (by decide : 0 < 10 ^ 9 * 2 ^ 23) :=
  rfl

/-! ## The exact remainder -/

/-- The magnitude `m · 2^e` of a finite value; zero for the other classes. -/
def magnitude : UnpackedFloat → ℚ
  | .finite _ m e _ => m * 2 ^ e
  | _ => 0

@[simp] theorem magnitude_finite (s : Sign) (m : ℕ) (e : ℤ) (h : 0 < m) :
    magnitude (.finite s m e h) = m * 2 ^ e := rfl

@[simp] theorem magnitude_zero (s : Sign) : magnitude (.zero s) = 0 := rfl

/-- A value that binary64 holds exactly, `± m · 2^e` with at most 53 significant bits, an
exponent no lower than the subnormals' and a magnitude within the finite range, comes out of
`ofParts` unchanged: no rounding happens, and neither overflow nor underflow. The significand scaled
to the quantum keeps its value and has at most 53 bits; below the normal range the quantum is the
subnormal one. -/
theorem view_ofParts (neg : Bool) {m : ℕ} {e N : ℤ} (hm : m < 2 ^ 53) (he : -1074 ≤ e)
    (hv : (m : ℚ) * 2 ^ e ≤ 2 ^ N) (hN : N ≤ 1023) :
    Bounded N (view (Binary64.ofParts ⟨neg, m, e⟩)) ∧
      magnitude (view (Binary64.ofParts ⟨neg, m, e⟩)) = m * 2 ^ e := by
  unfold Binary64.ofParts
  dsimp only
  by_cases h0 : m = 0
  · subst h0
    rw [if_pos rfl, view_pack_zero]
    exact ⟨.zero _, by simp⟩
  have hpos : 0 < m := Nat.pos_of_ne_zero h0
  have hbit : ((Binary64.bitLength m : ℕ) : ℤ) - 1 + e - 52 = (m.log2 : ℤ) + e - 52 := by
    simp [Binary64.bitLength, h0]
  have hlog : m.log2 ≤ 52 := log2_le_of_lt hm
  have htop : (m.log2 : ℤ) + e ≤ N := log2_add_le hpos hv
  rw [if_neg h0, hbit]
  generalize hq : max ((m.log2 : ℤ) + e - 52) (-1074) = q
  have hqe : e ≥ q := by omega
  rw [if_pos hqe]
  generalize hr : m * Nat.pow 2 (e - q).toNat = r
  have hval : (r : ℚ) * 2 ^ q = m * 2 ^ e := by
    rw [← hr, Nat.pow_eq]
    exact natCast_mul_two_pow_toNat m hqe
  have hr53 : r < 2 ^ 53 := by
    rw [← hr, Nat.pow_eq]
    calc m * 2 ^ (e - q).toNat < 2 ^ (m.log2 + 1) * 2 ^ (e - q).toNat :=
          Nat.mul_lt_mul_of_pos_right (Nat.lt_log2_self) (Nat.two_pow_pos _)
      _ = 2 ^ (m.log2 + 1 + (e - q).toNat) := (Nat.pow_add _ _ _).symm
      _ ≤ 2 ^ 53 := Nat.pow_le_pow_right (by norm_num) (by omega)
  have hne : ¬ r = Nat.pow 2 53 := by
    rw [Nat.pow_eq]
    omega
  rw [if_neg hne]
  simp only [Nat.pow_eq]
  by_cases hsub : r < 2 ^ 52
  · have hq' : q = -1074 := by
      by_contra hne
      have hk : (e - q).toNat = 52 - m.log2 := by omega
      have : 2 ^ 52 ≤ r := by
        rw [← hr, Nat.pow_eq, hk]
        calc 2 ^ 52 = 2 ^ m.log2 * 2 ^ (52 - m.log2) := by rw [← Nat.pow_add]; congr 1; omega
          _ ≤ m * 2 ^ (52 - m.log2) := Nat.mul_le_mul_right _ (Nat.log2_self_le h0)
      omega
    have hr0 : 0 < r := by
      rw [← hr]
      exact Nat.mul_pos hpos (Nat.two_pow_pos _)
    subst hq'
    rw [if_pos hsub, view_pack_subnormal neg hr0 hsub]
    exact ⟨.finite _ _ _ _ ⟨hr53, le_rfl, by norm_num, Or.inr rfl⟩ (hval.trans_le hv), hval⟩
  · have hq971 : q ≤ 971 := by omega
    rw [if_neg hsub, if_neg (by omega), view_pack_normal neg (by omega) (by omega) (by omega)]
    have hmant : 2 ^ 52 + (r - 2 ^ 52) = r := by omega
    have hexp : (((q + 1075).toNat : ℕ) : ℤ) - 1075 = q := by omega
    have hval' :
        ((2 ^ 52 + (r - 2 ^ 52) : ℕ) : ℚ) * 2 ^ ((((q + 1075).toNat : ℕ) : ℤ) - 1075) =
          m * 2 ^ e := by
      rw [hmant, hexp, hval]
    have hrep : Representable (2 ^ 52 + (r - 2 ^ 52)) (((q + 1075).toNat : ℕ) - 1075) :=
      ⟨by omega, by omega, by omega, Or.inl (by omega)⟩
    exact ⟨.finite _ _ _ _ hrep (hval'.trans_le hv), hval'⟩

theorem shiftRightEven_le (m s : ℕ) : Binary64.shiftRightEven m s ≤ m / 2 ^ s + 1 := by
  unfold Binary64.shiftRightEven
  split
  · next hs =>
    subst hs
    simp
  · dsimp only
    split <;> simp [Nat.pow_eq]

/-- Rounding never makes a NaN: `ofParts` gives a zero, a finite value or an infinity. The rounded
significand has at most 53 bits, and is `2^53` itself only by a carry. -/
theorem isNaN_ofParts (p : Binary64.Parts) : (Binary64.ofParts p).isNaN = false := by
  obtain ⟨neg, m, e⟩ := p
  unfold Binary64.ofParts
  dsimp only
  by_cases h0 : m = 0
  · rw [if_pos h0]
    exact isNaN_pack neg (by norm_num) (by norm_num)
  have hbit : ((Binary64.bitLength m : ℕ) : ℤ) - 1 + e - 52 = (m.log2 : ℤ) + e - 52 := by
    simp [Binary64.bitLength, h0]
  rw [if_neg h0, hbit]
  generalize hq : max ((m.log2 : ℤ) + e - 52) (-1074) = q
  have hlt : m < 2 ^ (m.log2 + 1) := Nat.lt_log2_self
  have hr : (if e ≥ q then m * Nat.pow 2 (e - q).toNat
      else Binary64.shiftRightEven m (q - e).toNat) ≤ 2 ^ 53 := by
    split
    · rw [Nat.pow_eq]
      calc m * 2 ^ (e - q).toNat ≤ 2 ^ (m.log2 + 1) * 2 ^ (e - q).toNat :=
            Nat.mul_le_mul_right _ hlt.le
        _ = 2 ^ (m.log2 + 1 + (e - q).toNat) := (Nat.pow_add _ _ _).symm
        _ ≤ 2 ^ 53 := Nat.pow_le_pow_right (by norm_num) (by omega)
    · have hdiv : m / 2 ^ (q - e).toNat < 2 ^ 53 := by
        rw [Nat.div_lt_iff_lt_mul (Nat.two_pow_pos _), ← Nat.pow_add]
        exact lt_of_lt_of_le hlt (Nat.pow_le_pow_right (by norm_num) (by omega))
      have := shiftRightEven_le m (q - e).toNat
      omega
  generalize (if e ≥ q then m * Nat.pow 2 (e - q).toNat
    else Binary64.shiftRightEven m (q - e).toNat) = r at hr ⊢
  have hmant : (if r = Nat.pow 2 53 then (Nat.pow 2 52, q + 1) else (r, q)).1 < 2 ^ 53 := by
    split
    · norm_num
    · next hne =>
      rw [Nat.pow_eq] at hne
      exact lt_of_le_of_ne hr hne
  generalize (if r = Nat.pow 2 53 then (Nat.pow 2 52, q + 1) else (r, q)) = pr at hmant ⊢
  simp only [Nat.pow_eq]
  split
  · exact isNaN_pack neg (by norm_num) ‹_›
  · split
    · cases neg <;> decide +kernel
    · exact isNaN_pack neg (by omega) (by omega)

/-- What `parts` reads off a value that is zero or finite: a significand of at most 53 bits
at an exponent no lower than the subnormals', with the value's magnitude. -/
theorem parts_of_bounded {x : Float} {N : ℤ} (hx : Bounded N (view x)) :
    (Binary64.parts x).significand < 2 ^ 53 ∧ -1074 ≤ (Binary64.parts x).exponent ∧
      ((Binary64.parts x).significand : ℚ) * 2 ^ (Binary64.parts x).exponent ≤ 2 ^ N := by
  generalize hv : view x = u at hx
  cases hx with
  | zero s =>
    obtain ⟨hm, he⟩ := parts_of_view_zero hv
    rw [hm, he]
    exact ⟨by norm_num, le_rfl, by simp [zpow_nonneg]⟩
  | finite s m e h hr hval =>
    obtain ⟨hm, he⟩ := parts_of_view_finite hv
    rw [hm, he]
    exact ⟨hr.lt_two_pow, hr.min_le, hval⟩

/-- The remainder of two aligned significands: it fits in 53 bits, and at the common
exponent it is at most the dividend and below the divisor. Of the two significands one is not
scaled at all. -/
theorem mod_aligned {mx my : ℕ} (ex ey : ℤ) (hx : mx < 2 ^ 53) (hy : my < 2 ^ 53)
    (hmy : 0 < my) :
    mx * 2 ^ (ex - min ex ey).toNat % (my * 2 ^ (ey - min ex ey).toNat) < 2 ^ 53 ∧
      ((mx * 2 ^ (ex - min ex ey).toNat % (my * 2 ^ (ey - min ex ey).toNat) : ℕ) : ℚ) *
        2 ^ min ex ey ≤ mx * 2 ^ ex ∧
      ((mx * 2 ^ (ex - min ex ey).toNat % (my * 2 ^ (ey - min ex ey).toNat) : ℕ) : ℚ) *
        2 ^ min ex ey < my * 2 ^ ey := by
  have hb : 0 < my * 2 ^ (ey - min ex ey).toNat := Nat.mul_pos hmy (Nat.two_pow_pos _)
  have hle := Nat.mod_le (mx * 2 ^ (ex - min ex ey).toNat) (my * 2 ^ (ey - min ex ey).toNat)
  have hlt := Nat.mod_lt (mx * 2 ^ (ex - min ex ey).toNat) hb
  refine ⟨?_, ?_, ?_⟩
  · rcases le_total ex ey with h | h
    · have ha : mx * 2 ^ (ex - min ex ey).toNat = mx := by simp [min_eq_left h]
      omega
    · have hb' : my * 2 ^ (ey - min ex ey).toNat = my := by simp [min_eq_right h]
      omega
  · rw [← natCast_mul_two_pow_toNat mx (min_le_left ex ey)]
    gcongr
  · rw [← natCast_mul_two_pow_toNat my (min_le_right ex ey)]
    gcongr

/-- The remainder by a positive finite value is computed exactly: it is zero or finite, no
larger than the dividend and smaller than the divisor. -/
theorem view_rem_of_finite {x y : Float} {N : ℤ} (hx : Bounded N (view x)) (hN : N ≤ 1023)
    {my : ℕ} {ey : ℤ} {hmy : 0 < my} (hy : view y = .finite .positive my ey hmy) :
    Bounded N (view (Binary64.rem x y)) ∧ magnitude (view (Binary64.rem x y)) < my * 2 ^ ey := by
  have hyr : Representable my ey := representable_of_unpack (b := y.toBits.toBitVec) hy
  have hy0 : (y == 0) = false := by
    rw [Bool.eq_false_iff]
    intro h
    have := (beq_iff.mp h).2.2
    rw [hy, view_zero] at this
    simp [orderKey] at this
  have hxn : x.isNaN = false := hx.isNaN_eq_false
  have hxi : x.isInf = false := hx.isInf_eq_false
  have hyn : y.isNaN = false := by
    rw [isNaN_eq_view, hy]
    rfl
  have hinf : y.isInf = false := by
    rw [isInf_eq_view, hy]
    rfl
  have hguard : (y == 0 || x.isInf || x.isNaN || y.isNaN) = false := by
    rw [hy0, hxi, hxn, hyn]
    rfl
  obtain ⟨hxm, hxe, hxv⟩ := parts_of_bounded hx
  obtain ⟨hym, hye⟩ := parts_of_view_finite hy
  simp only [Binary64.rem, hguard, hinf, Bool.false_eq_true, if_false, Nat.pow_eq]
  rw [hym, hye]
  obtain ⟨h53, hle, hlt⟩ := mod_aligned (Binary64.parts x).exponent ey hxm hyr.lt_two_pow hmy
  obtain ⟨hb, hmag⟩ := view_ofParts (Binary64.parts x).negative h53
    (le_min hxe hyr.min_le) (hle.trans hxv) hN
  exact ⟨hb, hmag ▸ hlt⟩

/-- By `+∞` the remainder is the dividend itself. -/
theorem rem_of_infinity {x y : Float} {N : ℤ} (hx : Bounded N (view x))
    (hy : view y = .infinity .positive) : Binary64.rem x y = x := by
  have hy0 : (y == 0) = false := by
    rw [Bool.eq_false_iff]
    intro h
    have := (beq_iff.mp h).2.2
    rw [hy, view_zero] at this
    simp [orderKey] at this
  have hxn : x.isNaN = false := hx.isNaN_eq_false
  have hxi : x.isInf = false := hx.isInf_eq_false
  have hyn : y.isNaN = false := by
    rw [isNaN_eq_view, hy]
    rfl
  have hinf : y.isInf = true := by
    rw [isInf_eq_view, hy]
    rfl
  simp only [Binary64.rem, hy0, hxn, hxi, hyn, hinf, Bool.or_self, Bool.false_eq_true, if_false,
    if_true]

/-- Adding a positive value to a negative one of no larger magnitude gives a value of
positive sign, `+0` when the two cancel. The aligned significands compare as the values do. -/
theorem sign?_add_of_magnitude_le {r p : Float} {mr mp : ℕ} {er ep : ℤ} {hr : 0 < mr}
    {hp : 0 < mp} (hrv : view r = .finite .negative mr er hr)
    (hpv : view p = .finite .positive mp ep hp) (h : (mr : ℚ) * 2 ^ er ≤ mp * 2 ^ ep) :
    sign? (view (r + p)) = some .positive := by
  rw [view_add, sign?_unpack_pack, hrv, hpv]
  show sign? (normalize .binary64 (Sign.negative.apply (decreaseExponent mr er (min er ep)).1 +
    Sign.positive.apply (decreaseExponent mp ep (min er ep)).1) (min er ep) .positive) = _
  apply sign?_normalize_of_nonneg
  have haligned : ((decreaseExponent mr er (min er ep)).1 : ℚ) ≤
      (decreaseExponent mp ep (min er ep)).1 := by
    rw [← mul_le_mul_iff_of_pos_right (zpow_pos (two_pos : (0 : ℚ) < 2) (min er ep)),
      decreaseExponent_value mr (min_le_left er ep), decreaseExponent_value mp (min_le_right er ep)]
    exact h
  have : (decreaseExponent mr er (min er ep)).1 ≤ (decreaseExponent mp ep (min er ep)).1 := by
    exact_mod_cast haligned
  simp only [Sign.apply]
  omega

/-- A zero or finite value plus `+∞` is `+∞`. -/
theorem view_add_infinity {r p : Float} {N : ℤ} (hr : Bounded N (view r))
    (hp : view p = .infinity .positive) : view (r + p) = .infinity .positive := by
  rw [view_add, hp]
  generalize view r = u at hr ⊢
  have hinf : (Float.Model.pack (.infinity .positive)).unpack = .infinity .positive := rfl
  cases hr with
  | zero s => cases s <;> exact hinf
  | finite s => cases s <;> exact hinf

/-- A zero or finite value below zero is a negative finite value. -/
theorem view_of_lt_zero {r : Float} {N : ℤ} (hr : Bounded N (view r)) (h : r < 0) :
    ∃ m e h, view r = .finite .negative m e h := by
  have hlt := (lt_iff.mp h).2.2
  rw [view_zero] at hlt
  generalize view r = u at hr hlt
  cases hr with
  | zero s => simp [orderKey] at hlt
  | finite s m e hm _ _ =>
    cases s
    · exact ⟨m, e, hm, rfl⟩
    · simp [orderKey, Prod.Lex.toLex_lt_toLex] at hlt

/-- A remainder moved up by the divisor when it is negative is at least zero: a negative
remainder is smaller than the divisor, so adding it cannot go below zero. By `+∞` the dividend
comes back, and a negative one plus `+∞` is `+∞`. -/
theorem zero_le_fold {x p : Float} {N : ℤ} (hx : Bounded N (view x)) (hN : N ≤ 1023)
    (hp : 0 < p) :
    0 ≤ (if Binary64.rem x p < 0 then Binary64.rem x p + p else Binary64.rem x p) := by
  rcases view_of_pos hp with ⟨mp, ep, hmp, hpv⟩ | hpv
  · obtain ⟨hb, hmag⟩ := view_rem_of_finite hx hN hpv
    by_cases hneg : Binary64.rem x p < 0
    · rw [if_pos hneg]
      obtain ⟨mr, er, hmr, hrv⟩ := view_of_lt_zero hb hneg
      rw [hrv, magnitude_finite] at hmag
      exact zero_le_of_sign? (sign?_add_of_magnitude_le hrv hpv hmag.le)
    · rw [if_neg hneg]
      exact le_of_not_lt hb.isNaN_eq_false rfl hneg
  · rw [rem_of_infinity hx hpv]
    by_cases hneg : x < 0
    · rw [if_pos hneg]
      apply zero_le_of_sign?
      rw [view_add_infinity hx hpv]
      rfl
    · rw [if_neg hneg]
      exact le_of_not_lt hx.isNaN_eq_false rfl hneg

/-- The last step of the fold: a value at least zero that reaches the divisor is reset to
zero, so the result lies in `[0, p)`. -/
theorem fold_mem {r p : Float} (hr : 0 ≤ r) (hp : 0 < p) :
    0 ≤ (if r ≥ p then 0 else r) ∧ (if r ≥ p then 0 else r) < p := by
  by_cases hge : r ≥ p
  · rw [if_pos hge]
    exact ⟨le_iff.mpr ⟨rfl, rfl, le_rfl⟩, hp⟩
  · rw [if_neg hge]
    exact ⟨hr, lt_of_not_le (lt_iff.mp hp).2.1 (le_iff.mp hr).2.1 hge⟩

end Airspace.IEEE754
