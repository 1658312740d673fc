import Airspace.Proofs.Binary64.Encoding

/-!
# The order of binary64 values

A binary64 value is compared through its unpacked form: NaN is comparable to nothing, the
two zeros are equal, and otherwise values are ordered by class, then, among finite values
of one sign, by exponent and then mantissa, both reversed below zero. `orderKey` gives each
value that is a number its place in that order as a triple of integers, and the comparisons
`<`, `≤` and `==` of two numbers are the lexicographic order of their keys (`lt_iff`,
`le_iff`, `beq_iff`). Transitivity, asymmetry and totality on numbers follow from those of
the keys, with no appeal to the canonical form of the values.
-/

namespace Airspace.IEEE754

open Float.Model UnpackedFloat

/-- The place of a value that is a number in the order: its class (`-∞`, negative, zero,
positive, `+∞`), then for a finite value its exponent and mantissa, negated below zero.
NaN is given the place of zero; no lemma reads it. -/
def orderKey : UnpackedFloat → ℤ ×ₗ ℤ ×ₗ ℤ
  | .infinity .negative => toLex (0, toLex (0, 0))
  | .finite .negative m e _ => toLex (1, toLex (-e, -(m : ℤ)))
  | .zero _ => toLex (2, toLex (0, 0))
  | .notANumber => toLex (2, toLex (0, 0))
  | .finite .positive m e _ => toLex (3, toLex (e, (m : ℤ)))
  | .infinity .positive => toLex (4, toLex (0, 0))

@[simp] theorem Sign.compare_negative_positive : compare Sign.negative Sign.positive = .lt := rfl

@[simp] theorem Sign.compare_self (s : Sign) : compare s s = .eq := by
  cases s <;> rfl

/-! ## Comparison of unpacked values -/

section Unpacked

variable {u v : UnpackedFloat}

theorem compare_eq_lt_iff (hu : u.isNaN = false) (hv : v.isNaN = false) :
    u.compare v = some .lt ↔ orderKey u < orderKey v := by
  rcases u with (_ | _) | _ | (_ | _) | ⟨_ | _, m, e, hm⟩ <;>
  rcases v with (_ | _) | _ | (_ | _) | ⟨_ | _, n, f, hn⟩ <;>
  simp_all [UnpackedFloat.compare, orderKey, UnpackedFloat.isNaN, Prod.Lex.toLex_lt_toLex,
    Ordering.then_eq_lt, Ordering.then_eq_gt, Int.compare_eq_lt, Int.compare_eq_gt,
    Nat.compare_eq_lt, Nat.compare_eq_gt]

theorem compare_eq_eq_iff (hu : u.isNaN = false) (hv : v.isNaN = false) :
    u.compare v = some .eq ↔ orderKey u = orderKey v := by
  rcases u with (_ | _) | _ | (_ | _) | ⟨_ | _, m, e, hm⟩ <;>
  rcases v with (_ | _) | _ | (_ | _) | ⟨_ | _, n, f, hn⟩ <;>
  simp_all [UnpackedFloat.compare, orderKey, UnpackedFloat.isNaN]

theorem compare_eq_none_iff : u.compare v = none ↔ u.isNaN = true ∨ v.isNaN = true := by
  rcases u with (_ | _) | _ | (_ | _) | ⟨_ | _, m, e, hm⟩ <;>
  rcases v with (_ | _) | _ | (_ | _) | ⟨_ | _, n, f, hn⟩ <;>
  simp [UnpackedFloat.compare, UnpackedFloat.isNaN]

end Unpacked

/-! ## Comparison of binary64 values -/

section Float

variable {x y z : Float}

theorem lt_iff_compare : x < y ↔ (view x).compare (view y) = some .lt := by
  show decide (x.toModel < y.toModel) = true ↔ _
  simp only [decide_eq_true_eq]
  show ((view x).compare (view y) == some .lt) = true ↔ _
  exact beq_iff_eq

theorem le_iff_compare : x ≤ y ↔ (view x).compare (view y) = some .lt ∨
    (view x).compare (view y) = some .eq := by
  show decide (x.toModel ≤ y.toModel) = true ↔ _
  simp only [decide_eq_true_eq]
  show ((view x).compare (view y)).any (·.isLE) = true ↔ _
  rcases (view x).compare (view y) with _ | (_ | _ | _) <;> simp [Ordering.isLE]

theorem beq_iff_compare : (x == y) = true ↔ (view x).compare (view y) = some .eq := by
  show ((view x).compare (view y) == some .eq) = true ↔ _
  exact beq_iff_eq

/-- `<` on numbers is the order of their keys, and NaN is below nothing and above nothing. -/
theorem lt_iff :
    x < y ↔ x.isNaN = false ∧ y.isNaN = false ∧ orderKey (view x) < orderKey (view y) := by
  rw [lt_iff_compare, isNaN_eq_view, isNaN_eq_view]
  by_cases hx : (view x).isNaN = false
  · by_cases hy : (view y).isNaN = false
    · simp [hx, hy, compare_eq_lt_iff hx hy]
    · have hnone := compare_eq_none_iff (u := view x) |>.mpr (Or.inr (by simpa using hy))
      simp [hnone, hy]
  · have hnone := compare_eq_none_iff (v := view y) |>.mpr (Or.inl (by simpa using hx))
    simp [hnone, hx]

theorem le_iff :
    x ≤ y ↔ x.isNaN = false ∧ y.isNaN = false ∧ orderKey (view x) ≤ orderKey (view y) := by
  rw [le_iff_compare, isNaN_eq_view, isNaN_eq_view]
  by_cases hx : (view x).isNaN = false
  · by_cases hy : (view y).isNaN = false
    · simp [hx, hy, compare_eq_lt_iff hx hy, compare_eq_eq_iff hx hy, le_iff_lt_or_eq]
    · have hnone := compare_eq_none_iff (u := view x) |>.mpr (Or.inr (by simpa using hy))
      simp [hnone, hy]
  · have hnone := compare_eq_none_iff (v := view y) |>.mpr (Or.inl (by simpa using hx))
    simp [hnone, hx]

theorem beq_iff : (x == y) = true ↔ x.isNaN = false ∧ y.isNaN = false ∧
    orderKey (view x) = orderKey (view y) := by
  rw [beq_iff_compare, isNaN_eq_view, isNaN_eq_view]
  by_cases hx : (view x).isNaN = false
  · by_cases hy : (view y).isNaN = false
    · simp [hx, hy, compare_eq_eq_iff hx hy]
    · have hnone := compare_eq_none_iff (u := view x) |>.mpr (Or.inr (by simpa using hy))
      simp [hnone, hy]
  · have hnone := compare_eq_none_iff (v := view y) |>.mpr (Or.inl (by simpa using hx))
    simp [hnone, hx]

theorem lt_trans (hxy : x < y) (hyz : y < z) : x < z := by
  obtain ⟨hx, -, hxy⟩ := lt_iff.mp hxy
  obtain ⟨-, hz, hyz⟩ := lt_iff.mp hyz
  exact lt_iff.mpr ⟨hx, hz, hxy.trans hyz⟩

theorem lt_of_beq_of_lt (hxy : (x == y) = true) (hyz : y < z) : x < z := by
  obtain ⟨hx, -, hxy⟩ := beq_iff.mp hxy
  obtain ⟨-, hz, hyz⟩ := lt_iff.mp hyz
  exact lt_iff.mpr ⟨hx, hz, hxy ▸ hyz⟩

theorem not_lt_of_le (h : x ≤ y) : ¬ y < x := by
  obtain ⟨-, -, h⟩ := le_iff.mp h
  intro hlt
  exact absurd h (not_le.mpr (lt_iff.mp hlt).2.2)

theorem lt_asymm (h : x < y) : ¬ y < x :=
  fun hyx => absurd (lt_iff.mp h).2.2 (not_lt.mpr (le_of_lt (lt_iff.mp hyx).2.2))

/-- On numbers the order is total: what is not below is at or above. -/
theorem le_of_not_lt (hx : x.isNaN = false) (hy : y.isNaN = false) (h : ¬ x < y) : y ≤ x :=
  le_iff.mpr ⟨hy, hx, not_lt.mp fun hlt => h (lt_iff.mpr ⟨hx, hy, hlt⟩)⟩

theorem lt_of_not_le (hx : x.isNaN = false) (hy : y.isNaN = false) (h : ¬ x ≤ y) : y < x :=
  lt_iff.mpr ⟨hy, hx, not_le.mp fun hle => h (le_iff.mpr ⟨hx, hy, hle⟩)⟩

end Float

/-! ## Signs and the order -/

/-- A value of positive sign, `+0` included, is at least zero. -/
theorem zero_le_of_sign? {x : Float} (h : sign? (view x) = some .positive) : 0 ≤ x := by
  rw [le_iff, isNaN_eq_view x, view_zero]
  refine ⟨rfl, ?_⟩
  generalize view x = u at h
  rcases u with (_ | _) | _ | (_ | _) | ⟨_ | _, m, e, hm⟩ <;>
    simp_all [sign?, orderKey, UnpackedFloat.isNaN, Prod.Lex.toLex_le_toLex]

/-- A value above zero is a positive finite value or `+∞`. -/
theorem view_of_pos {p : Float} (hp : 0 < p) :
    (∃ m e h, view p = .finite .positive m e h) ∨ view p = .infinity .positive := by
  obtain ⟨-, hpn, hlt⟩ := lt_iff.mp hp
  rw [view_zero, isNaN_eq_view] at *
  generalize view p = u at hpn hlt
  rcases u with (_ | _) | _ | (_ | _) | ⟨_ | _, m, e, hm⟩ <;>
    simp_all [orderKey, UnpackedFloat.isNaN, Prod.Lex.toLex_lt_toLex]

/-- A value between two finite values is a finite number: `+∞` lies above every finite
value and `-∞` below. -/
theorem finite_of_le_of_le {lo x hi : Float} (hlo : lo ≤ x) (hhi : x ≤ hi)
    (hlo' : lo.isInf = false) (hhi' : hi.isInf = false) : x.isNaN = false ∧ x.isInf = false := by
  obtain ⟨hnan, -, hkey⟩ := le_iff.mp hhi
  obtain ⟨-, -, hkey'⟩ := le_iff.mp hlo
  refine ⟨hnan, ?_⟩
  rw [isInf_eq_view] at hlo' hhi' ⊢
  cases hv : view x with
  | infinity s =>
    exfalso
    rw [hv] at hkey hkey'
    cases s with
    | positive =>
      cases hvh : view hi with
      | infinity s' =>
        rw [hvh] at hhi'
        simp [UnpackedFloat.isInf] at hhi'
      | finite s' => cases s' <;> simp_all [orderKey, Prod.Lex.toLex_le_toLex]
      | _ => simp_all [orderKey, Prod.Lex.toLex_le_toLex]
    | negative =>
      cases hvl : view lo with
      | infinity s' =>
        rw [hvl] at hlo'
        simp [UnpackedFloat.isInf] at hlo'
      | finite s' => cases s' <;> simp_all [orderKey, Prod.Lex.toLex_le_toLex]
      | _ => simp_all [orderKey, Prod.Lex.toLex_le_toLex]
  | _ => rfl

end Airspace.IEEE754
