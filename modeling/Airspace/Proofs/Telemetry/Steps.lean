import Mathlib.Algebra.Order.Floor.Ring
import Mathlib.Data.List.Chain
import Airspace.Proofs.Telemetry.Densify

/-!
# How many points a gap gets

Across a bridged gap `g` the densifier counts offsets `step, 2·step, …` while they are below
`g`. Read over the integers, it inserts `⌈g/step⌉ - 1` points and stops at the offset
`⌈g/step⌉·step`. The offsets are 64-bit, and that reading holds exactly when this last offset
is still a duration (`insertedOffsets_eq_iff_fits`). Past that, the addition wraps to a
negative offset and the count goes on from there; across the widest gap, with an even step, it
never reaches the gap at all (`insertedOffsets_widest_gap_even_step`).

When no addition wraps, each pair of consecutive reports gets exactly the points
`lerp a b (k·step/g)` stamped `a + k·step`, for `k = 1 … ⌈g/step⌉ - 1`, all strictly between
the two reports. Within a pair less than `2^63` ns apart, consecutive points are at most a step
apart, and a track in strictly increasing time stays so (`apply_inserts_steps`). The gap is
the difference of the two instants clamped to the duration range, so a pair further apart
than that gets points over its first `2^63 - 1` ns only (`steps_stop_short_of_distant_report`).
-/

namespace Airspace.Telemetry

open Airspace.Time

/-! ## Counting steps -/

/-- `⌈gap / step⌉ - 1`: how many positive multiples of the step lie strictly below the gap. -/
def insertionCount (gap step : Int) : Nat := ((gap - 1) / step).toNat

section Count

variable {gap step : Int}

/-- The multiples `step, …, n·step` are below the gap, and `(n + 1)·step` is not. -/
theorem insertionCount_spec (hs : 0 < step) (hg : 0 < gap) :
    (insertionCount gap step : Int) * step < gap ∧ gap ≤ (insertionCount gap step + 1) * step := by
  have hnonneg : 0 ≤ (gap - 1) / step := Int.ediv_nonneg (by omega) hs.le
  have hcount : (insertionCount gap step : Int) = (gap - 1) / step := Int.toNat_of_nonneg hnonneg
  rw [hcount]
  exact ⟨by have := Int.ediv_mul_le (gap - 1) (Int.ne_of_gt hs); omega,
    by have := Int.lt_ediv_add_one_mul_self (gap - 1) hs; omega⟩

theorem insertionCount_eq_ceil (hs : 0 < step) (hg : 0 < gap) :
    (insertionCount gap step : Int) = ⌈(gap : ℚ) / step⌉ - 1 := by
  obtain ⟨hlt, hle⟩ := insertionCount_spec hs hg
  have hsq : (0 : ℚ) < step := by exact_mod_cast hs
  have hceil : ⌈(gap : ℚ) / step⌉ = insertionCount gap step + 1 := by
    rw [Int.ceil_eq_iff]
    push_cast
    constructor
    · rw [add_sub_cancel_right, lt_div_iff₀ hsq]
      exact_mod_cast hlt
    · rw [div_le_iff₀ hsq]
      exact_mod_cast hle
  omega

/-- Past the first step, a bridged gap holds at least one more. -/
theorem one_le_insertionCount (hs : 0 < step) (hsg : step < gap) : 1 ≤ insertionCount gap step := by
  have hle := (insertionCount_spec hs (hs.trans hsg)).2
  by_contra hzero
  have hzero : (insertionCount gap step : Int) = 0 := by omega
  rw [hzero, zero_add, one_mul] at hle
  omega

/-- Each of the offsets `step, 2·step, …` that the count takes in lies below the gap. -/
theorem step_add_mul_lt_gap (hs : 0 < step) (hg : 0 < gap) {k : Nat}
    (hk : k < insertionCount gap step) : step + k * step < gap := by
  have hlt := (insertionCount_spec hs hg).1
  have hle : ((k : Int) + 1) * step ≤ insertionCount gap step * step :=
    Int.mul_le_mul_of_nonneg_right (by omega) hs.le
  linarith

end Count

/-! ## The loop across a gap -/

/-- The greatest duration, `2^63 - 1` ns. -/
theorem duration_max_eq : Duration.max = 2 ^ 63 - 1 := rfl

/-- The least duration, `-2^63` ns. -/
theorem duration_min_eq : Duration.min = -2 ^ 63 := rfl

theorem offsetFuel_eq : offsetFuel = 2 ^ 64 := rfl

/-- A 64-bit sum is its remainder modulo `2^64`, less `2^64` from `2^63` on. -/
theorem wrap_eq (d : Int) :
    Duration.wrap d = if d % 2 ^ 64 ≥ 2 ^ 63 then d % 2 ^ 64 - 2 ^ 64 else d % 2 ^ 64 := rfl

/-- A gap within the duration range holds fewer than `2^63` steps. -/
theorem insertionCount_lt {gap step : Int} (hs : 0 < step) (hg0 : 0 < gap)
    (hg : gap ≤ Duration.max) : (insertionCount gap step : Int) < 2 ^ 63 := by
  have hlt := (insertionCount_spec hs hg0).1
  have hn : (insertionCount gap step : Int) ≤ insertionCount gap step * step :=
    le_mul_of_one_le_right (Int.natCast_nonneg _) hs
  rw [duration_max_eq] at hg
  omega

/-- A 64-bit sum just past the greatest duration wraps to a negative one. -/
theorem wrap_of_ge {d : Int} (h0 : 2 ^ 63 ≤ d) (h1 : d < 2 ^ 64) : Duration.wrap d = d - 2 ^ 64 := by
  rw [wrap_eq, Int.emod_eq_of_lt (by omega) h1, if_pos h0]

/-- A wrapped sum is a duration of the parity of the exact one. -/
theorem wrap_mem_range (d : Int) :
    -2 ^ 63 ≤ Duration.wrap d ∧ Duration.wrap d ≤ Duration.max ∧ Duration.wrap d % 2 = d % 2 := by
  simp only [wrap_eq, duration_max_eq, Duration]
  split <;> omega

section Loop

variable {gap step : Int}

/-- What the loop has inserted stays inserted. -/
theorem mem_offsetsFrom_of_mem {x : Int} :
    ∀ (fuel : Nat) (t : Int) {acc : List Int}, x ∈ acc → x ∈ offsetsFrom gap step fuel t acc
  | 0, _, _, hx => List.mem_reverse.mpr hx
  | fuel + 1, t, acc, hx => by
    unfold offsetsFrom
    split
    · exact mem_offsetsFrom_of_mem fuel _ (List.mem_cons_of_mem t hx)
    · exact List.mem_reverse.mpr hx

/-- An offset below the gap, with a step left to take, is inserted. -/
theorem mem_offsetsFrom_self {fuel : Nat} {t : Int} (acc : List Int) (hfuel : 0 < fuel)
    (ht : t < gap) : t ∈ offsetsFrom gap step fuel t acc := by
  obtain ⟨fuel, rfl⟩ : ∃ f, fuel = f + 1 := ⟨fuel - 1, by omega⟩
  rw [offsetsFrom, if_pos ht]
  exact mem_offsetsFrom_of_mem fuel _ List.mem_cons_self

/-- The loop stops at an offset that has reached the gap. -/
theorem offsetsFrom_of_le {t : Int} (fuel : Nat) (acc : List Int) (ht : gap ≤ t) :
    offsetsFrom gap step fuel t acc = acc.reverse := by
  cases fuel with
  | zero => rfl
  | succ fuel => rw [offsetsFrom, if_neg (Int.not_lt.mpr ht)]

/-- Taking `n` steps below the gap, none of which leaves the duration range, inserts
`t, t + step, …, t + (n - 1)·step` and goes on from `t + n·step`. -/
theorem offsetsFrom_steps (hstep : 0 < step) :
    ∀ (n fuel : Nat) (t : Int) (acc : List Int), n ≤ fuel → 0 ≤ t →
      (∀ k < n, t + k * step < gap) → t + n * step ≤ Duration.max →
      offsetsFrom gap step fuel t acc =
        offsetsFrom gap step (fuel - n) (t + n * step)
          (((List.range n).map fun k : Nat => t + k * step).reverse ++ acc)
  | 0, fuel, t, acc, _, _, _, _ => by simp
  | n + 1, fuel, t, acc, hfuel, ht, hbelow, hmax => by
    obtain ⟨fuel, rfl⟩ : ∃ f, fuel = f + 1 := ⟨fuel - 1, by omega⟩
    have hfirst : t < gap := by simpa using hbelow 0 (Nat.succ_pos n)
    have hnext : Duration.wrap (t + step) = t + step := by
      apply wrap_of_lt (by omega)
      rw [duration_max_eq] at hmax
      push_cast at hmax
      nlinarith
    rw [offsetsFrom, if_pos hfirst, hnext,
      offsetsFrom_steps hstep n fuel (t + step) (t :: acc) (by omega) (by omega)
        (fun k hk => by have := hbelow (k + 1) (by omega); push_cast at this; linarith)
        (by push_cast at hmax; linarith)]
    congr 1
    · omega
    · push_cast
      ring
    · rw [List.range_succ_eq_map, List.map_cons, List.map_map, List.reverse_cons,
        List.append_assoc, List.singleton_append]
      congr 2
      · refine List.map_congr_left fun k _ => ?_
        simp only [Function.comp_apply, Nat.succ_eq_add_one]
        push_cast
        ring
      · simp

/-- When the last addition stays a duration, the loop across a bridged gap inserts exactly
the offsets `step, 2·step, …, (⌈gap/step⌉ - 1)·step`, and stops. -/
theorem insertedOffsets_of_fits (hs : 0 < step) (hsg : step < gap) (hg : gap ≤ Duration.max)
    (hfit : (insertionCount gap step + 1) * step ≤ Duration.max) :
    insertedOffsets gap step =
      (List.range' 1 (insertionCount gap step)).map fun k : Nat => (k : Int) * step := by
  obtain ⟨hlt, hle⟩ := insertionCount_spec hs (hs.trans hsg)
  have hcount := insertionCount_lt hs (hs.trans hsg) hg
  set n := insertionCount gap step
  unfold insertedOffsets
  rw [offsetsFrom_steps hs n offsetFuel step [] (by rw [offsetFuel_eq]; omega) hs.le
      (fun _ hk => step_add_mul_lt_gap hs (hs.trans hsg) hk) (by linarith),
    offsetsFrom_of_le _ _ (by linarith), List.append_nil, List.reverse_reverse,
    List.range'_eq_map_range, List.map_map]
  refine List.map_congr_left fun k _ => ?_
  simp only [Function.comp_apply]
  push_cast
  ring

/-- The loop across a bridged gap inserts exactly `⌈gap/step⌉ - 1` offsets, `step, 2·step, …`,
and stops there, if and only if its last addition, reaching `⌈gap/step⌉·step`, stays within the
duration range. Otherwise that addition wraps to a negative offset, which is inserted too. The first
`n - 1` steps stay in range and reach `n·step`, still below the gap. The next addition overflows:
`(n + 1)·step` is past the range but below `2^64`. -/
theorem insertedOffsets_eq_iff_fits (hs : 0 < step) (hsg : step < gap) (hg : gap ≤ Duration.max) :
    insertedOffsets gap step =
        (List.range' 1 (insertionCount gap step)).map (fun k : Nat => (k : Int) * step) ↔
      (insertionCount gap step + 1) * step ≤ Duration.max := by
  refine ⟨fun heq => ?_, insertedOffsets_of_fits hs hsg hg⟩
  by_contra hover
  obtain ⟨hlt, hle⟩ := insertionCount_spec hs (hs.trans hsg)
  have hone := one_le_insertionCount hs hsg
  have hcount := insertionCount_lt hs (hs.trans hsg) hg
  set n := insertionCount gap step
  rw [duration_max_eq] at hg hover
  have hlast : step + ((n - 1 : Nat) : Int) * step = n * step := by
    rw [Nat.cast_sub hone]
    ring
  have hsteps := @offsetsFrom_steps gap step hs (n - 1) offsetFuel step []
    (by rw [offsetFuel_eq]; omega) hs.le
    (fun _ hk => step_add_mul_lt_gap hs (hs.trans hsg) (by omega))
    (by rw [hlast, duration_max_eq]; linarith)
  obtain ⟨fuel, hfuel⟩ : ∃ f, offsetFuel - (n - 1) = f + 1 + 1 := ⟨offsetFuel - (n - 1) - 2, by
    rw [offsetFuel_eq]; omega⟩
  have hwrap : Duration.wrap (n * step + step) = (n + 1) * step - 2 ^ 64 :=
    (wrap_of_ge (by linarith) (by linarith)).trans (by ring)
  have hmem : (n + 1) * step - 2 ^ 64 ∈ insertedOffsets gap step := by
    unfold insertedOffsets
    rw [hsteps, hlast, hfuel, offsetsFrom, if_pos hlt, hwrap]
    exact mem_offsetsFrom_self _ (Nat.succ_pos fuel) (by linarith)
  rw [heq] at hmem
  obtain ⟨k, hk, hkeq⟩ := List.mem_map.mp hmem
  have hk1 : 1 ≤ k := (List.mem_range'_1.mp hk).1
  have : (0 : Int) < k * step := Int.mul_pos (by omega) hs
  linarith

/-- A step of a third of the widest gap, across a gap one nanosecond longer: the integers give
one point, but the second addition overflows and the loop goes on. -/
theorem insertedOffsets_third_of_range_wraps :
    (0 : Int) < 6148914691236517206 ∧ (6148914691236517206 : Int) < 6148914691236517207 ∧
      (6148914691236517207 : Int) ≤ Duration.max ∧
      insertedOffsets 6148914691236517207 6148914691236517206 ≠
        (List.range' 1 (insertionCount 6148914691236517207 6148914691236517206)).map
          (fun k : Nat => (k : Int) * 6148914691236517206) := by
  have hs : (0 : Int) < 6148914691236517206 := by decide
  have hsg : (6148914691236517206 : Int) < 6148914691236517207 := by decide
  have hg : (6148914691236517207 : Int) ≤ Duration.max := by decide
  refine ⟨hs, hsg, hg, fun heq => ?_⟩
  have hfits := (insertedOffsets_eq_iff_fits hs hsg hg).mp heq
  exact absurd hfits (by decide)

/-- Across the widest gap, `2^63 - 1` ns, a loop with an even step never reaches the gap: every
one of its offsets is even, and the gap is odd. Each of the `2^64` steps that decide the run
inserts a point. An even offset never equals the odd widest gap. -/
theorem insertedOffsets_widest_gap_even_step (hs : 0 < step) (hmax : step ≤ Duration.max)
    (heven : step % 2 = 0) : (insertedOffsets Duration.max step).length = offsetFuel := by
  have hrun : ∀ (fuel : Nat) (t : Int) (acc : List Int), -2 ^ 63 ≤ t → t ≤ Duration.max →
      t % 2 = 0 → (offsetsFrom Duration.max step fuel t acc).length = acc.length + fuel := by
    intro fuel
    induction fuel with
    | zero => intro t acc _ _ _; simp [offsetsFrom]
    | succ fuel ih =>
      intro t acc hlo hhi hpar
      have hbelow : t < Duration.max := by
        rw [duration_max_eq] at hhi ⊢
        omega
      obtain ⟨hlo', hhi', hpar'⟩ := wrap_mem_range (t + step)
      have hnext : Duration.wrap (t + step) % 2 = 0 := by
        simp only [Duration] at hpar' ⊢
        omega
      rw [offsetsFrom, if_pos hbelow, ih _ _ hlo' hhi' hnext, List.length_cons]
      omega
  have hlo : -2 ^ 63 ≤ step := by omega
  exact (hrun offsetFuel step [] hlo hmax heven).trans (Nat.zero_add _)

theorem insertedOffsets_widest_gap_two_ns :
    (0 : Int) < 2 ∧ (2 : Int) ≤ Duration.max ∧ (2 : Int) % 2 = 0 ∧
      (insertedOffsets Duration.max 2).length = offsetFuel :=
  ⟨by decide, by decide, by decide,
    @insertedOffsets_widest_gap_even_step 2 (by decide) (by decide) (by decide)⟩

end Loop

/-! ## The points across a pair of reports -/

/-- A clamped difference is never past the greatest duration. -/
theorem sub_le_max (a b : Timestamp) : b.sub a ≤ Duration.max := by
  simp only [Timestamp.sub, Duration.saturate, duration_min_eq, duration_max_eq, Duration]
  split_ifs <;> omega

/-- A positive clamped difference is at most the exact one. -/
theorem sub_le_epochNanos {a b : Timestamp} (h : 0 < b.sub a) :
    b.sub a ≤ b.epochNanos - a.epochNanos := by
  simp only [Timestamp.sub, Duration.saturate, duration_min_eq, duration_max_eq, Duration] at h ⊢
  split_ifs at h ⊢ <;> omega

/-- A difference within the duration range is not clamped. -/
theorem sub_eq_epochNanos {a b : Timestamp} (h0 : 0 ≤ b.epochNanos - a.epochNanos)
    (h1 : b.epochNanos - a.epochNanos ≤ Duration.max) : b.sub a = b.epochNanos - a.epochNanos := by
  simp only [Timestamp.sub, Duration.saturate, duration_min_eq, duration_max_eq, Duration] at h1 ⊢
  split_ifs <;> omega

namespace Densify

variable (c : Densify)

/-- No addition the loop across the gap from `a` to `b` makes leaves the 64-bit range: when
the gap is bridged, from every offset `k·step` below the gap the next one, `k·step + step`, is
still a duration. -/
def StepsFit (a b : Sample) : Prop :=
  c.bridges (b.timestamp.sub a.timestamp) = true →
    ∀ k : Nat, 0 < k → (k : Int) * c.effectiveStep < b.timestamp.sub a.timestamp →
      (k : Int) * c.effectiveStep + c.effectiveStep ≤ Duration.max

/-- A gap is bridged when it is longer than a step and, if bridging is bounded, no longer than
the bound. -/
theorem bridges_eq_true_iff {gap : Duration} :
    c.bridges gap = true ↔ c.effectiveStep < gap ∧ (c.maxGap ≤ 0 ∨ gap ≤ c.maxGap) := by
  simp only [Densify.bridges, Bool.not_eq_true', Bool.or_eq_false_iff, decide_eq_false_iff_not,
    Bool.and_eq_false_imp, decide_eq_true_eq, Duration]
  omega

variable {c} {a b : Sample}

/-- Across a bridged gap, the last addition of a loop that never overflows stays in range. -/
theorem StepsFit.fits (h : c.StepsFit a b) (hb : c.bridges (b.timestamp.sub a.timestamp) = true) :
    (insertionCount (b.timestamp.sub a.timestamp) c.effectiveStep + 1) * c.effectiveStep ≤
      Duration.max := by
  have hsg := ((bridges_eq_true_iff c).mp hb).1
  have hs := effectiveStep_pos c
  have hlt := (insertionCount_spec hs (hs.trans hsg)).1
  have hfit := h hb _ (one_le_insertionCount hs hsg) hlt
  linarith

/-- The loop never overflows when its last addition stays in range. The offset `k·step` is below the
gap, so `k` is at most the count. -/
theorem stepsFit_of_fits
    (h : c.bridges (b.timestamp.sub a.timestamp) = true →
      (insertionCount (b.timestamp.sub a.timestamp) c.effectiveStep + 1) * c.effectiveStep ≤
        Duration.max) : c.StepsFit a b := by
  intro hb k _ hk
  have hs := effectiveStep_pos c
  have hsg := ((bridges_eq_true_iff c).mp hb).1
  have hle := (insertionCount_spec hs (hs.trans hsg)).2
  have hkn : (k : Int) ≤ insertionCount (b.timestamp.sub a.timestamp) c.effectiveStep := by
    by_contra hover
    have : ((insertionCount (b.timestamp.sub a.timestamp) c.effectiveStep : Int) + 1) *
        c.effectiveStep ≤ k * c.effectiveStep :=
      Int.mul_le_mul_of_nonneg_right (by omega) hs.le
    linarith
  have : ((k : Int) + 1) * c.effectiveStep ≤
      ((insertionCount (b.timestamp.sub a.timestamp) c.effectiveStep : Int) + 1) * c.effectiveStep :=
    Int.mul_le_mul_of_nonneg_right (by omega) hs.le
  linarith [h hb]

/-- The points across a gap whose loop never overflows: at `a + k·step` for
`k = 1 … ⌈gap/step⌉ - 1`, each the sample `k·step/gap` of the way, when the gap is bridged. -/
theorem between_eq (h : c.StepsFit a b) :
    c.between a b =
      if c.effectiveStep < b.timestamp.sub a.timestamp ∧
          (c.maxGap ≤ 0 ∨ b.timestamp.sub a.timestamp ≤ c.maxGap) then
        (List.range' 1 (insertionCount (b.timestamp.sub a.timestamp) c.effectiveStep)).map
          fun k : Nat =>
            { lerp a b (Float.ofInt (k * c.effectiveStep) / Float.ofInt (b.timestamp.sub a.timestamp))
              with timestamp := a.timestamp.add (k * c.effectiveStep) }
      else [] := by
  unfold Densify.between
  by_cases hb : c.bridges (b.timestamp.sub a.timestamp) = true
  · have hsg := ((bridges_eq_true_iff c).mp hb).1
    rw [if_pos hb, if_pos ((bridges_eq_true_iff c).mp hb),
      insertedOffsets_of_fits (effectiveStep_pos c) hsg (sub_le_max _ _) (h.fits hb), List.map_map]
    rfl
  · rw [if_neg hb, if_neg (mt (bridges_eq_true_iff c).mpr hb)]

/-- The instants of the points across a bridged gap: `a + step, a + 2·step, …`. -/
theorem map_epochNanos_between (h : c.StepsFit a b)
    (hb : c.bridges (b.timestamp.sub a.timestamp) = true) :
    (c.between a b).map (fun x => x.timestamp.epochNanos) =
      (List.range (insertionCount (b.timestamp.sub a.timestamp) c.effectiveStep)).map
        fun k : Nat => a.timestamp.epochNanos + (k + 1) * c.effectiveStep := by
  rw [between_eq h, if_pos ((bridges_eq_true_iff c).mp hb), List.map_map, List.range'_eq_map_range,
    List.map_map]
  refine List.map_congr_left fun k _ => ?_
  simp only [Function.comp_apply, epochNanos_add]
  push_cast
  ring

/-- Each point across a gap lies strictly between its two reports. -/
theorem mem_between_strict (h : c.StepsFit a b) {x : Sample} (hx : x ∈ c.between a b) :
    a.timestamp.epochNanos < x.timestamp.epochNanos ∧
      x.timestamp.epochNanos < b.timestamp.epochNanos := by
  have hb : c.bridges (b.timestamp.sub a.timestamp) = true := by
    by_contra hb
    rw [Densify.between, if_neg hb] at hx
    exact List.not_mem_nil hx
  have hs := effectiveStep_pos c
  have hsg := ((bridges_eq_true_iff c).mp hb).1
  have hlt := (insertionCount_spec hs (hs.trans hsg)).1
  have hgap := sub_le_epochNanos (hs.trans hsg)
  have hmem := List.mem_map_of_mem (f := fun x : Sample => x.timestamp.epochNanos) hx
  rw [map_epochNanos_between h hb] at hmem
  obtain ⟨k, hk, hkx⟩ := List.mem_map.mp hmem
  have hkn : ((k : Int) + 1) * c.effectiveStep ≤
      insertionCount (b.timestamp.sub a.timestamp) c.effectiveStep * c.effectiveStep :=
    Int.mul_le_mul_of_nonneg_right (by have := List.mem_range.mp hk; omega) hs.le
  have hpos : 0 < ((k : Int) + 1) * c.effectiveStep := Int.mul_pos (by omega) hs
  constructor <;> linarith

end Densify

/-- A run `t, t + s, …, t + n·s` closed by `u` is a chain of a relation that every step of `s`
satisfies and that the last point and `u` satisfy. -/
theorem isChain_progression (R : Int → Int → Prop) {s : Int} (hstep : ∀ x, R x (x + s)) :
    ∀ (n : Nat) (t u : Int), R (t + n * s) u →
      (t :: ((List.range n).map (fun k : Nat => t + (k + 1) * s) ++ [u])).IsChain R
  | 0, t, u, hu => by simpa using hu
  | n + 1, t, u, hu => by
    have hlast : t + s + n * s = t + (n + 1 : Nat) * s := by
      push_cast
      ring
    have hrest := isChain_progression R hstep n (t + s) u (hlast ▸ hu)
    rw [List.range_succ_eq_map, List.map_cons, List.map_map, List.cons_append,
      List.isChain_cons_cons]
    refine ⟨by simpa using hstep t, ?_⟩
    convert hrest using 3
    · simp
    · refine List.map_congr_left fun k _ => ?_
      simp only [Function.comp_apply, Nat.succ_eq_add_one]
      push_cast
      ring

namespace Densify

variable {c : Densify} {a b : Sample}

/-- Within a pair less than `2^63` ns apart, the points and the two reports follow each other at
most a step apart. -/
theorem isChain_between_le_step (h : c.StepsFit a b)
    (hb : c.bridges (b.timestamp.sub a.timestamp) = true)
    (hnear : b.timestamp.epochNanos - a.timestamp.epochNanos ≤ Duration.max) :
    (a :: (c.between a b ++ [b])).IsChain
      fun x y => y.timestamp.epochNanos - x.timestamp.epochNanos ≤ c.effectiveStep := by
  have hs := effectiveStep_pos c
  have hsg := ((bridges_eq_true_iff c).mp hb).1
  have hle := (insertionCount_spec hs (hs.trans hsg)).2
  have hgap := sub_le_epochNanos (hs.trans hsg)
  have hexact := sub_eq_epochNanos (a := a.timestamp) (b := b.timestamp) (by linarith) hnear
  apply (List.isChain_map (fun x : Sample => x.timestamp.epochNanos)
    (R := fun p q => q - p ≤ c.effectiveStep)).mp
  rw [List.map_cons, List.map_append, map_epochNanos_between h hb, List.map_singleton]
  refine isChain_progression (fun p q => q - p ≤ c.effectiveStep) (fun x => by simp) _ _ _ ?_
  simp only [Duration] at hexact hle
  linarith

/-- Between two reports in increasing time, the points and the reports are in strictly
increasing time. -/
theorem isChain_between_lt (h : c.StepsFit a b)
    (hab : a.timestamp.epochNanos < b.timestamp.epochNanos) :
    (a :: (c.between a b ++ [b])).IsChain
      fun x y => x.timestamp.epochNanos < y.timestamp.epochNanos := by
  by_cases hb : c.bridges (b.timestamp.sub a.timestamp) = true
  · have hs := effectiveStep_pos c
    have hsg := ((bridges_eq_true_iff c).mp hb).1
    have hlt := (insertionCount_spec hs (hs.trans hsg)).1
    have hgap := sub_le_epochNanos (hs.trans hsg)
    apply (List.isChain_map (fun x : Sample => x.timestamp.epochNanos) (R := (· < ·))).mp
    rw [List.map_cons, List.map_append, map_epochNanos_between h hb, List.map_singleton]
    exact isChain_progression (· < ·) (fun x => by linarith) _ _ _ (by linarith)
  · rw [Densify.between, if_neg hb, List.nil_append]
    exact List.isChain_pair.mpr hab

/-- A densified track is a chain of a relation when, for each pair of consecutive reports, the
first report, the points across their gap and the second report are. -/
theorem isChain_apply {R : Sample → Sample → Prop} :
    ∀ {l : List Sample}, l.IsChain (fun a b => (a :: (c.between a b ++ [b])).IsChain R) →
      (c.apply l).IsChain R
  | [], _ => List.IsChain.nil
  | [a], _ => List.IsChain.singleton a
  | a :: b :: rest, h => by
    obtain ⟨hpair, hrest⟩ := List.isChain_cons_cons.mp h
    have htail : ∃ tail, c.apply (b :: rest) = b :: tail := by
      cases rest with
      | nil => exact ⟨[], rfl⟩
      | cons d rest => exact ⟨c.between b d ++ c.apply (d :: rest), rfl⟩
    obtain ⟨tail, htail⟩ := htail
    have hchain := isChain_apply hrest
    rw [htail] at hchain
    rw [Densify.apply.eq_3, htail]
    exact List.isChain_cons_split.mpr ⟨hpair, hchain⟩

/-- A densified track is its first report, then, for each pair of consecutive reports, the
points across their gap and the second report. -/
theorem apply_eq_flatMap (s : Sample) :
    ∀ rest : List Sample,
      c.apply (s :: rest) = s :: ((s :: rest).zip rest).flatMap fun p => c.between p.1 p.2 ++ [p.2]
  | [] => rfl
  | b :: rest => by
    rw [Densify.apply.eq_3, apply_eq_flatMap b rest, List.zip_cons_cons, List.flatMap_cons,
      List.append_assoc, List.singleton_append]

end Densify

/-- What densifying a track does, for every track and every configuration whose loops never
overflow. The reports come out in their order, each pair of consecutive reports `a`, `b` with
the points across their gap `g` (the clamped difference of their instants) between them. When
the step is shorter than `g` and `g` is within a positive bound, these points are exactly the
samples `k·step/g` of the way from `a` to `b` stamped `a + k·step`, for
`k = 1 … ⌈g/step⌉ - 1`; otherwise there are none. Every point lies strictly between its two
reports; within a pair less than `2^63` ns apart, consecutive points and reports are at most a
step apart; and a track in strictly increasing time is densified into one, each pair of
consecutive reports being in increasing time with a loop that never overflows. -/
theorem apply_inserts_steps (c : Densify) :
    (∀ (s : Sample) (rest : List Sample),
      c.apply (s :: rest) = s :: ((s :: rest).zip rest).flatMap fun p => c.between p.1 p.2 ++ [p.2]) ∧
    (∀ a b : Sample, c.StepsFit a b →
      let g := b.timestamp.sub a.timestamp
      let step := c.effectiveStep
      c.between a b =
          (if step < g ∧ (c.maxGap ≤ 0 ∨ g ≤ c.maxGap) then
            (List.range' 1 (insertionCount g step)).map fun k : Nat =>
              { lerp a b (Float.ofInt (k * step) / Float.ofInt g)
                with timestamp := a.timestamp.add (k * step) }
          else []) ∧
        (∀ x ∈ c.between a b, a.timestamp.epochNanos < x.timestamp.epochNanos ∧
          x.timestamp.epochNanos < b.timestamp.epochNanos) ∧
        (step < g → (c.maxGap ≤ 0 ∨ g ≤ c.maxGap) →
          b.timestamp.epochNanos - a.timestamp.epochNanos ≤ Duration.max →
          (a :: (c.between a b ++ [b])).IsChain
            fun x y => y.timestamp.epochNanos - x.timestamp.epochNanos ≤ step)) ∧
    ∀ l : List Sample, l.IsChain c.StepsFit →
      l.IsChain (fun x y => x.timestamp.epochNanos < y.timestamp.epochNanos) →
      (c.apply l).IsChain fun x y => x.timestamp.epochNanos < y.timestamp.epochNanos := by
  refine ⟨c.apply_eq_flatMap, fun a b h => ⟨Densify.between_eq h, fun x hx =>
    Densify.mem_between_strict h hx, fun hsg hmax hnear => ?_⟩, fun l hfit hord => ?_⟩
  · exact Densify.isChain_between_le_step h ((Densify.bridges_eq_true_iff c).mpr ⟨hsg, hmax⟩) hnear
  · have hpairs : l.IsChain fun a b =>
        c.StepsFit a b ∧ a.timestamp.epochNanos < b.timestamp.epochNanos :=
      List.isChain_iff_forall_rel_of_append_cons_cons.mpr fun _ _ _ _ hl =>
        ⟨List.isChain_iff_forall_rel_of_append_cons_cons.mp hfit hl,
          List.isChain_iff_forall_rel_of_append_cons_cons.mp hord hl⟩
    exact Densify.isChain_apply (hpairs.imp fun _ _ hpair => Densify.isChain_between_lt hpair.1 hpair.2)

/-- A report of `uas-1` at an instant, in nanoseconds since 1970. -/
def reportAt (nanos : Int) : Sample :=
  ⟨"uas-1", Timestamp.ofEpochNanos nanos, ⟨38.14, -76.43, 300⟩, 0⟩

/-- The instant 2000-01-01T00:00:00Z in nanoseconds since 1970. -/
def y2k : Int := 946684800000000000

theorem apply_inserts_steps_one_second :
    let c := Densify.default
    let a := reportAt y2k
    let b := reportAt (y2k + 1000000000)
    c.StepsFit a b ∧ [a, b].IsChain (fun x y => x.timestamp.epochNanos < y.timestamp.epochNanos) ∧
      (∀ x ∈ c.between a b, a.timestamp.epochNanos < x.timestamp.epochNanos ∧
        x.timestamp.epochNanos < b.timestamp.epochNanos) ∧
      (a :: (c.between a b ++ [b])).IsChain
        (fun x y => y.timestamp.epochNanos - x.timestamp.epochNanos ≤ c.effectiveStep) ∧
      (c.apply [a, b]).IsChain (fun x y => x.timestamp.epochNanos < y.timestamp.epochNanos) := by
  intro c a b
  have hfit : c.StepsFit a b := Densify.stepsFit_of_fits fun _ => by decide
  have hord : [a, b].IsChain (fun x y => x.timestamp.epochNanos < y.timestamp.epochNanos) :=
    List.isChain_pair.mpr (by decide)
  obtain ⟨-, hpair, hlist⟩ := apply_inserts_steps c
  obtain ⟨-, hstrict, hspaced⟩ := hpair a b hfit
  exact ⟨hfit, hord, hstrict, hspaced (by decide) (by decide) (by decide),
    hlist [a, b] (List.isChain_pair.mpr hfit) hord⟩

/-- A step of one seventh of the widest gap, with no bound on the gaps bridged. -/
def seventhStep : Densify := ⟨1317624576693539401, 0⟩

/-- Across two reports eight of its steps apart, about 334 years, the gap is clamped to seven
steps: no addition overflows, yet the points stop six steps in and the last of them is two
steps from the second report. -/
theorem steps_stop_short_of_distant_report :
    seventhStep.StepsFit (reportAt y2k) (reportAt (y2k + 8 * 1317624576693539401)) ∧
      seventhStep.bridges ((reportAt (y2k + 8 * 1317624576693539401)).timestamp.sub
        (reportAt y2k).timestamp) = true ∧
      ¬ (reportAt y2k :: (seventhStep.between (reportAt y2k) (reportAt (y2k + 8 * 1317624576693539401)) ++
          [reportAt (y2k + 8 * 1317624576693539401)])).IsChain
        fun x y => y.timestamp.epochNanos - x.timestamp.epochNanos ≤ seventhStep.effectiveStep :=
  ⟨Densify.stepsFit_of_fits fun _ => by decide, by decide, by decide +kernel⟩

end Airspace.Telemetry
