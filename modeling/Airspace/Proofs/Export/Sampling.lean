import Mathlib.Algebra.Order.Floor.Ring
import Airspace.Export.Track
import Airspace.Proofs.Telemetry.Steps
import Airspace.Proofs.Time.Rfc3339
import Airspace.Proofs.Track.Buffer

/-!
# Sampling a position over time

`track` and `liveTrack` compute how many points they take before taking them. The loops
they stand for step an instant at a time: forward from a period's start while the instant is
before the period's end (`forwardTimes`), and backward from `now` while the instant is not
before `now - lookback` (`backwardTimes`). Each loop is shown to stop after the count the
closed form computes (`forwardTimes_eq_range`, `backwardTimes_eq_range`), so the two
functions sample exactly what the loops visit (`Period.points_eq`,
`liveTrack_eq_backwardTimes`).

What the loops visit follows. A period `[start, stop)` gets the points at `start + k·step`
for `k < max 0 ⌈(stop - start) / step⌉`, in strictly increasing time and all before `stop`
(`track_samples_half_open_periods`). A look-back `L` within the duration range, other than
the least one, gets the points at `now - k·step` for `k ≤ ⌊L / step⌋`, newest first, when
`L ≥ 0`, and none when `L < 0` (`liveTrack_samples_back`). The least duration `-2^63` ns is
negated as 64-bit arithmetic negates it, to itself, so it looks back `2^63` ns
(`liveTrack_least_lookback`).
-/

namespace Airspace.Time

/-! ## Instants a step apart -/

theorem Timestamp.add_offset (t : Timestamp) (d : Duration) : (t.add d).offset = t.offset := rfl

theorem Timestamp.add_zero (t : Timestamp) : t.add 0 = t := by
  rw [Timestamp.add, Int.add_zero]
  exact ofEpochNanos_epochNanos t

theorem Timestamp.add_add (t : Timestamp) (a b : Duration) : (t.add a).add b = t.add (a + b) := by
  rw [Timestamp.add, Telemetry.epochNanos_add, Timestamp.add_offset, Int.add_assoc]
  rfl

/-- The instant `k + 1` steps on is the one `k` steps on from a step on. -/
theorem Timestamp.add_succ_mul (t : Timestamp) (d : Duration) (k : Nat) :
    t.add (d * (k + 1 : Nat)) = (t.add d).add (d * k) := by
  rw [Timestamp.add_add, Nat.cast_succ, Int.mul_add, Int.mul_one, Int.add_comm]

/-- The instant `k + 1` steps back is the one `k` steps back from a step back. -/
theorem Timestamp.add_neg_succ_mul (t : Timestamp) (d : Duration) (k : Nat) :
    t.add (-(d * (k + 1 : Nat))) = (t.add (-d)).add (-(d * k)) := by
  rw [Timestamp.add_add, Nat.cast_succ, Int.mul_add, Int.mul_one, Int.neg_add, Int.add_comm]

theorem Timestamp.before_add_iff {t u : Timestamp} {d : Duration} :
    (t.add d).before u = true ↔ t.epochNanos + d < u.epochNanos := by
  rw [Track.before_eq_true_iff, Telemetry.epochNanos_add]

end Airspace.Time

namespace Airspace.Export

open Airspace.Time Airspace.Geo

theorem effectiveStep_pos (step : Duration) : 0 < effectiveStep step := by
  unfold effectiveStep defaultStep
  split <;> simp only [Duration] at * <;> omega

/-! ## The sampling loops -/

/-- The instants `t, t + step, t + 2·step, …` while before `stop`: the loop that samples a
period. It does not run for a step that is not positive. -/
def forwardTimes (stop : Timestamp) (step : Duration) (t : Timestamp) : List Timestamp :=
  if 0 < step ∧ t.before stop = true then t :: forwardTimes stop step (t.add step) else []
termination_by (stop.epochNanos - t.epochNanos).toNat
decreasing_by
  obtain ⟨hstep, hbefore⟩ := ‹0 < step ∧ t.before stop = true›
  have hstep : (0 : Int) < step := hstep
  rw [Telemetry.epochNanos_add]
  have := Track.before_eq_true_iff.mp hbefore
  omega

/-- The instants `t, t - step, t - 2·step, …` while not before `last`: the loop that samples
backwards. It does not run for a step that is not positive. -/
def backwardTimes (last : Timestamp) (step : Duration) (t : Timestamp) : List Timestamp :=
  if 0 < step ∧ t.before last = false then t :: backwardTimes last step (t.add (-step)) else []
termination_by (t.epochNanos - last.epochNanos + 1).toNat
decreasing_by
  obtain ⟨hstep, hlast⟩ := ‹0 < step ∧ t.before last = false›
  have hstep : (0 : Int) < step := hstep
  rw [Telemetry.epochNanos_add]
  simp only [Timestamp.before, decide_eq_false_iff_not, Int.not_lt] at hlast
  omega

/-- The forward loop stops after `n` instants when the first `n` multiples of the step are
before `stop` and the next is not. The rest of the loop runs from `t + step`, one multiple fewer. -/
theorem forwardTimes_eq_of_stops {stop : Timestamp} {step : Duration} (hstep : 0 < step) :
    ∀ (n : Nat) (t : Timestamp), (∀ k < n, (t.add (step * k)).before stop = true) →
      (t.add (step * n)).before stop = false →
      forwardTimes stop step t = (List.range n).map fun (k : Nat) => t.add (step * k)
  | 0, t, _, hlast => by
    rw [forwardTimes, if_neg fun h => by simp [Timestamp.add_zero, h.2] at hlast]
    rfl
  | n + 1, t, hbefore, hlast => by
    have hfirst : t.before stop = true := by simpa [Timestamp.add_zero] using hbefore 0 (by omega)
    have hrest := forwardTimes_eq_of_stops hstep n (t.add step)
      (fun k hk => by rw [← Timestamp.add_succ_mul]; exact hbefore (k + 1) (by omega))
      (by rw [← Timestamp.add_succ_mul]; exact hlast)
    rw [forwardTimes, if_pos ⟨hstep, hfirst⟩, hrest, List.range_succ_eq_map, List.map_cons,
      List.map_map]
    congr 1
    · simp [Timestamp.add_zero]
    · exact List.map_congr_left fun k _ => (Timestamp.add_succ_mul t step k).symm

/-- The backward loop stops after `n` instants when the first `n` are not before `last` and
the next is. The rest of the loop runs from `t - step`, one multiple fewer. -/
theorem backwardTimes_eq_of_stops {last : Timestamp} {step : Duration} (hstep : 0 < step) :
    ∀ (n : Nat) (t : Timestamp), (∀ k < n, (t.add (-(step * k))).before last = false) →
      (t.add (-(step * n))).before last = true →
      backwardTimes last step t = (List.range n).map fun (k : Nat) => t.add (-(step * k))
  | 0, t, _, hlast => by
    rw [backwardTimes, if_neg fun h => by simp [Timestamp.add_zero, h.2] at hlast]
    rfl
  | n + 1, t, hbefore, hlast => by
    have hfirst : t.before last = false := by simpa [Timestamp.add_zero] using hbefore 0 (by omega)
    have hrest := backwardTimes_eq_of_stops hstep n (t.add (-step))
      (fun k hk => by rw [← Timestamp.add_neg_succ_mul]; exact hbefore (k + 1) (by omega))
      (by rw [← Timestamp.add_neg_succ_mul]; exact hlast)
    rw [backwardTimes, if_pos ⟨hstep, hfirst⟩, hrest, List.range_succ_eq_map, List.map_cons,
      List.map_map]
    congr 1
    · simp [Timestamp.add_zero]
    · exact List.map_congr_left fun k _ => (Timestamp.add_neg_succ_mul t step k).symm

/-! ## Where the loops stop -/

section Count

variable {d step : Int}

/-- For a positive step, `stepsBelow` counts nothing below a span that is not positive, and
otherwise one more than the multiples strictly inside it. -/
theorem stepsBelow_eq (hs : 0 < step) :
    stepsBelow d step = if d ≤ 0 then 0 else Telemetry.insertionCount d step + 1 := by
  unfold stepsBelow Telemetry.insertionCount
  by_cases hd : d ≤ 0
  · simp [hd]
  · have hq : (d + step - 1) / step = (d - 1) / step + 1 := by
      rw [show d + step - 1 = d - 1 + 1 * step by omega, Int.add_mul_ediv_right _ _ (by omega)]
    have hnonneg : 0 ≤ (d - 1) / step := Int.ediv_nonneg (by omega) hs.le
    simp only [hd, show ¬ step ≤ 0 by omega, decide_false, Bool.or_false, Bool.false_eq_true,
      if_false, hq]
    omega

/-- The multiples `k·step` that `stepsBelow` counts are below the span, and the next is not. -/
theorem stepsBelow_stops (hs : 0 < step) :
    (∀ k : Nat, k < stepsBelow d step → k * step < d) ∧ d ≤ stepsBelow d step * step := by
  rw [stepsBelow_eq hs]
  split
  · exact ⟨fun k hk => absurd hk (Nat.not_lt_zero k), by simpa⟩
  · next hd =>
    have hd : 0 < d := by omega
    obtain ⟨hlt, hle⟩ := Telemetry.insertionCount_spec hs hd
    refine ⟨fun k hk => ?_, by push_cast; exact hle⟩
    have hmul : (k : Int) * step ≤ Telemetry.insertionCount d step * step :=
      Int.mul_le_mul_of_nonneg_right (by omega) hs.le
    omega

/-- The count is `⌈d / step⌉`, or none when that is not positive. -/
theorem stepsBelow_eq_ceil (hs : 0 < step) :
    (stepsBelow d step : Int) = max 0 ⌈(d : ℚ) / step⌉ := by
  have hsq : (0 : ℚ) < step := by exact_mod_cast hs
  rw [stepsBelow_eq hs]
  split
  · next hd =>
    have hceil : ⌈(d : ℚ) / step⌉ ≤ 0 := Int.ceil_le.mpr (by
      rw [Int.cast_zero]
      exact div_nonpos_of_nonpos_of_nonneg (by exact_mod_cast hd) hsq.le)
    simp [hceil]
  · next hd =>
    have hceil := Telemetry.insertionCount_eq_ceil hs (by omega : 0 < d)
    push_cast
    omega

end Count

/-- The forward loop visits the multiples of the step below the span to `stop`. -/
theorem forwardTimes_eq_range {step : Duration} (hs : 0 < step) (start stop : Timestamp) :
    forwardTimes stop step start =
      (List.range (stepsBelow (stop.epochNanos - start.epochNanos) step)).map
        fun (k : Nat) => start.add (step * k) := by
  obtain ⟨hbelow, hlast⟩ := stepsBelow_stops (d := stop.epochNanos - start.epochNanos) hs
  refine forwardTimes_eq_of_stops hs _ start (fun k hk => ?_) ?_
  · have := hbelow k hk
    rw [Timestamp.before_add_iff, Int.mul_comm]
    omega
  · rw [← Bool.not_eq_true, Timestamp.before_add_iff, Int.mul_comm]
    omega

/-- The backward loop visits `⌊span / step⌋ + 1` instants over a span that is not negative,
and none over a negative one. -/
theorem backwardTimes_eq_range {step : Duration} (hs : 0 < step) (now last : Timestamp) :
    backwardTimes last step now =
      (List.range (if now.epochNanos - last.epochNanos < 0 then 0
        else ((now.epochNanos - last.epochNanos) / step).toNat + 1)).map
        fun (k : Nat) => now.add (-(step * k)) := by
  have hs' : (0 : Int) < step := hs
  split
  · next hspan =>
    refine backwardTimes_eq_of_stops hs 0 now (fun k hk => absurd hk (Nat.not_lt_zero k)) ?_
    rw [Timestamp.before_add_iff]
    omega
  · next hspan =>
    have hq : 0 ≤ (now.epochNanos - last.epochNanos) / step := Int.ediv_nonneg (by omega) hs'.le
    have hle := Int.ediv_mul_le (now.epochNanos - last.epochNanos) (Int.ne_of_gt hs')
    have hlt := Int.lt_ediv_add_one_mul_self (now.epochNanos - last.epochNanos) hs'
    refine backwardTimes_eq_of_stops hs _ now (fun k hk => ?_) ?_
    · have hk : (k : Int) ≤ (now.epochNanos - last.epochNanos) / step := by omega
      have hmul : (k : Int) * step ≤ (now.epochNanos - last.epochNanos) / step * step :=
        Int.mul_le_mul_of_nonneg_right hk hs'.le
      rw [← Bool.not_eq_true, Timestamp.before_add_iff, Int.mul_comm]
      omega
    · rw [Timestamp.before_add_iff, Int.mul_comm]
      push_cast
      rw [Int.toNat_of_nonneg hq]
      omega

/-! ## Tracks over periods -/

/-- The instants at which a period is sampled: from its start, a step at a time, while
before its end. -/
def Period.times (p : Period) (step : Duration) : List Timestamp :=
  forwardTimes p.stop (effectiveStep step) p.start

/-- A period's point at each instant its loop visits, the first failure of the position
ending the track. -/
theorem Period.points_eq {ε : Type} (positionAt : Timestamp → Except ε (Position Float))
    (p : Period) (step : Duration) :
    p.points positionAt step =
      (p.times step).mapM fun t => do return ⟨t, ← positionAt t⟩ := by
  rw [Period.times, forwardTimes_eq_range (effectiveStep_pos step), List.mapM_map]
  rfl

theorem Period.points_of_total {ε : Type} (f : Timestamp → Position Float) (p : Period)
    (step : Duration) :
    p.points (fun t => (.ok (f t) : Except ε (Position Float))) step =
      .ok ((p.times step).map fun t => ⟨t, f t⟩) := by
  rw [Period.points_eq]
  exact List.mapM_pure

theorem Period.times_eq_range (p : Period) (step : Duration) :
    p.times step =
      (List.range (stepsBelow (p.stop.epochNanos - p.start.epochNanos) (effectiveStep step))).map
        fun (k : Nat) => p.start.add (effectiveStep step * k) :=
  forwardTimes_eq_range (effectiveStep_pos step) p.start p.stop

theorem Period.length_times (p : Period) (step : Duration) :
    (p.times step).length =
      stepsBelow (p.stop.epochNanos - p.start.epochNanos) (effectiveStep step) := by
  rw [p.times_eq_range, List.length_map, List.length_range]

/-- A period is sampled in strictly increasing time. -/
theorem Period.times_increasing (p : Period) (step : Duration) :
    (p.times step).Pairwise fun a b => a.before b = true := by
  have hs := effectiveStep_pos step
  rw [p.times_eq_range, List.pairwise_map]
  refine List.pairwise_lt_range.imp fun {j k} hjk => ?_
  have hmul : effectiveStep step * j < effectiveStep step * k :=
    Int.mul_lt_mul_of_pos_left (by exact_mod_cast hjk) hs
  rw [Timestamp.before_add_iff, Telemetry.epochNanos_add]
  simp only [Duration] at hmul ⊢
  omega

/-- Every sample of a period lies before its end. -/
theorem Period.before_stop_of_mem_times {p : Period} {step : Duration} {t : Timestamp}
    (ht : t ∈ p.times step) : t.before p.stop = true := by
  rw [p.times_eq_range, List.mem_map] at ht
  obtain ⟨k, hk, rfl⟩ := ht
  have hbelow := (stepsBelow_stops (d := p.stop.epochNanos - p.start.epochNanos)
    (effectiveStep_pos step)).1 k (List.mem_range.mp hk)
  rw [Timestamp.before_add_iff, Int.mul_comm]
  omega

/-- The track of a position that never fails: every period in turn, each sampled at
`start + k·step` while before its end. So a period spanning `d` nanoseconds gets
`max 0 ⌈d / step⌉` points, in strictly increasing time, none at or past its end; an empty
or inverted period gets none. -/
theorem track_samples_half_open_periods {ε : Type} (f : Timestamp → Position Float)
    (periods : List Period) (step : Duration) :
    track (fun t => (.ok (f t) : Except ε (Position Float))) periods step =
        .ok (periods.flatMap fun p => (p.times step).map fun t => ⟨t, f t⟩) ∧
      ∀ p : Period,
        p.times step = (List.range (p.times step).length).map
          (fun (k : Nat) => p.start.add (effectiveStep step * k)) ∧
        ((p.times step).length : Int) =
          max 0 ⌈((p.stop.epochNanos - p.start.epochNanos : Int) : ℚ) /
            (effectiveStep step : ℚ)⌉ ∧
        (p.times step).Pairwise (fun a b => a.before b = true) ∧
        ∀ t ∈ p.times step, t.before p.stop = true := by
  refine ⟨?_, fun p =>
    ⟨?_, ?_, p.times_increasing step, fun t ht => Period.before_stop_of_mem_times ht⟩⟩
  · have hpoints :
        (fun p : Period => p.points (fun t => (.ok (f t) : Except ε (Position Float))) step) =
        fun p => pure ((p.times step).map fun t => ⟨t, f t⟩) :=
      funext fun p => Period.points_of_total f p step
    simp only [track, hpoints, List.mapM_pure, List.flatMap_def]
    rfl
  · rw [p.length_times, ← p.times_eq_range]
  · rw [p.length_times]
    exact stepsBelow_eq_ceil (effectiveStep_pos step)

/-! ## Live tracks -/

/-- The live track samples what the backward loop visits, from `now` down to `now` shifted by
the look-back negated with 64-bit wraparound. -/
theorem liveTrack_eq_backwardTimes {ε : Type}
    (positionAt : Timestamp → Except ε (Position Float)) (now : Timestamp)
    (lookback step : Duration) :
    liveTrack positionAt now lookback step =
      (backwardTimes (now.add (Duration.wrap (-lookback))) (effectiveStep step) now).mapM
        fun t => do return ⟨t, ← positionAt t⟩ := by
  have hspan : now.epochNanos - (now.add (Duration.wrap (-lookback))).epochNanos =
      -Duration.wrap (-lookback) := by
    rw [Telemetry.epochNanos_add]
    omega
  rw [backwardTimes_eq_range (effectiveStep_pos step), hspan, List.mapM_map]
  rfl

/-- The backward loop visits its instants newest first. -/
theorem backwardTimes_decreasing {step : Duration} (hs : 0 < step) (now last : Timestamp) :
    (backwardTimes last step now).Pairwise fun a b => b.before a = true := by
  rw [backwardTimes_eq_range hs, List.pairwise_map]
  refine List.pairwise_lt_range.imp fun {j k} hjk => ?_
  have hmul : step * j < step * k := Int.mul_lt_mul_of_pos_left (by exact_mod_cast hjk) hs
  rw [Timestamp.before_add_iff, Telemetry.epochNanos_add]
  simp only [Duration] at hmul ⊢
  omega

/-- A 64-bit negation changes nothing but the least duration. -/
theorem wrap_neg_of_gt_min {d : Duration} (hlo : Duration.min < d) (hhi : d ≤ Duration.max) :
    Duration.wrap (-d) = -d := by
  rw [Telemetry.wrap_eq]
  rw [Telemetry.duration_min_eq] at hlo
  rw [Telemetry.duration_max_eq] at hhi
  simp only [Duration] at hlo hhi ⊢
  split <;> omega

/-- The least duration negates to itself. -/
theorem wrap_neg_min : Duration.wrap (-Duration.min) = -2 ^ 63 := by
  rw [Telemetry.duration_min_eq, Telemetry.wrap_of_ge (by norm_num) (by norm_num)]
  norm_num

/-- For a look-back other than the least duration, the live track of a position that never
fails holds the points at `now - k·step` for `k = 0 … ⌊lookback / step⌋`, newest first, when
the look-back is not negative, and none when it is. -/
theorem liveTrack_samples_back {ε : Type} (f : Timestamp → Position Float) (now : Timestamp)
    {lookback : Duration} (hlo : Duration.min < lookback) (hhi : lookback ≤ Duration.max)
    (step : Duration) :
    liveTrack (fun t => (.ok (f t) : Except ε (Position Float))) now lookback step =
        .ok ((backwardTimes (now.add (-lookback)) (effectiveStep step) now).map
          fun t => ⟨t, f t⟩) ∧
      backwardTimes (now.add (-lookback)) (effectiveStep step) now =
        (List.range (if lookback < 0 then 0 else (lookback / effectiveStep step).toNat + 1)).map
          (fun (k : Nat) => now.add (-(effectiveStep step * k))) ∧
      (backwardTimes (now.add (-lookback)) (effectiveStep step) now).Pairwise
        (fun a b => b.before a = true) := by
  have hspan : now.epochNanos - (now.add (-lookback)).epochNanos = lookback := by
    rw [Telemetry.epochNanos_add]
    omega
  refine ⟨?_, ?_, backwardTimes_decreasing (effectiveStep_pos step) _ _⟩
  · rw [liveTrack_eq_backwardTimes, wrap_neg_of_gt_min hlo hhi]
    exact List.mapM_pure
  · rw [backwardTimes_eq_range (effectiveStep_pos step), hspan]

/-- The least duration as a look-back looks back `2^63` ns: the live track holds the
`⌊2^63 / step⌋ + 1` points from `now` back to `now - 2^63` ns, never none. -/
theorem liveTrack_least_lookback {ε : Type} (f : Timestamp → Position Float) (now : Timestamp)
    (step : Duration) :
    liveTrack (fun t => (.ok (f t) : Except ε (Position Float))) now Duration.min step =
        .ok ((backwardTimes (now.add (-2 ^ 63)) (effectiveStep step) now).map
          fun t => ⟨t, f t⟩) ∧
      (backwardTimes (now.add (-2 ^ 63)) (effectiveStep step) now).length =
        (2 ^ 63 / effectiveStep step).toNat + 1 := by
  have hspan : now.epochNanos - (now.add (-2 ^ 63)).epochNanos = 2 ^ 63 := by
    rw [Telemetry.epochNanos_add]
    omega
  refine ⟨?_, ?_⟩
  · rw [liveTrack_eq_backwardTimes, wrap_neg_min]
    exact List.mapM_pure
  · rw [backwardTimes_eq_range (effectiveStep_pos step), hspan, List.length_map,
      List.length_range, if_neg (by norm_num)]

end Airspace.Export
