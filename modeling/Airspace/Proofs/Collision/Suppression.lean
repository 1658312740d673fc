import Airspace.Proofs.Collision.Observation

/-!
# Alerts of one pair stay a window apart

After an alert for a pair of obstacle and vehicle the detector keeps the alerted point's time as
the pair's record, and when it next checks the pair it looks only at points more than a window
after the record. So long as nothing is pruned a record only ever moves forward, to a later
alert, and any two alerts of one pair, in the order the detector raises them, are more than a
window apart (`alertsOver_same_pair_window_apart`).

The argument is one invariant, `Spaced`, between the alerts raised so far and the records: a
check that raises an alert does so at a point fresh for its pair and records it
(`Spaced.record`), so every check keeps the invariant, hence every observation and every run of
them. It rests, as the reading of an observation does, on the densified window being in instant
order, which holds when the largest bridged gap is positive and at most `2^62` ns; it asks
nothing of the obstacles or of the samples. Pruning is left out: a prune drops the record of an
alert a window behind the latest time seen, while the buffer may still hold points that the
record kept quiet.
-/

namespace Airspace.Collision

open Airspace.Obstacle Airspace.Telemetry Airspace.Track Airspace.Time

/-- The alerts raised so far against the alert records: alerts of one pair come more than
`window` apart in the order raised, and each lies at or before its pair's record. -/
structure Spaced (window : Duration) (raised : List Alert) (alerted : List (Pair × Timestamp)) :
    Prop where
  apart : raised.Pairwise fun a b =>
    a.obstacleId = b.obstacleId → a.vehicle = b.vehicle → instant a.sample + window < instant b.sample
  recorded : ∀ a ∈ raised, ∃ t, alertedAt alerted (a.obstacleId, a.vehicle) = some t ∧
    instant a.sample ≤ t.epochNanos

namespace Spaced

variable {window : Duration} {raised : List Alert} {alerted : List (Pair × Timestamp)}

theorem nil : Spaced window [] alerted :=
  ⟨List.Pairwise.nil, fun _ ha => absurd ha List.not_mem_nil⟩

theorem of_sublist (h : Spaced window raised alerted) {raised' : List Alert}
    (hsub : raised'.Sublist raised) : Spaced window raised' alerted :=
  ⟨h.apart.sublist hsub, fun a ha => h.recorded a (hsub.subset ha)⟩

/-- Recording an alert at a point fresh for its pair keeps the alerts spaced: every earlier alert
of the pair lies at or before the old record, and the point comes more than a window after it. The
pair's record moves to the new alert, which is later still. -/
theorem record (hw : 0 ≤ window) (h : Spaced window raised alerted) {a : Alert}
    (hfresh : Fresh window alerted (a.obstacleId, a.vehicle) a.sample) :
    Spaced window (raised ++ [a])
      (recordAlert alerted (a.obstacleId, a.vehicle) a.sample.timestamp) := by
  have hw : (0 : Int) ≤ window := hw
  have hbefore : ∀ b ∈ raised, b.obstacleId = a.obstacleId → b.vehicle = a.vehicle →
      instant b.sample + window < instant a.sample := by
    intro b hb hid hveh
    obtain ⟨t, ht, hle⟩ := h.recorded b hb
    rw [hid, hveh] at ht
    have hafter := hfresh t ht
    simp only [Timestamp.after, decide_eq_true_eq, epochNanos_add] at hafter
    simp only [instant] at hle ⊢
    omega
  refine ⟨List.pairwise_append.mpr ⟨h.apart, List.pairwise_singleton _ _, ?_⟩, fun b hb => ?_⟩
  · intro b hb a' ha'
    rw [List.mem_singleton.mp ha']
    exact hbefore b hb
  · rcases List.mem_append.mp hb with hb | hb
    · by_cases hkey : (b.obstacleId, b.vehicle) = (a.obstacleId, a.vehicle)
      · obtain ⟨hid, hveh⟩ := Prod.mk.inj hkey
        have hlt := hbefore b hb hid hveh
        rw [hkey, alertedAt_recordAlert_self]
        refine ⟨_, rfl, ?_⟩
        simp only [instant] at hlt ⊢
        omega
      · rw [alertedAt_recordAlert_of_ne _ _ hkey]
        exact h.recorded b hb
    · rw [List.mem_singleton.mp hb, alertedAt_recordAlert_self]
      exact ⟨_, rfl, le_refl _⟩

end Spaced

/-! ## Checks, observations and runs -/

/-- What checking one obstacle over a window in instant order does to the alerts and the
records: nothing, or it raises one alert for the obstacle and the sample's vehicle, at a point
fresh for their pair, and records that point's time. A fault raises nothing. With the pair not on
record every point is fresh. The point found lies after the record by more than a window. -/
theorem checkObstacle_raises (d : Detector) (s : Sample) {dense : List Sample}
    (detectedAt : Timestamp) (hord : Ordered dense) (st : CheckState) (o : MovingObstacle Float)
    (hit : Bool) :
    ((d.checkObstacle s dense detectedAt st o hit).1.alerted = st.alerted ∧
        (d.checkObstacle s dense detectedAt st o hit).1.alerts = st.alerts) ∨
      ∃ a : Alert, a.obstacleId = o.id ∧ a.vehicle = s.vehicle ∧
        Fresh d.window st.alerted (a.obstacleId, a.vehicle) a.sample ∧
        (d.checkObstacle s dense detectedAt st o hit).1.alerted =
          recordAlert st.alerted (a.obstacleId, a.vehicle) a.sample.timestamp ∧
        (d.checkObstacle s dense detectedAt st o hit).1.alerts = st.alerts ++ [a] := by
  cases hit with
  | false => exact .inl ⟨rfl, rfl⟩
  | true =>
    dsimp only [Detector.checkObstacle, Bool.not_true, Bool.false_eq_true, if_false]
    cases halert : alertedAt st.alerted (o.id, s.vehicle) with
    | none =>
      have hfresh : ∀ x, Fresh d.window st.alerted (o.id, s.vehicle) x :=
        fun x last hlast => absurd (halert.symm.trans hlast) (by simp)
      cases hr : o.firstCollision dense with
      | error e => exact .inl ⟨rfl, rfl⟩
      | ok r =>
        cases r with
        | none => exact .inl ⟨rfl, rfl⟩
        | some h => exact .inr ⟨_, rfl, rfl, hfresh h.sample, rfl, rfl⟩
    | some last =>
      cases hr : o.firstCollision (samplesAfter dense (last.add d.window)) with
      | error e => exact .inl ⟨rfl, rfl⟩
      | ok r =>
        cases r with
        | none => exact .inl ⟨rfl, rfl⟩
        | some h =>
          have hmem := (firstCollision_eq_some hr).1
          rw [samplesAfter_eq_filter hord, List.mem_filter] at hmem
          refine .inr ⟨_, rfl, rfl, fun last' hlast' => ?_, rfl, rfl⟩
          rw [halert] at hlast'
          cases hlast'
          exact hmem.2

/-- Checking obstacles in turn over a window in instant order keeps the alerts spaced, whether
or not a check faults. -/
theorem checkAll_spaced (s : Sample) {dense : List Sample} (detectedAt : Timestamp)
    (hord : Ordered dense) (raised : List Alert) {window : Duration} (hw : 0 ≤ window) :
    ∀ (ps : List (MovingObstacle Float × Bool)) {d : Detector} {st : CheckState}
      {res : CheckState × Option (Spline.DomainFault Float)},
      d.checkAll s dense detectedAt st ps = res → d.window = window →
      Spaced window (raised ++ st.alerts) st.alerted →
      Spaced window (raised ++ res.1.alerts) res.1.alerted
  | [], _, _, _, hres, _, h => by
    subst hres
    exact h
  | (o, hit) :: rest, d, st, res, hres, hwin, h => by
    have h₁ : Spaced window (raised ++ (d.checkObstacle s dense detectedAt st o hit).1.alerts)
        (d.checkObstacle s dense detectedAt st o hit).1.alerted := by
      rcases checkObstacle_raises d s detectedAt hord st o hit with ⟨halerted, halerts⟩ |
        ⟨a, -, -, hfresh, halerted, halerts⟩
      · rwa [halerted, halerts]
      · rw [halerted, halerts, ← List.append_assoc]
        exact h.record hw (hwin ▸ hfresh)
    rw [Detector.checkAll] at hres
    cases hc : d.checkObstacle s dense detectedAt st o hit with
    | mk st₁ fault =>
      rw [hc] at h₁ hres
      cases fault with
      | none => exact checkAll_spaced s detectedAt hord raised hw rest hres hwin h₁
      | some e =>
        subst hres
        exact h₁

/-- An observation keeps its detector's window. -/
theorem observe_window (d : Detector) (s : Sample) (detectedAt : Timestamp) :
    (d.observe s detectedAt).1.window = d.window := by
  unfold Detector.observe
  dsimp only
  split
  · rfl
  · split <;> rfl

/-- An observation keeps the alerts spaced. What it raises follows what was raised before; a
fault drops the alerts raised by the checks before it, and keeps their records. -/
theorem observe_spaced {d : Detector} (hwf : d.buffer.WellFormed) (hgap : 0 < d.densify.maxGap)
    (hbig : d.densify.maxGap ≤ 2 ^ 62) (hw : 0 ≤ d.window) {raised : List Alert}
    (h : Spaced d.window raised d.alerted) (s : Sample) (detectedAt : Timestamp) :
    Spaced d.window (raised ++ (d.observe s detectedAt).2.toOption.getD [])
      (d.observe s detectedAt).1.alerted := by
  have hord : Ordered (d.densify.apply (d.checkedWindow s)) :=
    Densify.ordered_apply hgap hbig (((hwf.add s).ordered_track s.vehicle).since _)
  dsimp only [Detector.observe, Detector.checkedWindow] at hord ⊢
  split
  · simpa [Except.toOption] using h
  · generalize hres : Detector.checkAll _ s _ detectedAt _ _ = res
    have hst := checkAll_spaced s detectedAt hord raised hw _ hres rfl (by simpa using h)
    obtain ⟨st, fault⟩ := res
    cases fault with
    | none => simpa [Except.toOption] using hst
    | some e => simpa [Except.toOption] using hst.of_sublist (List.sublist_append_left _ _)

/-- A detector's window is positive: one that is not positive means two minutes. -/
theorem Detector.zero_lt_new_window (obstacles : List (MovingObstacle Float)) (window : Duration)
    (c : Densify) : 0 < (Detector.new obstacles window c).window := by
  simp only [Detector.new, defaultWindow, Duration]
  split <;> omega

/-- A run of observations from a detector whose alerts are spaced keeps them spaced. -/
theorem alertsOver_spaced {c : Densify} (hgap : 0 < c.maxGap) (hbig : c.maxGap ≤ 2 ^ 62)
    {window : Duration} (hw : 0 ≤ window) :
    ∀ (requests : List Detector.Request), Detector.Request.prune ∉ requests →
      ∀ {d : Detector} {raised : List Alert}, d.buffer.WellFormed → d.densify = c →
        d.window = window → Spaced window raised d.alerted →
        (raised ++ d.alertsOver requests).Pairwise fun a b =>
          a.obstacleId = b.obstacleId → a.vehicle = b.vehicle →
            instant a.sample + window < instant b.sample
  | [], _, _, _, _, _, _, h => by simpa [Detector.alertsOver] using h.apart
  | .observe s detectedAt :: rest, hno, d, raised, hwf, hden, hwin, h => by
    obtain ⟨-, hden', hbuf⟩ := observe_fst_keeps d s detectedAt
    have h' := observe_spaced hwf (hden ▸ hgap) (hden ▸ hbig) (hwin ▸ hw) (hwin ▸ h) s detectedAt
    rw [Detector.alertsOver, ← List.append_assoc]
    exact alertsOver_spaced hgap hbig hw rest (fun hp => hno (List.mem_cons_of_mem _ hp))
      (hbuf ▸ hwf.add s) (hden'.trans hden) ((observe_window d s detectedAt).trans hwin) (hwin ▸ h')
  | .prune :: _, hno, _, _, _, _, _, _ => absurd List.mem_cons_self hno

/-- Alerts of one pair of obstacle and vehicle come more than a window apart. Take any obstacles,
any window (one that is not positive means two minutes), a densification whose largest bridged
gap is positive and at most `2^62` ns, and any observations of any samples, with no prune among
them. Then of any two alerts the detector raises for one obstacle id and one vehicle, the later
one's sample comes more than the detector's window after the earlier one's. -/
theorem alertsOver_same_pair_window_apart (obstacles : List (MovingObstacle Float))
    (window : Duration) (c : Densify) (hgap : 0 < c.maxGap) (hbig : c.maxGap ≤ 2 ^ 62)
    (requests : List Detector.Request) (hno : Detector.Request.prune ∉ requests) :
    ((Detector.new obstacles window c).alertsOver requests).Pairwise fun a b =>
      a.obstacleId = b.obstacleId → a.vehicle = b.vehicle →
        instant a.sample + (Detector.new obstacles window c).window < instant b.sample := by
  simpa using alertsOver_spaced hgap hbig (Detector.zero_lt_new_window obstacles window c).le
    requests hno Buffer.wellFormed_empty rfl rfl Spaced.nil

/-- `uas-1` sits in the sphere at noon and again half a minute later, climbs out, and comes back
down a minute after noon, with no prune. -/
def twoPasses : List Detector.Request :=
  [.observe (reportAt "uas-1" 0 300) Timestamp.zero, .observe (reportAt "uas-1" 30 300) Timestamp.zero,
    .observe (reportAt "uas-1" 61 800) Timestamp.zero, .observe (reportAt "uas-1" 65 300) Timestamp.zero]

theorem alertsOver_same_pair_window_apart_two_passes :
    0 < Densify.default.maxGap ∧ Densify.default.maxGap ≤ 2 ^ 62 ∧
      Detector.Request.prune ∉ twoPasses ∧
      ((Detector.new [stationarySphere] 60000000000 Densify.default).alertsOver twoPasses).Pairwise
        fun a b => a.obstacleId = b.obstacleId → a.vehicle = b.vehicle →
          instant a.sample + (Detector.new [stationarySphere] 60000000000 Densify.default).window <
            instant b.sample :=
  ⟨by decide, by decide, by simp [twoPasses],
    alertsOver_same_pair_window_apart [stationarySphere] 60000000000 Densify.default (by decide)
      (by decide) twoPasses (by simp [twoPasses])⟩

end Airspace.Collision
