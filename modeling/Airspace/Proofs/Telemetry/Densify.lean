import Airspace.Telemetry.Interpolate
import Airspace.Proofs.Obstacle.Domain

/-!
# Densifying a track, pair by pair

`Densify.apply` inserts its points between each pair of consecutive reports and nowhere
else, so it commutes with cutting a track: the densification of a piece of a track is the
matching piece of the whole track's densification (`apply_infix`), and a track grown by one
report grows by the points across the new gap and the report itself (`apply_append_pair`).

With a largest bridged gap of at most `2^62` ns (about 146 years), the offsets of the
inserted points never wrap around, so every point inserted across a gap lies strictly
between its two reports, and the gap itself is no longer than the largest bridged one
(`mem_between`). Inserted points therefore stay within the 64-bit range of seconds of their
reports (`inInt64Range_of_mem_apply`).
-/

namespace Airspace.Telemetry

open Airspace.Time Airspace.Obstacle

/-! ## Where the points go -/

namespace Densify

variable (c : Densify)

theorem apply_cons_of_ne_nil (a : Sample) {l : List Sample} (hl : l ≠ []) :
    c.apply (a :: l) = a :: (c.between a (l.head hl) ++ c.apply l) := by
  obtain ⟨b, rest, rfl⟩ := List.exists_cons_of_ne_nil hl
  rfl

/-- Reports put in front of a track put their points in front of its densification. -/
theorem apply_suffix (p : List Sample) {l : List Sample} (hl : l ≠ []) :
    c.apply l <:+ c.apply (p ++ l) := by
  induction p with
  | nil => exact List.suffix_refl _
  | cons x p ih =>
    rw [List.cons_append, c.apply_cons_of_ne_nil x (by simp [hl])]
    exact ih.trans (List.suffix_append _ _) |>.trans (List.suffix_cons _ _)

/-- Reports added after a track add their points after its densification. -/
theorem apply_prefix : ∀ (l r : List Sample), l ≠ [] → c.apply l <+: c.apply (l ++ r)
  | [], _, hl => absurd rfl hl
  | [a], r, _ => by
    cases r with
    | nil => exact List.prefix_refl _
    | cons b r => exact ⟨c.between a b ++ c.apply (b :: r), rfl⟩
  | a :: b :: t, r, _ => by
    obtain ⟨w, hw⟩ := apply_prefix (b :: t) r (List.cons_ne_nil b t)
    refine ⟨w, ?_⟩
    show a :: (c.between a b ++ c.apply (b :: t)) ++ w = a :: (c.between a b ++ c.apply (b :: (t ++ r)))
    rw [List.cons_append, List.append_assoc, hw, List.cons_append]

/-- The densification of a piece of a track is a piece of the whole track's densification. -/
theorem apply_infix {l m : List Sample} (hl : l ≠ []) (h : l <:+: m) : c.apply l <:+: c.apply m := by
  obtain ⟨p, r, rfl⟩ := h
  rw [List.append_assoc]
  exact (c.apply_prefix l r hl).isInfix.trans (c.apply_suffix p (by simp [hl])).isInfix

/-- One more report adds the points across the new gap and the report. -/
theorem apply_append_pair (a b : Sample) :
    ∀ l : List Sample, c.apply (l ++ [a, b]) = c.apply (l ++ [a]) ++ (c.between a b ++ [b])
  | [] => rfl
  | [x] => by simp [Densify.apply]
  | x :: y :: t => by
    have ih := apply_append_pair a b (y :: t)
    simp only [List.cons_append] at ih ⊢
    rw [Densify.apply.eq_3, Densify.apply.eq_3, ih, List.cons_append, List.append_assoc]

theorem mem_apply_of_mem {x : Sample} : ∀ {l : List Sample}, x ∈ l → x ∈ c.apply l
  | [_], h => h
  | a :: b :: t, h => by
    rw [Densify.apply.eq_3]
    rcases List.mem_cons.mp h with rfl | h
    · exact List.mem_cons_self
    · exact List.mem_cons_of_mem _ (List.mem_append_right _ (mem_apply_of_mem h))

/-- A point of a densified track is a report or lies across the gap between two reports. -/
theorem mem_apply {x : Sample} :
    ∀ {l : List Sample}, x ∈ c.apply l → x ∈ l ∨ ∃ a ∈ l, ∃ b ∈ l, x ∈ c.between a b
  | [], h => absurd h List.not_mem_nil
  | [_], h => .inl h
  | a :: b :: t, h => by
    rw [Densify.apply.eq_3] at h
    rcases List.mem_cons.mp h with rfl | h
    · exact .inl List.mem_cons_self
    rcases List.mem_append.mp h with h | h
    · exact .inr ⟨a, List.mem_cons_self, b, List.mem_cons_of_mem _ List.mem_cons_self, h⟩
    rcases mem_apply h with h | ⟨a', ha', b', hb', h⟩
    · exact .inl (List.mem_cons_of_mem _ h)
    · exact .inr ⟨a', List.mem_cons_of_mem _ ha', b', List.mem_cons_of_mem _ hb', h⟩

end Densify

/-! ## Where the inserted points lie -/

/-- A 64-bit count that is already in range does not wrap. -/
theorem wrap_of_lt {d : Int} (h0 : 0 ≤ d) (h1 : d < 2 ^ 63) : Duration.wrap d = d := by
  have hmod : d % Int.pow 2 64 = d := by
    rw [show Int.pow 2 64 = 2 ^ 64 from rfl]
    exact Int.emod_eq_of_lt h0 (by omega)
  simp only [Duration.wrap, hmod]
  rw [if_neg (by rw [show Int.pow 2 63 = 2 ^ 63 from rfl]; omega)]

/-- A clamped difference that came out positive and at most `2^62` was not clamped. -/
theorem saturate_eq_of_pos {d : Int} (h0 : 0 < Duration.saturate d)
    (h1 : Duration.saturate d ≤ 2 ^ 62) : Duration.saturate d = d := by
  simp only [Duration.saturate, Duration.min, Duration.max, show Int.pow 2 63 = 2 ^ 63 from rfl,
    Duration] at h0 h1 ⊢
  split_ifs at h0 h1 ⊢ <;> omega

/-- Offsets below a gap of at most `2^62` ns, in steps shorter than the gap, never wrap: each
lies strictly inside the gap. -/
theorem offsetsFrom_mem {gap step : Int} (hstep : 0 < step) (hsg : step < gap)
    (hgap : gap ≤ 2 ^ 62) :
    ∀ (fuel : Nat) (t : Int) (acc : List Int), 0 < t → (∀ u ∈ acc, 0 < u ∧ u < gap) →
      ∀ u ∈ offsetsFrom gap step fuel t acc, 0 < u ∧ u < gap
  | 0, _, acc, _, hacc => by simpa [offsetsFrom] using hacc
  | fuel + 1, t, acc, ht, hacc => by
    unfold offsetsFrom
    split
    · next hlt =>
      have hlt : t < gap := hlt
      rw [wrap_of_lt (by omega) (by omega)]
      refine offsetsFrom_mem hstep hsg hgap fuel _ _ (by omega) fun u hu => ?_
      rcases List.mem_cons.mp hu with rfl | hu
      · exact ⟨ht, hlt⟩
      · exact hacc u hu
    · simpa using hacc

theorem effectiveStep_pos (c : Densify) : (0 : Int) < c.effectiveStep := by
  unfold Densify.effectiveStep defaultStep
  split
  · decide
  · simp only [Duration] at *
    omega

/-- A bridged gap is longer than a step and, when bridging is bounded, no longer than the bound. -/
theorem bridges_eq_true {c : Densify} {gap : Int} (hgap : (0 : Int) < c.maxGap)
    (h : c.bridges gap = true) : (c.effectiveStep : Int) < gap ∧ gap ≤ c.maxGap := by
  simp only [Densify.bridges, Bool.not_eq_true', Bool.or_eq_false_iff, decide_eq_false_iff_not,
    Bool.and_eq_false_imp, decide_eq_true_eq, Duration] at h hgap ⊢
  exact ⟨by omega, by have := h.2 hgap; omega⟩

theorem epochNanos_add (t : Timestamp) (d : Int) : (t.add d).epochNanos = t.epochNanos + d := by
  simp only [Timestamp.add, Timestamp.ofEpochNanos, Timestamp.epochNanos, nanosPerSecond,
    Nat.cast_ofNat]
  have h0 := Int.emod_nonneg (t.unix * 1000000000 + t.nanos + d) (by decide : (1000000000 : Int) ≠ 0)
  rw [Int.toNat_of_nonneg h0]
  omega

/-- A point inserted across a gap lies strictly between its two reports, and the gap is no
longer than the largest bridged one. The gap is not clamped: it is longer than a step and no longer
than the largest bridged gap. -/
theorem mem_between {c : Densify} (hgap : (0 : Int) < c.maxGap) (hbig : (c.maxGap : Int) ≤ 2 ^ 62)
    {a b x : Sample} (hx : x ∈ c.between a b) :
    a.timestamp.epochNanos < x.timestamp.epochNanos ∧
      x.timestamp.epochNanos < b.timestamp.epochNanos ∧
      b.timestamp.epochNanos - a.timestamp.epochNanos ≤ c.maxGap := by
  dsimp only [Densify.between] at hx
  split at hx
  · next hbridge =>
    obtain ⟨hstep, hmax⟩ := bridges_eq_true hgap hbridge
    simp only [Duration] at hgap hbig hstep hmax
    have hsub : b.timestamp.sub a.timestamp = b.timestamp.epochNanos - a.timestamp.epochNanos :=
      saturate_eq_of_pos ((effectiveStep_pos c).trans hstep) (hmax.trans hbig)
    obtain ⟨t, ht, rfl⟩ := List.mem_map.mp hx
    obtain ⟨ht0, htg⟩ := offsetsFrom_mem (effectiveStep_pos c) hstep (by omega) _ _ _
      (effectiveStep_pos c) (by simp) t ht
    simp only [epochNanos_add]
    simp only [Duration] at ht0 htg hsub
    omega
  · simp at hx

/-- An instant between two instants whose seconds fit 64 bits has its seconds in range too. -/
theorem inInt64Range_of_le {a x b : Timestamp} (ha : a.InInt64Range) (hb : b.InInt64Range)
    (hax : a.epochNanos ≤ x.epochNanos) (hxb : x.epochNanos ≤ b.epochNanos) : x.InInt64Range := by
  have hna := a.nanos_lt
  have hnx := x.nanos_lt
  have hnb := b.nanos_lt
  simp only [Timestamp.InInt64Range, Timestamp.epochNanos, nanosPerSecond] at *
  omega

/-- Densifying a track of instants whose seconds fit 64 bits keeps them in range. -/
theorem inInt64Range_of_mem_apply {c : Densify} (hgap : (0 : Int) < c.maxGap)
    (hbig : (c.maxGap : Int) ≤ 2 ^ 62)
    {l : List Sample} (hl : ∀ s ∈ l, s.timestamp.InInt64Range) {x : Sample} (hx : x ∈ c.apply l) :
    x.timestamp.InInt64Range := by
  rcases c.mem_apply hx with hx | ⟨a, ha, b, hb, hx⟩
  · exact hl x hx
  · obtain ⟨hax, hxb, -⟩ := mem_between hgap hbig hx
    exact inInt64Range_of_le (hl a ha) (hl b hb) hax.le hxb.le

end Airspace.Telemetry
