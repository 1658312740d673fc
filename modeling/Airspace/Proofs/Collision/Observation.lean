import Airspace.Proofs.Collision.Detector

/-!
# One observation, obstacle by obstacle

When a sample arrives the detector densifies its vehicle's track from one window before the
sample on and checks the obstacles in order against it. `Checks` says what each check does. A
point of the densified window is fresh for a pair of obstacle and vehicle when the pair is not
on record, or when the point comes more than a window after the pair's recorded alert. An
obstacle with a fresh point inside its sphere is alerted at the earliest such point, with its
centre at that instant and their distance, and the point's time becomes the pair's record,
which later obstacles of the same id see. An obstacle with no such point is passed over.

The reading rests on the densified window being in strictly increasing instant order. The
buffer keeps each track so, and densifying keeps it when no inserted offset can wrap around,
that is when the largest bridged gap is positive and at most `2^62` ns
(`Densify.ordered_apply`). Every detector reached by requests whose samples have their seconds
in the 64-bit range keeps what the reading needs, so every observation it makes checks its
obstacles as `Checks` says (`observe_alerts_earliest_fresh`), and `Checks` leaves a single
choice of alerts and records (`Checks.deterministic`).
-/

namespace Airspace.Track

open Airspace.Telemetry

/-- A sample held after adding one is the added one or was held before. -/
theorem Buffer.WellFormed.mem_track_add {b : Buffer} (hb : b.WellFormed) {s x : Sample}
    {v : String} (hx : x ∈ (b.add s).track v) : x = s ∨ x ∈ b.track v := by
  have htrack := track_addTo s hb.increasing v
  change (b.add s).track v = _ at htrack
  rw [htrack] at hx
  split at hx
  · rcases (mem_insertByTime (hb.ordered_track v)).mp hx with rfl | ⟨hx, -⟩
    · exact .inl rfl
    · exact .inr hx
  · exact .inr hx

end Airspace.Track

namespace Airspace.Collision

open Airspace.Obstacle Airspace.Telemetry Airspace.Track Airspace.Time Airspace.Geo

/-! ## Densified tracks stay in order -/

/-- Offsets below a gap of at most `2^62` ns, in steps shorter than the gap, strictly increase. -/
theorem offsetsFrom_increasing {gap step : Int} (hstep : 0 < step) (hsg : step < gap)
    (hgap : gap ≤ 2 ^ 62) :
    ∀ (fuel : Nat) (t : Int) (acc : List Int), 0 < t → acc.Pairwise (· > ·) → (∀ u ∈ acc, u < t) →
      (offsetsFrom gap step fuel t acc).Pairwise (· < ·)
  | 0, _, acc, _, hacc, _ => by simpa [offsetsFrom, List.pairwise_reverse] using hacc
  | fuel + 1, t, acc, ht, hacc, hlt => by
    unfold offsetsFrom
    split
    · next hlt' =>
      have hlt' : t < gap := hlt'
      rw [wrap_of_lt (by omega) (by omega)]
      refine offsetsFrom_increasing hstep hsg hgap fuel _ _ (by omega)
        (List.pairwise_cons.mpr ⟨hlt, hacc⟩) fun u hu => ?_
      rcases List.mem_cons.mp hu with rfl | hu
      · omega
      · have := hlt u hu
        omega
    · simpa [List.pairwise_reverse] using hacc

namespace Densify

variable {c : Densify} (hgap : (0 : Int) < c.maxGap) (hbig : (c.maxGap : Int) ≤ 2 ^ 62)
include hgap hbig

/-- The points inserted across a gap come in instant order. Each point is stamped with its report's
instant plus its offset. -/
theorem ordered_between (a b : Sample) : Ordered (c.between a b) := by
  dsimp only [Densify.between]
  split
  · next hbridge =>
    obtain ⟨hstep, hmax⟩ := bridges_eq_true hgap hbridge
    simp only [Duration] at hbig hstep hmax
    have hinc : (insertedOffsets (b.timestamp.sub a.timestamp) c.effectiveStep).Pairwise (· < ·) :=
      offsetsFrom_increasing (effectiveStep_pos c) hstep (by omega) _ _ []
        (effectiveStep_pos c) List.Pairwise.nil (by simp)
    refine List.pairwise_map.mpr (hinc.imp fun hlt => ?_)
    simp only [instant, epochNanos_add]
    exact Int.add_lt_add_left hlt _
  · exact List.Pairwise.nil

/-- Every point of a densified track in instant order is at or after its first report. -/
theorem head_le_of_mem_apply {b : Sample} {rest : List Sample} (h : Ordered (b :: rest))
    {x : Sample} (hx : x ∈ c.apply (b :: rest)) : instant b ≤ instant x := by
  have hle : ∀ y ∈ b :: rest, instant b ≤ instant y := by
    intro y hy
    rcases List.mem_cons.mp hy with rfl | hy
    · exact le_refl _
    · exact (h.lt_of_mem hy).le
  rcases c.mem_apply hx with hx | ⟨a', ha', b', -, hx'⟩
  · exact hle x hx
  · exact (hle a' ha').trans (mem_between hgap hbig hx').1.le

/-- Densifying a track in instant order keeps it in instant order. -/
theorem ordered_apply : ∀ {l : List Sample}, Ordered l → Ordered (c.apply l)
  | [], _ => List.Pairwise.nil
  | [_], _ => List.pairwise_singleton _ _
  | a :: b :: rest, h => by
    rw [Densify.apply.eq_3]
    have hab : instant a < instant b := h.lt_of_mem List.mem_cons_self
    refine List.pairwise_cons.mpr ⟨fun x hx => ?_, List.pairwise_append.mpr
      ⟨ordered_between hgap hbig a b, ordered_apply h.tail, fun x hx y hy => ?_⟩⟩
    · rcases List.mem_append.mp hx with hx | hx
      · exact (mem_between hgap hbig hx).1
      · exact hab.trans_le (head_le_of_mem_apply hgap hbig h.tail hx)
    · exact (mem_between hgap hbig hx).2.1.trans_le (head_le_of_mem_apply hgap hbig h.tail hy)

end Densify

/-- In a track in instant order, the samples from the first one after an instant on are all the
samples after it: every later sample is after the instant too. -/
theorem samplesAfter_eq_filter {t : Timestamp} : ∀ {l : List Sample}, Ordered l →
    samplesAfter l t = l.filter fun x => x.timestamp.after t
  | [], _ => rfl
  | x :: xs, h => by
    by_cases hx : x.timestamp.after t = true
    · have hall : ∀ y ∈ x :: xs, y.timestamp.after t = true := by
        intro y hy
        rcases List.mem_cons.mp hy with rfl | hy
        · exact hx
        · have hlt := h.lt_of_mem hy
          simp only [Timestamp.after, decide_eq_true_eq, instant] at hx hlt ⊢
          omega
      rw [List.filter_eq_self.mpr hall]
      simp [samplesAfter, hx]
    · rw [samplesAfter, List.dropWhile_cons_of_pos (by simpa using hx), List.filter_cons, if_neg hx]
      exact samplesAfter_eq_filter h.tail

/-! ## The first collision and the alert records -/

/-- The first collision found is the first sample of the track inside the obstacle, with the
obstacle's centre at its instant and their distance. -/
theorem firstCollision_eq_some_split {o : MovingObstacle Float} :
    ∀ {l : List Sample} {h : Hit}, o.firstCollision l = .ok (some h) →
      o.positionAt h.sample.timestamp = .ok h.obstacle ∧
        h.distance = h.obstacle.distance h.sample.position ∧ h.distance ≤ o.radius ∧
        ∃ pre post, l = pre ++ h.sample :: post ∧ ∀ x ∈ pre, ¬ Inside o x
  | [], _, hf => by cases hf
  | s :: rest, h, hf => by
    simp only [MovingObstacle.firstCollision] at hf
    cases hc : o.positionAt s.timestamp with
    | error e => simp [hc, bind, Except.bind] at hf
    | ok c =>
      simp only [hc, bind, Except.bind] at hf
      split at hf
      · next hd =>
        cases hf
        exact ⟨hc, rfl, hd, [], rest, rfl, by simp⟩
      · next hd =>
        obtain ⟨hpos, hdist, hle, pre, post, rfl, hpre⟩ := firstCollision_eq_some_split hf
        refine ⟨hpos, hdist, hle, s :: pre, post, rfl, fun x hx => ?_⟩
        rcases List.mem_cons.mp hx with rfl | hx
        · rintro ⟨c', hc', hd'⟩
          rw [hc] at hc'
          cases hc'
          exact hd hd'
        · exact hpre x hx

/-- Recording an alert for a pair makes its time the pair's record. The rewritten entries match the
pair exactly where the old ones did. -/
theorem alertedAt_recordAlert_self (alerted : List (Pair × Timestamp)) (key : Pair)
    (t : Timestamp) : alertedAt (recordAlert alerted key t) key = some t := by
  unfold recordAlert alertedAt
  split
  · next hany =>
    have hsame : ((·.1 == key) ∘ fun e : Pair × Timestamp => if e.1 == key then (key, t) else e) =
        (·.1 == key) := by
      funext e
      by_cases he : e.1 = key <;> simp [he]
    obtain ⟨e, he, hek⟩ := List.any_eq_true.mp hany
    have hsome : (alerted.find? (·.1 == key)).isSome := List.find?_isSome.mpr ⟨e, he, hek⟩
    obtain ⟨f, hf⟩ := Option.isSome_iff_exists.mp hsome
    have hfk : f.1 = key := by simpa using List.find?_some hf
    rw [List.find?_map, hsame, hf]
    simp [hfk]
  · next hany =>
    have hnone : alerted.find? (·.1 == key) = none :=
      List.find?_eq_none.mpr fun e he hek => hany (List.any_eq_true.mpr ⟨e, he, hek⟩)
    simp [List.find?_append, hnone]

/-- Recording an alert for a pair leaves every other pair's record: the entries of other pairs are
left as they were. -/
theorem alertedAt_recordAlert_of_ne (alerted : List (Pair × Timestamp)) {key key' : Pair}
    (t : Timestamp) (hne : key' ≠ key) :
    alertedAt (recordAlert alerted key t) key' = alertedAt alerted key' := by
  unfold recordAlert alertedAt
  split
  · have hsame : ((·.1 == key') ∘ fun e : Pair × Timestamp => if e.1 == key then (key, t) else e) =
        (·.1 == key') := by
      funext e
      by_cases he : e.1 = key <;> simp [he]
    rw [List.find?_map, hsame, Option.map_map]
    cases hf : alerted.find? (·.1 == key') with
    | none => rfl
    | some f =>
      have hfk : f.1 = key' := by simpa using List.find?_some hf
      simp [hfk, hne]
  · simp [List.find?_append, Ne.symm hne]

/-! ## What the checks do -/

/-- A point is fresh for a pair when the pair is not on record, or when the point comes more
than a window after the pair's recorded alert. -/
def Fresh (window : Duration) (alerted : List (Pair × Timestamp)) (key : Pair) (u : Sample) :
    Prop :=
  ∀ last, alertedAt alerted key = some last → u.timestamp.after (last.add window) = true

/-- The point `u` of a densified track is the earliest point inside the obstacle fresh for the
pair of the obstacle and the vehicle `v`; the obstacle's centre is `c` at its instant. -/
structure EarliestFresh (window : Duration) (alerted : List (Pair × Timestamp))
    (o : MovingObstacle Float) (v : String) (dense : List Sample) (u : Sample)
    (c : Position Float) : Prop where
  mem : u ∈ dense
  centre : o.positionAt u.timestamp = .ok c
  within : c.distance u.position ≤ o.radius
  fresh : Fresh window alerted (o.id, v) u
  earliest : ∀ x ∈ dense, Inside o x → Fresh window alerted (o.id, v) x → instant u ≤ instant x

/-- What checking obstacles in turn against the densified track `dense` of the vehicle `v` does,
from the records `alerted` to the records `alerted'`, raising `alerts`. An obstacle with no fresh
point inside it is passed over; otherwise it is alerted at the earliest fresh point inside it,
whose time becomes the pair's record for the obstacles after it. -/
inductive Checks (window : Duration) (v : String) (dense : List Sample) (detectedAt : Timestamp) :
    List (Pair × Timestamp) → List (MovingObstacle Float) → List Alert →
      List (Pair × Timestamp) → Prop
  | nil (alerted : List (Pair × Timestamp)) : Checks window v dense detectedAt alerted [] [] alerted
  | quiet {alerted alerted' : List (Pair × Timestamp)} {o : MovingObstacle Float}
      {os : List (MovingObstacle Float)} {alerts : List Alert} :
      (∀ x ∈ dense, Inside o x → ¬ Fresh window alerted (o.id, v) x) →
      Checks window v dense detectedAt alerted os alerts alerted' →
      Checks window v dense detectedAt alerted (o :: os) alerts alerted'
  | alert {alerted alerted' : List (Pair × Timestamp)} {o : MovingObstacle Float}
      {os : List (MovingObstacle Float)} {alerts : List Alert} {u : Sample} {c : Position Float} :
      EarliestFresh window alerted o v dense u c →
      Checks window v dense detectedAt (recordAlert alerted (o.id, v) u.timestamp) os alerts
        alerted' →
      Checks window v dense detectedAt alerted (o :: os)
        (⟨o.id, v, u, c, c.distance u.position, o.radius, detectedAt⟩ :: alerts) alerted'

section Deterministic

variable {window : Duration} {alerted : List (Pair × Timestamp)} {o : MovingObstacle Float}
  {v : String} {dense : List Sample} {u : Sample} {c : Position Float}

theorem EarliestFresh.not_quiet (h : EarliestFresh window alerted o v dense u c) :
    ¬ ∀ x ∈ dense, Inside o x → ¬ Fresh window alerted (o.id, v) x :=
  fun hq => hq u h.mem ⟨c, h.centre, h.within⟩ h.fresh

/-- In a track in instant order the earliest fresh point inside an obstacle is unique, and so is
the obstacle's centre there. -/
theorem EarliestFresh.unique (hord : Ordered dense) {u' : Sample} {c' : Position Float}
    (h : EarliestFresh window alerted o v dense u c)
    (h' : EarliestFresh window alerted o v dense u' c') : u = u' ∧ c = c' := by
  have hle := h.earliest u' h'.mem ⟨c', h'.centre, h'.within⟩ h'.fresh
  have hge := h'.earliest u h.mem ⟨c, h.centre, h.within⟩ h.fresh
  obtain rfl : u = u' := hord.eq_of_instant_eq h.mem h'.mem (le_antisymm hle hge)
  have hcentre := h.centre.symm.trans h'.centre
  injection hcentre with hc
  exact ⟨rfl, hc⟩

/-- Over a track in instant order the checks leave a single choice of alerts and records. -/
theorem Checks.deterministic (hord : Ordered dense) {detectedAt : Timestamp}
    {os : List (MovingObstacle Float)} {alerts alerts' : List Alert}
    {final final' : List (Pair × Timestamp)}
    (h : Checks window v dense detectedAt alerted os alerts final)
    (h' : Checks window v dense detectedAt alerted os alerts' final') :
    alerts = alerts' ∧ final = final' := by
  induction h generalizing alerts' final' with
  | nil => cases h'; exact ⟨rfl, rfl⟩
  | quiet hq _ ih =>
    cases h' with
    | quiet _ h' => exact ih h'
    | alert hf _ => exact absurd hq hf.not_quiet
  | alert hf _ ih =>
    cases h' with
    | quiet hq _ => exact absurd hq hf.not_quiet
    | alert hf' h' =>
      obtain ⟨rfl, rfl⟩ := hf.unique hord hf'
      obtain ⟨rfl, rfl⟩ := ih h'
      exact ⟨rfl, rfl⟩

end Deterministic

/-! ## The checks the detector makes -/

/-- Looking for the first collision among the fresh points of a track, taken in instant order,
finds the earliest fresh point inside the obstacle, or shows there is none. A fresh point inside is
not before the one found, so it is that one or after it. -/
theorem firstCollision_fresh {window : Duration} {alerted : List (Pair × Timestamp)}
    {o : MovingObstacle Float} {v : String} (ho : o.Spanned) {dense fresh : List Sample}
    (hrange : ∀ x ∈ dense, x.timestamp.InInt64Range) (hord : Ordered fresh)
    (hmem : ∀ x, x ∈ fresh ↔ x ∈ dense ∧ Fresh window alerted (o.id, v) x) :
    (o.firstCollision fresh = .ok none ∧
        ∀ x ∈ dense, Inside o x → ¬ Fresh window alerted (o.id, v) x) ∨
      ∃ h : Hit, o.firstCollision fresh = .ok (some h) ∧
        h.distance = h.obstacle.distance h.sample.position ∧
        EarliestFresh window alerted o v dense h.sample h.obstacle := by
  have hfrange : ∀ x ∈ fresh, x.timestamp.InInt64Range := fun x hx => hrange x ((hmem x).mp hx).1
  obtain ⟨r, hr⟩ := ho.firstCollision_ok hfrange
  cases r with
  | none =>
    refine .inl ⟨hr, fun x hx hin hfresh => ?_⟩
    obtain ⟨h, hh⟩ := firstCollision_of_inside ho hfrange ((hmem x).mpr ⟨hx, hfresh⟩) hin
    rw [hr] at hh
    cases hh
  | some h =>
    obtain ⟨hpos, hdist, hle, pre, post, hsplit, hpre⟩ := firstCollision_eq_some_split hr
    have hself : h.sample ∈ fresh := hsplit ▸ List.mem_append_right _ List.mem_cons_self
    obtain ⟨hdense, hfresh⟩ := (hmem _).mp hself
    refine .inr ⟨h, hr, hdist, hdense, hpos, hdist ▸ hle, hfresh, fun x hx hin hxf => ?_⟩
    have hxfresh : x ∈ pre ++ h.sample :: post := hsplit ▸ (hmem x).mpr ⟨hx, hxf⟩
    rw [hsplit] at hord
    rcases List.mem_append.mp hxfresh with hxpre | hxpost
    · exact absurd hin (hpre x hxpre)
    · rcases List.mem_cons.mp hxpost with rfl | hxpost
      · exact le_refl _
      · exact (Ordered.lt_of_mem (List.pairwise_append.mp hord).2.1 hxpost).le

/-- One obstacle's check over a track in instant order never faults. It passes the obstacle
over when no fresh point is inside it, and otherwise alerts at the earliest fresh point inside
it and records that point's time for the pair. An unset flag means no point of the track is inside.
With the pair not on record every point is fresh. With the pair on record the fresh points are those
more than a window after it. -/
theorem checkObstacle_checks (d : Detector) (s : Sample) {dense : List Sample}
    (detectedAt : Timestamp) (hrange : ∀ x ∈ dense, x.timestamp.InInt64Range) (hord : Ordered dense)
    (st : CheckState) {o : MovingObstacle Float} (ho : o.Spanned) {hit : Bool}
    (hhit : o.collides dense = .ok hit) :
    ∃ st', d.checkObstacle s dense detectedAt st o hit = (st', none) ∧
      ((st'.alerted = st.alerted ∧ st'.alerts = st.alerts ∧
          ∀ x ∈ dense, Inside o x → ¬ Fresh d.window st.alerted (o.id, s.vehicle) x) ∨
        ∃ u c, EarliestFresh d.window st.alerted o s.vehicle dense u c ∧
          st'.alerted = recordAlert st.alerted (o.id, s.vehicle) u.timestamp ∧
          st'.alerts = st.alerts ++
            [⟨o.id, s.vehicle, u, c, c.distance u.position, o.radius, detectedAt⟩]) := by
  cases hit with
  | false =>
    have hout : ∀ x ∈ dense, ¬ Inside o x := fun x hx hin => by
      rw [(collides_eq_ok_true_iff ho hrange).mpr ⟨x, hx, hin⟩] at hhit
      cases hhit
    exact ⟨_, rfl, .inl ⟨rfl, rfl, fun x hx hin => absurd hin (hout x hx)⟩⟩
  | true =>
    dsimp only [Detector.checkObstacle, Bool.not_true, Bool.false_eq_true, if_false]
    cases halert : alertedAt st.alerted (o.id, s.vehicle) with
    | none =>
      have hmem : ∀ x, x ∈ dense ↔ x ∈ dense ∧ Fresh d.window st.alerted (o.id, s.vehicle) x :=
        fun x => ⟨fun hx => ⟨hx, fun last hlast => absurd (halert.symm.trans hlast) (by simp)⟩,
          And.left⟩
      rcases firstCollision_fresh ho hrange hord hmem with ⟨hr, hq⟩ | ⟨h, hr, hdist, hearly⟩
      · simp only [hr]
        exact ⟨_, rfl, .inl ⟨rfl, rfl, hq⟩⟩
      · simp only [hr]
        exact ⟨_, rfl, .inr ⟨_, _, hearly, rfl, by rw [hdist]⟩⟩
    | some last =>
      have hmem : ∀ x, x ∈ samplesAfter dense (last.add d.window) ↔
          x ∈ dense ∧ Fresh d.window st.alerted (o.id, s.vehicle) x := by
        intro x
        rw [samplesAfter_eq_filter hord, List.mem_filter]
        refine and_congr_right fun _ => ⟨fun hx last' hlast' => ?_, fun hx => hx last halert⟩
        rw [halert] at hlast'
        cases hlast'
        exact hx
      have hord' : Ordered (samplesAfter dense (last.add d.window)) :=
        hord.sublist (List.dropWhile_sublist _)
      rcases firstCollision_fresh ho hrange hord' hmem with ⟨hr, hq⟩ | ⟨h, hr, hdist, hearly⟩
      · simp only [hr]
        exact ⟨_, rfl, .inl ⟨rfl, rfl, hq⟩⟩
      · simp only [hr]
        exact ⟨_, rfl, .inr ⟨_, _, hearly, rfl, by rw [hdist]⟩⟩

theorem evaluateCollisions_cons {o : MovingObstacle Float} {os : List (MovingObstacle Float)}
    {l : List Sample} {hits : List Bool} (h : evaluateCollisions (o :: os) l = .ok hits) :
    ∃ hit rest, hits = hit :: rest ∧ o.collides l = .ok hit ∧ evaluateCollisions os l = .ok rest := by
  unfold evaluateCollisions at h ⊢
  rw [List.mapM_cons] at h
  cases ho : o.collides l with
  | error e => simp [ho, bind, Except.bind] at h
  | ok hit =>
    cases hr : os.mapM (fun o => o.collides l) with
    | error e => simp [ho, hr, bind, Except.bind] at h
    | ok rest =>
      simp only [ho, hr, bind, Except.bind, pure, Except.pure, Except.ok.injEq] at h
      exact ⟨hit, rest, h.symm, rfl, rfl⟩

/-- Checking obstacles in turn over a track in instant order never faults, and does what
`Checks` says. -/
theorem checkAll_checks (s : Sample) {dense : List Sample} (detectedAt : Timestamp)
    (hrange : ∀ x ∈ dense, x.timestamp.InInt64Range) (hord : Ordered dense) :
    ∀ (os : List (MovingObstacle Float)) {hits : List Bool}, (∀ o ∈ os, o.Spanned) →
      evaluateCollisions os dense = .ok hits →
      ∀ {d : Detector} {st : CheckState} {res : CheckState × Option (Spline.DomainFault Float)},
        d.checkAll s dense detectedAt st (os.zip hits) = res →
        res.2 = none ∧ ∃ new, res.1.alerts = st.alerts ++ new ∧
          Checks d.window s.vehicle dense detectedAt st.alerted os new res.1.alerted
  | [], _, _, _, _, st, _, hres => by
    subst hres
    exact ⟨rfl, [], (List.append_nil _).symm, .nil _⟩
  | o :: os, _, hspan, hev, d, st, res, hres => by
    obtain ⟨hit, rest, rfl, hhit, hev'⟩ := evaluateCollisions_cons hev
    obtain ⟨st₁, hcheck, hcase⟩ :=
      checkObstacle_checks d s detectedAt hrange hord st (hspan o List.mem_cons_self) hhit
    rw [List.zip_cons_cons, Detector.checkAll, hcheck] at hres
    obtain ⟨hnone, new, halerts, hchecks⟩ :=
      checkAll_checks s detectedAt hrange hord os (fun o' ho' => hspan o' (List.mem_cons_of_mem _ ho'))
        hev' hres
    refine ⟨hnone, ?_⟩
    rcases hcase with ⟨halerted, halerts₁, hq⟩ | ⟨u, c, hearly, halerted, halerts₁⟩
    · refine ⟨new, by rw [halerts, halerts₁], .quiet hq ?_⟩
      rw [← halerted]
      exact hchecks
    · refine ⟨_ :: new, by rw [halerts, halerts₁, List.append_assoc, List.singleton_append],
        .alert hearly ?_⟩
      rw [← halerted]
      exact hchecks

/-- An observation over obstacles that never fault, of a sample whose densified window stays in
range and in instant order, checks the obstacles in order as `Checks` says. -/
theorem observe_checks (d : Detector) (s : Sample) (detectedAt : Timestamp)
    (hobs : ∀ o ∈ d.obstacles, o.Spanned)
    (hrange : ∀ x ∈ d.densify.apply (d.checkedWindow s), x.timestamp.InInt64Range)
    (hord : Ordered (d.densify.apply (d.checkedWindow s))) :
    ∃ alerts, (d.observe s detectedAt).2 = .ok alerts ∧
      Checks d.window s.vehicle (d.densify.apply (d.checkedWindow s)) detectedAt d.alerted
        d.obstacles alerts (d.observe s detectedAt).1.alerted := by
  dsimp only [Detector.observe, Detector.checkedWindow] at hrange hord ⊢
  obtain ⟨hits, hev⟩ := evaluateCollisions_ok hobs hrange
  rw [hev]
  dsimp only
  generalize hres : Detector.checkAll _ s _ detectedAt _ _ = res
  obtain ⟨hnone, new, halerts, hchecks⟩ := checkAll_checks s detectedAt hrange hord _ hobs hev hres
  rw [hnone]
  rw [List.nil_append] at halerts
  exact ⟨_, rfl, halerts ▸ hchecks⟩

/-! ## Every observation of a running detector -/

/-- The detectors reached from a fresh one over given obstacles, window and densification by
observations of samples whose seconds fit 64 bits, and by prunes. -/
inductive Detector.Reachable (obstacles : List (MovingObstacle Float)) (window : Duration)
    (c : Densify) : Detector → Prop
  | new : Detector.Reachable obstacles window c (Detector.new obstacles window c)
  | observe {d : Detector} {s : Sample} (detectedAt : Timestamp) :
      Detector.Reachable obstacles window c d → s.timestamp.InInt64Range →
      Detector.Reachable obstacles window c (d.observe s detectedAt).1
  | prune {d : Detector} :
      Detector.Reachable obstacles window c d → Detector.Reachable obstacles window c d.prune.1

/-- What a running detector keeps: its obstacles and densification, a well-formed buffer, and
held samples whose seconds fit 64 bits. -/
structure Detector.Kept (obstacles : List (MovingObstacle Float)) (c : Densify) (d : Detector) :
    Prop where
  obstacles_eq : d.obstacles = obstacles
  densify_eq : d.densify = c
  wellFormed : d.buffer.WellFormed
  inRange : ∀ v, ∀ x ∈ d.buffer.track v, x.timestamp.InInt64Range

/-- An observation keeps the obstacles and the densification and adds the sample to the buffer,
whether or not a check faults. -/
theorem observe_fst_keeps (d : Detector) (s : Sample) (detectedAt : Timestamp) :
    (d.observe s detectedAt).1.obstacles = d.obstacles ∧
      (d.observe s detectedAt).1.densify = d.densify ∧
      (d.observe s detectedAt).1.buffer = d.buffer.add s := by
  unfold Detector.observe
  dsimp only
  split
  · exact ⟨rfl, rfl, rfl⟩
  · split <;> exact ⟨rfl, rfl, rfl⟩

/-- Every reachable detector keeps its obstacles, its densification, a well-formed buffer and
samples in range. -/
theorem Detector.Reachable.kept {obstacles : List (MovingObstacle Float)} {window : Duration}
    {c : Densify} {d : Detector} (h : Detector.Reachable obstacles window c d) :
    d.Kept obstacles c := by
  induction h with
  | new => exact ⟨rfl, rfl, Buffer.wellFormed_empty, by simp [Detector.new, Buffer.track]⟩
  | observe detectedAt _ hs ih =>
    obtain ⟨hobs, hden, hbuf⟩ := observe_fst_keeps _ _ detectedAt
    refine ⟨hobs.trans ih.obstacles_eq, hden.trans ih.densify_eq, hbuf ▸ ih.wellFormed.add _,
      fun v x hx => ?_⟩
    rw [hbuf] at hx
    rcases ih.wellFormed.mem_track_add hx with rfl | hx
    · exact hs
    · exact ih.inRange v x hx
  | prune _ ih =>
    refine ⟨ih.obstacles_eq, ih.densify_eq, ih.wellFormed.prune _, fun v x hx => ?_⟩
    rw [prune_fst_eq, track_prune_fst ih.wellFormed] at hx
    exact ih.inRange v x ((List.dropWhile_sublist _).subset hx)

namespace Detector.Kept

variable {obstacles : List (MovingObstacle Float)} {c : Densify} {d : Detector}
  (hk : d.Kept obstacles c) (hgap : (0 : Int) < c.maxGap) (hbig : (c.maxGap : Int) ≤ 2 ^ 62)
include hk hgap hbig

/-- The densified window of a new sample is in instant order. -/
theorem ordered_checked (s : Sample) : Ordered (c.apply (d.checkedWindow s)) :=
  Densify.ordered_apply hgap hbig (((hk.wellFormed.add s).ordered_track s.vehicle).since _)

/-- The densified window of a new sample whose seconds fit 64 bits stays in range. -/
theorem inRange_checked {s : Sample} (hs : s.timestamp.InInt64Range) :
    ∀ x ∈ c.apply (d.checkedWindow s), x.timestamp.InInt64Range := by
  intro x hx
  refine inInt64Range_of_mem_apply hgap hbig (fun y hy => ?_) hx
  rcases hk.wellFormed.mem_track_add ((List.dropWhile_sublist _).subset hy) with rfl | hy
  · exact hs
  · exact hk.inRange _ y hy

end Detector.Kept

/-- Every observation of a running detector, over obstacles built from waypoints with any solver,
whose largest bridged gap is positive and at most `2^62` ns, of a sample whose seconds fit 64
bits, checks its obstacles in order as `Checks` says: the window it checks is in instant order,
and each obstacle with a point of the window inside it, fresh for the pair of obstacle and
vehicle, is alerted at the earliest such point, with the obstacle's centre at that instant and
their distance, and the pair's record moves to that point's time. -/
theorem observe_alerts_earliest_fresh {obstacles : List (MovingObstacle Float)}
    (hbuilt : ∀ o ∈ obstacles, ∃ solve id waypoints speed radius,
      o = MovingObstacle.newWith solve id waypoints speed radius)
    {window : Duration} {c : Densify} (hgap : 0 < c.maxGap) (hbig : c.maxGap ≤ 2 ^ 62)
    {d : Detector} (hd : Detector.Reachable obstacles window c d) (s : Sample)
    (hs : s.timestamp.InInt64Range) (detectedAt : Timestamp) :
    Ordered (c.apply (d.checkedWindow s)) ∧
      ∃ alerts, (d.observe s detectedAt).2 = .ok alerts ∧
        Checks d.window s.vehicle (c.apply (d.checkedWindow s)) detectedAt d.alerted obstacles
          alerts (d.observe s detectedAt).1.alerted := by
  have hk := hd.kept
  have hspan : ∀ o ∈ d.obstacles, o.Spanned := by
    rw [hk.obstacles_eq]
    intro o ho
    obtain ⟨solve, id, waypoints, speed, radius, rfl⟩ := hbuilt o ho
    exact MovingObstacle.newWith_spanned solve id waypoints speed radius
  have hord := hk.ordered_checked hgap hbig s
  have hrange := hk.inRange_checked hgap hbig hs
  rw [← hk.densify_eq] at hord hrange
  refine ⟨hk.densify_eq ▸ hord, ?_⟩
  rw [← hk.densify_eq, ← hk.obstacles_eq]
  exact observe_checks d s detectedAt hspan hrange hord

end Airspace.Collision
