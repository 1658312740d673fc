import Airspace.Collision.Detector
import Airspace.Proofs.Telemetry.Densify
import Airspace.Proofs.Track.Buffer

/-!
# The live detector against the offline report

The detector sees each vehicle's track only through a window of the most recent samples,
densifies that window, and stays quiet about a pair of obstacle and vehicle for a window after
an alert. The offline report densifies each vehicle's whole track at once and says whether it
enters each obstacle. This module proves that the two agree: the detector raises an alert for
an obstacle and a vehicle exactly when the whole densified track of the vehicle enters the
obstacle (`alertsOver_iff_collides`).

The argument follows one invariant, `Tracking`, over every request. Densification is
pair-local, so a window's densification is a piece of the whole track's (`apply_infix`): every
alert is sound. A pair of reports no further apart than the largest bridged gap is inside the
window of its later report, so every point inserted between them is checked when that report
arrives; a quiet check of an obstacle the track enters means the pair was already alerted.
Pruning forgets samples older than a window before the latest time seen. A sample is then lost
to its vehicle's next report only when that report is more than the largest bridged gap after
it, so no point is ever inserted between them, provided no sample arrives older than the latest
time less the window and that gap (`PrunesWithin`). Without that proviso the agreement fails
(`prune_then_late_sample_unreported`).
-/

namespace Airspace.Collision

open Airspace.Obstacle Airspace.Telemetry Airspace.Track Airspace.Time

/-! ## Runs of requests -/

/-- A request to the detector: take in a sample, raised at an instant, or prune. -/
inductive Detector.Request where
  | observe (s : Sample) (detectedAt : Timestamp)
  | prune

/-- The samples a list of requests takes in, in order. -/
def Detector.Request.observed : List Detector.Request → List Sample
  | [] => []
  | .observe s _ :: rest => s :: observed rest
  | .prune :: rest => observed rest

/-- The alerts raised over a list of requests, in order; an observation that faults raises none. -/
def Detector.alertsOver : Detector → List Detector.Request → List Alert
  | _, [] => []
  | d, .observe s detectedAt :: rest =>
    ((d.observe s detectedAt).2.toOption.getD []) ++ (d.observe s detectedAt).1.alertsOver rest
  | d, .prune :: rest => d.prune.1.alertsOver rest

/-- The latest time seen, once a sample is seen. -/
def advanceLatest (latest : Timestamp) (s : Sample) : Timestamp :=
  if s.timestamp.after latest then s.timestamp else latest

/-- Every prune comes when no sample still to be taken in is older than the latest time seen
less `lag`, in the detector's own reckoning of the latest time, which starts from the zero time. -/
def PrunesWithin (lag : Duration) : Timestamp → List Detector.Request → Prop
  | _, [] => True
  | latest, .observe s _ :: rest => PrunesWithin lag (advanceLatest latest s) rest
  | latest, .prune :: rest =>
    (∀ s ∈ Detector.Request.observed rest, s.timestamp.before (latest.add (-lag)) = false) ∧
      PrunesWithin lag latest rest

instance PrunesWithin.decidable (lag : Duration) :
    ∀ (latest : Timestamp) (rs : List Detector.Request), Decidable (PrunesWithin lag latest rs)
  | _, [] => isTrue trivial
  | latest, .observe s _ :: rest => PrunesWithin.decidable lag (advanceLatest latest s) rest
  | latest, .prune :: rest =>
    haveI := PrunesWithin.decidable lag latest rest
    inferInstanceAs (Decidable
      ((∀ s ∈ Detector.Request.observed rest, s.timestamp.before (latest.add (-lag)) = false) ∧
        PrunesWithin lag latest rest))

/-- The samples of one vehicle, in order. -/
def trackOf (v : String) (samples : List Sample) : List Sample := samples.filter (·.vehicle == v)

/-- A sample inside an obstacle's sphere at its instant. -/
def Inside (o : MovingObstacle Float) (x : Sample) : Prop :=
  ∃ c, o.positionAt x.timestamp = .ok c ∧ c.distance x.position ≤ o.radius

/-! ## Collisions of a track -/

/-- The first collision found lies on the track, inside the obstacle. -/
theorem firstCollision_eq_some {o : MovingObstacle Float} :
    ∀ {l : List Sample} {h : Hit}, o.firstCollision l = .ok (some h) → h.sample ∈ l ∧ Inside o h.sample
  | [], _, hf => by cases hf
  | s :: rest, h, hf => by
    simp only [MovingObstacle.firstCollision] at hf
    cases hc : o.positionAt s.timestamp with
    | error e => simp [hc, bind, Except.bind] at hf
    | ok c =>
      simp only [hc, bind, Except.bind] at hf
      split at hf
      · next hd =>
        cases hf
        exact ⟨List.mem_cons_self, c, hc, hd⟩
      · obtain ⟨hmem, hin⟩ := firstCollision_eq_some hf
        exact ⟨List.mem_cons_of_mem s hmem, hin⟩

/-- A track of an obstacle that never faults, with a sample inside it, has a first collision. -/
theorem firstCollision_of_inside {o : MovingObstacle Float} (ho : o.Spanned) :
    ∀ {l : List Sample}, (∀ s ∈ l, s.timestamp.InInt64Range) → ∀ {x : Sample}, x ∈ l → Inside o x →
      ∃ h, o.firstCollision l = .ok (some h)
  | [], _, _, hx, _ => absurd hx List.not_mem_nil
  | s :: rest, hl, x, hx, hin => by
    obtain ⟨c, hc⟩ := ho.positionAt_ok (hl s List.mem_cons_self)
    by_cases hd : c.distance s.position ≤ o.radius
    · exact ⟨⟨s, c, c.distance s.position⟩, by
        simp only [MovingObstacle.firstCollision, hc, bind, Except.bind, if_pos hd]; rfl⟩
    · have hrest : x ∈ rest := by
        rcases List.mem_cons.mp hx with rfl | hrest
        · obtain ⟨c', hc', hd'⟩ := hin
          rw [hc] at hc'
          cases hc'
          exact absurd hd' hd
        · exact hrest
      obtain ⟨h, hh⟩ := firstCollision_of_inside ho (fun s' hs' => hl s' (List.mem_cons_of_mem s hs'))
        hrest hin
      exact ⟨h, by simp only [MovingObstacle.firstCollision, hc, bind, Except.bind, if_neg hd, hh]⟩

/-- For an obstacle that never faults, a track collides exactly when a sample is inside. -/
theorem collides_eq_ok_true_iff {o : MovingObstacle Float} (ho : o.Spanned) {l : List Sample}
    (hl : ∀ s ∈ l, s.timestamp.InInt64Range) :
    o.collides l = .ok true ↔ ∃ x ∈ l, Inside o x := by
  obtain ⟨hit, hf⟩ := ho.firstCollision_ok hl
  have hcol : o.collides l = .ok hit.isSome := by simp [MovingObstacle.collides, hf]
  rw [hcol]
  constructor
  · intro h
    cases hit with
    | none => cases h
    | some h' =>
      obtain ⟨hmem, hin⟩ := firstCollision_eq_some hf
      exact ⟨_, hmem, hin⟩
  · rintro ⟨x, hx, hin⟩
    obtain ⟨h', hh'⟩ := firstCollision_of_inside ho hl hx hin
    rw [hf] at hh'
    cases hh'
    rfl

/-- The collision flags pair every obstacle with whether the track collides with it. -/
theorem evaluateCollisions_zip {l : List Sample} :
    ∀ {obstacles : List (MovingObstacle Float)} {hits : List Bool},
      evaluateCollisions obstacles l = .ok hits →
      (∀ p ∈ obstacles.zip hits, p.1.collides l = .ok p.2) ∧
        ∀ o ∈ obstacles, ∃ hit, (o, hit) ∈ obstacles.zip hits
  | [], hits, _ => ⟨by simp, by simp⟩
  | o :: rest, hits, h => by
    unfold evaluateCollisions at h
    rw [List.mapM_cons] at h
    cases ho : o.collides l with
    | error e => simp [ho, bind, Except.bind] at h
    | ok hit =>
      cases hr : rest.mapM (fun o => o.collides l) with
      | error e => simp [ho, hr, bind, Except.bind] at h
      | ok hs =>
        simp only [ho, hr, bind, Except.bind, pure, Except.pure, Except.ok.injEq] at h
        subst h
        obtain ⟨hzip, hall⟩ := evaluateCollisions_zip hr
        refine ⟨fun p hp => ?_, fun o' ho' => ?_⟩
        · rcases List.mem_cons.mp hp with rfl | hp
          · exact ho
          · exact hzip p hp
        · rcases List.mem_cons.mp ho' with rfl | ho'
          · exact ⟨hit, List.mem_cons_self⟩
          · obtain ⟨hit', h'⟩ := hall o' ho'
            exact ⟨hit', List.mem_cons_of_mem _ h'⟩

theorem eq_ok_of_toOption {ε α : Type} {x : Except ε α} {a : α} (h : x.toOption = some a) :
    x = .ok a := by
  cases x <;> simp_all [Except.toOption]

/-! ## Alert records -/

theorem alertedAt_eq_some {alerted : List (Pair × Timestamp)} {key : Pair} {t : Timestamp}
    (h : alertedAt alerted key = some t) : ∃ e ∈ alerted, e.1 = key := by
  obtain ⟨e, he, -⟩ := Option.map_eq_some_iff.mp h
  exact ⟨e, List.mem_of_find?_eq_some he, by simpa using List.find?_some he⟩

theorem mem_recordAlert {alerted : List (Pair × Timestamp)} {key : Pair} {t : Timestamp}
    {e : Pair × Timestamp} (h : e ∈ recordAlert alerted key t) : e ∈ alerted ∨ e.1 = key := by
  unfold recordAlert at h
  split at h
  · obtain ⟨e', he', rfl⟩ := List.mem_map.mp h
    split
    · exact .inr rfl
    · exact .inl he'
  · rcases List.mem_append.mp h with h | h
    · exact .inl h
    · exact .inr (by rw [List.mem_singleton.mp h])

/-! ## One observation -/

/-- What checking one obstacle can do: stay quiet, when it was not hit, or was hit only among
samples already alerted on, or raise one alert for the first sample of the window inside it. Only
the samples more than a window after the last alert are checked. -/
theorem checkObstacle_cases (d : Detector) (s : Sample) {dense : List Sample} (detectedAt : Timestamp)
    (st : CheckState) {o : MovingObstacle Float} (hit : Bool) (ho : o.Spanned)
    (hdense : ∀ x ∈ dense, x.timestamp.InInt64Range) :
    ∃ st', d.checkObstacle s dense detectedAt st o hit = (st', none) ∧
      ((st'.alerted = st.alerted ∧ st'.alerts = st.alerts ∧
          (hit = true → alertedAt st.alerted (o.id, s.vehicle) = none → ∀ x ∈ dense, ¬ Inside o x)) ∨
        ∃ h : Hit, h.sample ∈ dense ∧ Inside o h.sample ∧
          st'.alerted = recordAlert st.alerted (o.id, s.vehicle) h.sample.timestamp ∧
          st'.alerts = st.alerts ++
            [⟨o.id, s.vehicle, h.sample, h.obstacle, h.distance, o.radius, detectedAt⟩]) := by
  cases hit with
  | false => exact ⟨_, rfl, .inl ⟨rfl, rfl, fun h => absurd h Bool.false_ne_true⟩⟩
  | true =>
    dsimp only [Detector.checkObstacle, Bool.not_true, Bool.false_eq_true, if_false]
    cases halert : alertedAt st.alerted (o.id, s.vehicle) with
    | none =>
      obtain ⟨r, hr⟩ := ho.firstCollision_ok hdense
      simp only [hr]
      cases r with
      | none =>
        refine ⟨_, rfl, .inl ⟨rfl, rfl, fun _ _ x hx hin => ?_⟩⟩
        obtain ⟨h, hh⟩ := firstCollision_of_inside ho hdense hx hin
        rw [hr] at hh
        cases hh
      | some h =>
        obtain ⟨hmem, hin⟩ := firstCollision_eq_some hr
        exact ⟨_, rfl, .inr ⟨h, hmem, hin, rfl, rfl⟩⟩
    | some last =>
      have hsub : samplesAfter dense (last.add d.window) ⊆ dense := (List.dropWhile_suffix _).subset
      obtain ⟨r, hr⟩ := ho.firstCollision_ok fun x hx => hdense x (hsub hx)
      simp only [hr]
      cases r with
      | none => exact ⟨_, rfl, .inl ⟨rfl, rfl, fun _ hno => absurd hno (by simp)⟩⟩
      | some h =>
        obtain ⟨hmem, hin⟩ := firstCollision_eq_some hr
        exact ⟨_, rfl, .inr ⟨h, hsub hmem, hin, rfl, rfl⟩⟩

/-- What checking obstacles in turn leaves, from the state `st` to `st'`. -/
structure CheckOutcome (ps : List (MovingObstacle Float × Bool)) (s : Sample) (dense : List Sample)
    (st st' : CheckState) : Prop where
  /-- The alerts raised follow those before, each for a checked obstacle the window enters. -/
  raised : ∃ new, st'.alerts = st.alerts ++ new ∧ ∀ a ∈ new, ∃ p ∈ ps,
    a.obstacleId = p.1.id ∧ a.vehicle = s.vehicle ∧ a.sample ∈ dense ∧ Inside p.1 a.sample
  /-- A pair on record was on record before, or has just been alerted. -/
  records : ∀ e ∈ st'.alerted,
    (∃ e' ∈ st.alerted, e'.1 = e.1) ∨ ∃ a ∈ st'.alerts, (a.obstacleId, a.vehicle) = e.1
  /-- A hit obstacle that the window enters was on record, or has just been alerted. -/
  covers : ∀ p ∈ ps, p.2 = true → (∃ x ∈ dense, Inside p.1 x) →
    (∃ e ∈ st.alerted, e.1 = (p.1.id, s.vehicle)) ∨
      ∃ a ∈ st'.alerts, (a.obstacleId, a.vehicle) = (p.1.id, s.vehicle)

theorem CheckOutcome.alerts_subset {ps : List (MovingObstacle Float × Bool)} {s : Sample}
    {dense : List Sample} {st st' : CheckState} (h : CheckOutcome ps s dense st st') :
    st.alerts ⊆ st'.alerts := by
  obtain ⟨new, hnew, -⟩ := h.raised
  rw [hnew]
  exact List.subset_append_left _ _

/-- Checking obstacles in two runs leaves what the two runs leave. A pair on record after the first
run stays covered in the second. -/
theorem CheckOutcome.trans {ps qs : List (MovingObstacle Float × Bool)} {s : Sample}
    {dense : List Sample} {st₁ st₂ st₃ : CheckState} (h₁ : CheckOutcome ps s dense st₁ st₂)
    (h₂ : CheckOutcome qs s dense st₂ st₃) : CheckOutcome (ps ++ qs) s dense st₁ st₃ := by
  obtain ⟨new₁, hnew₁, hsound₁⟩ := h₁.raised
  obtain ⟨new₂, hnew₂, hsound₂⟩ := h₂.raised
  have hsub := h₂.alerts_subset
  have kept : ∀ k, (∃ e ∈ st₂.alerted, e.1 = k) →
      (∃ e ∈ st₁.alerted, e.1 = k) ∨ ∃ a ∈ st₃.alerts, (a.obstacleId, a.vehicle) = k := by
    rintro k ⟨e, he, rfl⟩
    rcases h₁.records e he with h | ⟨a, ha, hk⟩
    · exact .inl h
    · exact .inr ⟨a, hsub ha, hk⟩
  refine ⟨⟨new₁ ++ new₂, by rw [hnew₂, hnew₁, List.append_assoc], fun a ha => ?_⟩,
    fun e he => ?_, fun p hp hhit hin => ?_⟩
  · rcases List.mem_append.mp ha with ha | ha
    · obtain ⟨p, hp, hrest⟩ := hsound₁ a ha
      exact ⟨p, List.mem_append_left _ hp, hrest⟩
    · obtain ⟨p, hp, hrest⟩ := hsound₂ a ha
      exact ⟨p, List.mem_append_right _ hp, hrest⟩
  · rcases h₂.records e he with h | h
    · exact kept _ h
    · exact .inr h
  · rcases List.mem_append.mp hp with hp | hp
    · rcases h₁.covers p hp hhit hin with h | ⟨a, ha, hk⟩
      · exact .inl h
      · exact .inr ⟨a, hsub ha, hk⟩
    · rcases h₂.covers p hp hhit hin with h | h
      · exact kept _ h
      · exact .inr h

/-- One obstacle's check, as an outcome. An obstacle the window enters that raises nothing had its
pair on record. -/
theorem checkObstacle_outcome (d : Detector) (s : Sample) {dense : List Sample}
    (detectedAt : Timestamp) (st : CheckState) {o : MovingObstacle Float} (hit : Bool) (ho : o.Spanned)
    (hdense : ∀ x ∈ dense, x.timestamp.InInt64Range) :
    ∃ st', d.checkObstacle s dense detectedAt st o hit = (st', none) ∧
      CheckOutcome [(o, hit)] s dense st st' := by
  obtain ⟨st', hcheck, hcase⟩ := checkObstacle_cases d s detectedAt st hit ho hdense
  refine ⟨st', hcheck, ?_⟩
  rcases hcase with ⟨halerted, halerts, hquiet⟩ | ⟨h, hmem, hin, halerted, halerts⟩
  · refine ⟨⟨[], by rw [halerts, List.append_nil], by simp⟩, fun e he => .inl ⟨e, halerted ▸ he, rfl⟩,
      fun p hp hhit hinside => .inl ?_⟩
    rw [List.mem_singleton.mp hp] at hhit hinside ⊢
    cases hlast : alertedAt st.alerted (o.id, s.vehicle) with
    | none =>
      obtain ⟨x, hx, hxin⟩ := hinside
      exact absurd hxin (hquiet hhit hlast x hx)
    | some t => exact alertedAt_eq_some hlast
  · have hraised : (⟨o.id, s.vehicle, h.sample, h.obstacle, h.distance, o.radius, detectedAt⟩ : Alert) ∈
        st'.alerts := by
      rw [halerts]
      exact List.mem_append_right _ List.mem_cons_self
    refine ⟨⟨_, halerts, fun a ha => ⟨(o, hit), List.mem_singleton_self _, ?_⟩⟩,
      fun e he => ?_, fun p hp _ _ => .inr ⟨_, hraised, ?_⟩⟩
    · rw [List.mem_singleton.mp ha]
      exact ⟨rfl, rfl, hmem, hin⟩
    · rw [halerted] at he
      rcases mem_recordAlert he with he | hk
      · exact .inl ⟨e, he, rfl⟩
      · exact .inr ⟨_, hraised, hk.symm⟩
    · rw [List.mem_singleton.mp hp]

/-- Checking obstacles that never fault never faults, and leaves an outcome. -/
theorem checkAll_outcome (s : Sample) {dense : List Sample} (detectedAt : Timestamp)
    (hdense : ∀ x ∈ dense, x.timestamp.InInt64Range) :
    ∀ (ps : List (MovingObstacle Float × Bool)), (∀ p ∈ ps, p.1.Spanned) →
      ∀ {d : Detector} {st : CheckState} {res : CheckState × Option (Spline.DomainFault Float)},
        d.checkAll s dense detectedAt st ps = res → res.2 = none ∧ CheckOutcome ps s dense st res.1
  | [], _, _, st, _, hres => by
    subst hres
    exact ⟨rfl, ⟨[], by simp [Detector.checkAll], by simp⟩,
      fun e he => .inl ⟨e, by simpa [Detector.checkAll] using he, rfl⟩, by simp⟩
  | (o, hit) :: rest, hps, d, st, res, hres => by
    obtain ⟨st₁, hcheck, hout₁⟩ :=
      checkObstacle_outcome d s detectedAt st hit (hps _ List.mem_cons_self) hdense
    rw [Detector.checkAll, hcheck] at hres
    obtain ⟨hnone, hout₂⟩ :=
      checkAll_outcome s detectedAt hdense rest (fun p hp => hps p (List.mem_cons_of_mem _ hp)) hres
    exact ⟨hnone, hout₁.trans hout₂⟩

/-- The track checked when a sample arrives: its vehicle's samples, the new one among them,
from one window before it on. -/
def Detector.checkedWindow (d : Detector) (s : Sample) : List Sample :=
  (d.buffer.add s).window s.vehicle (s.timestamp.add (-d.window))

/-- An observation over obstacles that never fault, of a sample whose densified window stays in
range, never faults. It keeps the sample, advances the latest time, and raises alerts, each for
an obstacle its densified window enters; every obstacle the window enters has its flag set, so it
is alerted now or was on record. -/
theorem observe_spec (d : Detector) (s : Sample) (detectedAt : Timestamp)
    (hobs : ∀ o ∈ d.obstacles, o.Spanned)
    (hdense : ∀ x ∈ d.densify.apply (d.checkedWindow s), x.timestamp.InInt64Range) :
    ∃ st : CheckState, (d.observe s detectedAt).2 = .ok st.alerts ∧
      (d.observe s detectedAt).1 =
        { d with
          buffer := d.buffer.add s
          alerted := st.alerted
          latest := advanceLatest d.latest s
          metrics := st.metrics } ∧
      (∀ a ∈ st.alerts, ∃ o ∈ d.obstacles, a.obstacleId = o.id ∧ a.vehicle = s.vehicle ∧
        a.sample ∈ d.densify.apply (d.checkedWindow s) ∧ Inside o a.sample) ∧
      (∀ e ∈ st.alerted,
        (∃ e' ∈ d.alerted, e'.1 = e.1) ∨ ∃ a ∈ st.alerts, (a.obstacleId, a.vehicle) = e.1) ∧
      (∀ o ∈ d.obstacles, (∃ x ∈ d.densify.apply (d.checkedWindow s), Inside o x) →
        (∃ e ∈ d.alerted, e.1 = (o.id, s.vehicle)) ∨
          ∃ a ∈ st.alerts, (a.obstacleId, a.vehicle) = (o.id, s.vehicle)) := by
  dsimp only [Detector.observe, Detector.checkedWindow] at hdense ⊢
  obtain ⟨hits, hev⟩ := evaluateCollisions_ok hobs hdense
  obtain ⟨hzip, hall⟩ := evaluateCollisions_zip hev
  have hps : ∀ p ∈ d.obstacles.zip hits, p.1.Spanned := fun p hp => hobs p.1 (List.of_mem_zip hp).1
  rw [hev]
  dsimp only
  generalize hres : Detector.checkAll _ s _ detectedAt _ _ = res
  obtain ⟨hnone, hout⟩ := checkAll_outcome s detectedAt hdense _ hps hres
  rw [hnone]
  obtain ⟨new, hnew, hsound⟩ := hout.raised
  refine ⟨res.1, rfl, rfl, fun a ha => ?_, hout.records, fun o ho hin => ?_⟩
  · rw [hnew, List.nil_append] at ha
    obtain ⟨p, hp, hid, hveh, hmem, hinside⟩ := hsound a ha
    exact ⟨p.1, (List.of_mem_zip hp).1, hid, hveh, hmem, hinside⟩
  · obtain ⟨hit, hp⟩ := hall o ho
    have hhit : hit = true := by
      have hcol : o.collides _ = .ok hit := hzip _ hp
      rw [(collides_eq_ok_true_iff (hobs o ho) hdense).mpr hin] at hcol
      cases hcol
      rfl
    exact hout.covers _ hp hhit hin

/-! ## Tracks held -/

theorem trackOf_append (v : String) (l r : List Sample) :
    trackOf v (l ++ r) = trackOf v l ++ trackOf v r :=
  List.filter_append l r

theorem trackOf_singleton (v : String) (b : Sample) :
    trackOf v [b] = if b.vehicle = v then [b] else [] := by
  by_cases h : b.vehicle = v <;> simp [trackOf, h]

theorem mem_trackOf {v : String} {l : List Sample} {x : Sample} :
    x ∈ trackOf v l ↔ x ∈ l ∧ x.vehicle = v := by
  simp [trackOf]

theorem trackOf_concat (w : String) (seen : List Sample) (b : Sample) :
    trackOf w (seen ++ [b]) = if w = b.vehicle then trackOf w seen ++ [b] else trackOf w seen := by
  rw [trackOf_append, trackOf_singleton]
  by_cases hw : w = b.vehicle
  · subst hw
    simp
  · simp [hw, Ne.symm hw]

/-- A vehicle's densified track only grows as samples come in. -/
theorem apply_trackOf_subset_concat (c : Densify) (w : String) (seen : List Sample) (b : Sample) :
    c.apply (trackOf w seen) ⊆ c.apply (trackOf w (seen ++ [b])) := by
  rw [trackOf_concat]
  split
  · rcases eq_or_ne (trackOf w seen) [] with h | h
    · rw [h]
      exact List.nil_subset _
    · exact (c.apply_prefix _ _ h).subset
  · exact List.Subset.refl _

/-- Each vehicle's samples in instant order, said of the whole list at once. -/
theorem ordered_trackOf {l : List Sample}
    (h : l.Pairwise fun a b => a.vehicle = b.vehicle → instant a < instant b) (v : String) :
    Ordered (trackOf v l) := by
  unfold Ordered trackOf
  refine (List.pairwise_filter.mpr ?_)
  refine h.imp_of_mem fun {a b} ha hb hab hva hvb => hab ?_
  simp only [beq_iff_eq] at hva hvb
  rw [hva, hvb]

/-- A sample after every sample of a track ends it. -/
theorem insertByTime_of_lt {s : Sample} :
    ∀ {track : List Sample}, (∀ x ∈ track, instant x < instant s) → insertByTime s track = track ++ [s]
  | [], _ => rfl
  | y :: ys, h => by
    have hy : y.timestamp.before s.timestamp = true :=
      before_eq_true_iff.mpr (h y List.mem_cons_self)
    rw [insertByTime, if_pos hy, insertByTime_of_lt fun x hx => h x (List.mem_cons_of_mem y hx),
      List.cons_append]

/-- Adding a sample after every sample of its vehicle appends it to that vehicle's track. -/
theorem track_add_of_lt {b : Buffer} (hb : b.WellFormed) {s : Sample}
    (hs : ∀ x ∈ b.track s.vehicle, instant x < instant s) (v : String) :
    (b.add s).track v = if v = s.vehicle then b.track v ++ [s] else b.track v := by
  rw [Buffer.add, track_addTo s hb.increasing]
  split
  · next hv =>
    subst hv
    exact insertByTime_of_lt hs
  · rfl

/-- Samples added in each vehicle's instant order are held as each vehicle's track. Each vehicle's
held track and remaining samples are the same list after the step. -/
theorem track_foldl_add (v : String) :
    ∀ (l : List Sample) (b : Buffer), b.WellFormed → (∀ w, Ordered (b.track w ++ trackOf w l)) →
      (l.foldl Buffer.add b).track v = b.track v ++ trackOf v l
  | [], b, _, _ => by simp [trackOf]
  | s :: rest, b, hb, hord => by
    have hlt : ∀ x ∈ b.track s.vehicle, instant x < instant s := by
      intro x hx
      have h := hord s.vehicle
      rw [show s :: rest = [s] ++ rest from rfl, trackOf_append, trackOf_singleton,
        if_pos rfl] at h
      exact (List.pairwise_append.mp h).2.2 x hx s (by simp)
    have hadd := track_add_of_lt hb hlt
    have hsplit : ∀ w, (b.add s).track w ++ trackOf w rest = b.track w ++ trackOf w (s :: rest) := by
      intro w
      rw [hadd, show s :: rest = [s] ++ rest from rfl, trackOf_append, trackOf_singleton]
      by_cases hw : w = s.vehicle
      · subst hw
        simp
      · simp [hw, Ne.symm hw]
    rw [List.foldl_cons, track_foldl_add v rest (b.add s) (hb.add s) fun w => hsplit w ▸ hord w,
      hsplit]

/-- A buffer built from nothing, by samples in each vehicle's instant order, holds each
vehicle's samples as its track. -/
theorem track_foldl_add_empty {l : List Sample}
    (hord : l.Pairwise fun x y => x.vehicle = y.vehicle → instant x < instant y) (v : String) :
    (l.foldl Buffer.add Buffer.empty).track v = trackOf v l := by
  rw [track_foldl_add v l _ Buffer.wellFormed_empty fun w => by
    simpa [Buffer.empty, Buffer.track] using ordered_trackOf hord w]
  simp [Buffer.empty, Buffer.track]

/-- A sample no more than a window before another is not cut from that one's window. -/
theorem before_cutoff_eq_false {window : Int} {b y : Sample} (hy : instant b - instant y ≤ window) :
    y.timestamp.before (b.timestamp.add (-window)) = false := by
  rw [Timestamp.before, epochNanos_add, decide_eq_false_iff_not]
  simp only [instant] at hy
  omega

/-- What a window keeps of a track that reaches its start with one sample on. -/
theorem since_append_cons {t : Timestamp} {y : Sample} (hy : y.timestamp.before t = false)
    (l r : List Sample) : since t (l ++ y :: r) = since t l ++ y :: r := by
  unfold since
  rw [List.dropWhile_append, List.dropWhile_cons_of_neg (by simp [hy])]
  split
  · next hnil => rw [List.isEmpty_iff.mp hnil, List.nil_append]
  · rfl

/-! ## The invariant of a run -/

/-- What holds of a detector over obstacles, a window and a densification, once it has taken in
the samples `seen` and raised the alerts `past`, with the requests `rest` still to come. -/
structure Tracking (obstacles : List (MovingObstacle Float)) (window : Int) (c : Densify)
    (d : Detector) (seen : List Sample) (past : List Alert) (rest : List Detector.Request) :
    Prop where
  obstacles_eq : d.obstacles = obstacles
  window_eq : d.window = window
  densify_eq : d.densify = c
  wellFormed : d.buffer.WellFormed
  /-- Each vehicle's held track is the end of the samples of it taken in. -/
  suffix : ∀ v, d.buffer.track v <:+ trackOf v seen
  /-- A sample no longer held is more than the largest bridged gap older than every later one of
  its vehicle. -/
  dropped : ∀ x ∈ seen, x ∉ d.buffer.track x.vehicle → ∀ b ∈ Detector.Request.observed rest,
    b.vehicle = x.vehicle → instant x + c.maxGap < instant b
  /-- A pair on record has been alerted. -/
  records : ∀ e ∈ d.alerted, ∃ a ∈ past, (a.obstacleId, a.vehicle) = e.1
  /-- Every alert names a point of its vehicle's densified track inside one of the obstacles. -/
  sound : ∀ a ∈ past, ∃ o ∈ obstacles, a.obstacleId = o.id ∧
    a.sample ∈ c.apply (trackOf a.vehicle seen) ∧ Inside o a.sample
  /-- Every obstacle that a vehicle's densified track enters has been alerted for it. -/
  covers : ∀ o ∈ obstacles, ∀ v, ∀ x ∈ c.apply (trackOf v seen), Inside o x →
    ∃ a ∈ past, a.obstacleId = o.id ∧ a.vehicle = v
  caughtUp : PrunesWithin (window - c.maxGap) d.latest rest

theorem prune_fst_eq (d : Detector) :
    d.prune.1 = { d with
      alerted := d.alerted.filter fun e => !e.2.before (d.latest.add (-d.window))
      buffer := (d.buffer.prune (d.latest.add (-d.window))).1 } :=
  rfl

theorem track_prune_fst {b : Buffer} (hb : b.WellFormed) (cutoff : Timestamp) (v : String) :
    (b.prune cutoff).1.track v = since cutoff (b.track v) := by
  rw [Buffer.prune_fst]
  exact track_prune cutoff hb.increasing v

namespace Tracking

variable {obstacles : List (MovingObstacle Float)} {window : Int} {c : Densify} {d : Detector}
  {seen : List Sample} {past : List Alert}

/-- A prune keeps the invariant: what it forgets is older than a window before the latest time
seen, and every sample still to come is at most a window less the largest bridged gap before it. -/
theorem prune {rest : List Detector.Request}
    (ht : Tracking obstacles window c d seen past (.prune :: rest)) :
    Tracking obstacles window c d.prune.1 seen past rest := by
  have htrack := track_prune_fst ht.wellFormed (d.latest.add (-d.window))
  rw [prune_fst_eq]
  refine ⟨ht.obstacles_eq, ht.window_eq, ht.densify_eq, ht.wellFormed.prune _,
    fun v => ?_, fun x hx hgone b hb hv => ?_, fun e he => ht.records e (List.mem_filter.mp he).1,
    ht.sound, ht.covers, ht.caughtUp.2⟩
  · rw [htrack]
    exact (List.dropWhile_suffix _).trans (ht.suffix v)
  · rw [htrack] at hgone
    by_cases hheld : x ∈ d.buffer.track x.vehicle
    · have hcut : instant x < (d.latest.add (-d.window)).epochNanos := by
        by_contra hge
        exact hgone ((mem_since (ht.wellFormed.ordered_track _)).mpr ⟨hheld, by omega⟩)
      have hlater := ht.caughtUp.1 b hb
      rw [Timestamp.before, decide_eq_false_iff_not, epochNanos_add] at hlater
      rw [epochNanos_add, ht.window_eq] at hcut
      simp only [instant] at hcut ⊢
      omega
    · exact ht.dropped x hx hheld b hb hv

/-! ### Taking in a sample -/

section Observe

variable {b : Sample} {detectedAt : Timestamp} {rest : List Detector.Request}
  (ht : Tracking obstacles window c d seen past (.observe b detectedAt :: rest))
  (hord : (seen ++ b :: Detector.Request.observed rest).Pairwise
    fun x y => x.vehicle = y.vehicle → instant x < instant y)
include ht hord

/-- The new sample comes after every sample its vehicle has held. -/
theorem lt_of_held : ∀ x ∈ d.buffer.track b.vehicle, instant x < instant b := by
  intro x hx
  obtain ⟨hseen, hv⟩ := mem_trackOf.mp ((ht.suffix b.vehicle).subset hx)
  exact (List.pairwise_append.mp hord).2.2 x hseen b List.mem_cons_self hv

theorem track_add (w : String) :
    (d.buffer.add b).track w = if w = b.vehicle then d.buffer.track w ++ [b] else d.buffer.track w :=
  track_add_of_lt ht.wellFormed (ht.lt_of_held hord) w

/-- The window checked is the vehicle's held track with the new sample, from a window before it. -/
theorem checkedWindow_eq :
    d.checkedWindow b = since (b.timestamp.add (-window)) (d.buffer.track b.vehicle ++ [b]) := by
  rw [Detector.checkedWindow, Buffer.window, ht.track_add hord, if_pos rfl, ht.window_eq]

variable (hgap : (0 : Int) < c.maxGap) (hwin : (c.maxGap : Int) ≤ window)
include hgap hwin

/-- The window checked ends with the new sample and is an end piece of its vehicle's track. -/
theorem checkedWindow_suffix :
    b ∈ d.checkedWindow b ∧ d.checkedWindow b <:+ trackOf b.vehicle (seen ++ [b]) := by
  simp only [Duration] at hgap hwin
  have hkeep : b.timestamp.before (b.timestamp.add (-window)) = false :=
    before_cutoff_eq_false (by omega)
  rw [ht.checkedWindow_eq hord, since_append_cons hkeep, trackOf_concat, if_pos rfl]
  exact ⟨List.mem_append_right _ List.mem_cons_self,
    List.suffix_append_self_iff.mpr ((List.dropWhile_suffix _).trans (ht.suffix b.vehicle))⟩

variable (hbig : (c.maxGap : Int) ≤ 2 ^ 62)
include hbig

/-- A point inserted between the vehicle's last sample and the new one is in the densified
window: the last sample is no more than the largest bridged gap, so no more than a window,
before the new one, hence still held and not cut from the window. -/
theorem between_mem_checked {l : List Sample} {a x : Sample}
    (htr : trackOf b.vehicle seen = l ++ [a]) (hx : x ∈ c.between a b) :
    x ∈ c.apply (d.checkedWindow b) := by
  obtain ⟨-, -, hclose⟩ := mem_between hgap hbig hx
  simp only [Duration] at hclose hwin
  obtain ⟨haseen, hav⟩ := mem_trackOf.mp (htr ▸ List.mem_append_right l (List.mem_singleton_self a))
  have hheld : a ∈ d.buffer.track b.vehicle := by
    by_contra hgone
    have hold := ht.dropped a haseen (hav ▸ hgone) b List.mem_cons_self hav.symm
    simp only [instant] at hold
    omega
  obtain ⟨p, hp, -⟩ := (List.suffix_concat_iff.mp (htr ▸ ht.suffix b.vehicle)).resolve_left
    (List.ne_nil_of_mem hheld)
  have hkeep : a.timestamp.before (b.timestamp.add (-window)) = false :=
    before_cutoff_eq_false (by simp only [instant]; omega)
  rw [ht.checkedWindow_eq hord, hp, List.append_assoc, List.singleton_append, since_append_cons hkeep,
    c.apply_append_pair]
  exact List.mem_append_right _ (List.mem_append_left _ hx)

/-- Every point that the new sample adds to its vehicle's densified track is in the densified
window checked: the sample itself, and the points across the gap from the sample before. -/
theorem mem_apply_concat {x : Sample} (hx : x ∈ c.apply (trackOf b.vehicle seen ++ [b])) :
    x ∈ c.apply (trackOf b.vehicle seen) ∨ x ∈ c.apply (d.checkedWindow b) := by
  obtain ⟨hself, -⟩ := ht.checkedWindow_suffix hord hgap hwin
  rcases List.eq_nil_or_concat (trackOf b.vehicle seen) with hnil | ⟨l, a, hl⟩
  · rw [hnil, List.nil_append] at hx
    rw [List.mem_singleton.mp hx]
    exact .inr (c.mem_apply_of_mem hself)
  · rw [List.concat_eq_append] at hl
    rw [hl, List.append_assoc, List.singleton_append, c.apply_append_pair] at hx
    rcases List.mem_append.mp hx with hx | hx
    · exact .inl (hl ▸ hx)
    rcases List.mem_append.mp hx with hx | hx
    · exact .inr (ht.between_mem_checked hord hgap hwin hbig hl hx)
    · rw [List.mem_singleton.mp hx]
      exact .inr (c.mem_apply_of_mem hself)

/-- The densified window holds only instants whose seconds fit 64 bits, as the samples seen do. -/
theorem checkedWindow_inRange
    (hrange : ∀ x ∈ seen ++ b :: Detector.Request.observed rest, x.timestamp.InInt64Range) :
    ∀ x ∈ d.densify.apply (d.checkedWindow b), x.timestamp.InInt64Range := by
  obtain ⟨-, hwindow⟩ := ht.checkedWindow_suffix hord hgap hwin
  intro x hx
  rw [ht.densify_eq] at hx
  refine inInt64Range_of_mem_apply hgap hbig (fun y hy => hrange y ?_) hx
  obtain ⟨hseen, -⟩ := mem_trackOf.mp (hwindow.subset hy)
  rcases List.mem_append.mp hseen with h | h
  · exact List.mem_append_left _ h
  · exact List.mem_append_right _ (List.mem_singleton.mp h ▸ List.mem_cons_self)

variable (hrange : ∀ x ∈ seen ++ b :: Detector.Request.observed rest, x.timestamp.InInt64Range)
  (hspan : ∀ o ∈ obstacles, o.Spanned)
include hrange hspan

/-- Taking in a sample keeps the invariant, and raises alerts. Every obstacle the densified window
enters is alerted for the vehicle, now or before. The new sample ends its vehicle's track and is
held, so nothing is newly dropped; an alert names a point of the densified window, which is a piece
of the densified track; and a point the new sample adds to the track is in the window, the others
having been covered before. -/
theorem observe : ∃ alerts, (d.observe b detectedAt).2 = .ok alerts ∧
    Tracking obstacles window c (d.observe b detectedAt).1 (seen ++ [b]) (past ++ alerts) rest := by
  obtain ⟨hself, hwindow⟩ := ht.checkedWindow_suffix hord hgap hwin
  obtain ⟨st, hres, hdet, hraised, hrecords, hcovers⟩ := observe_spec d b detectedAt
    (ht.obstacles_eq ▸ hspan) (ht.checkedWindow_inRange hord hgap hwin hbig hrange)
  have hnow : ∀ o ∈ obstacles, ∀ x ∈ c.apply (d.checkedWindow b), Inside o x →
      ∃ a ∈ past ++ st.alerts, a.obstacleId = o.id ∧ a.vehicle = b.vehicle := by
    intro o ho x hx hin
    rcases hcovers o (ht.obstacles_eq ▸ ho) ⟨x, ht.densify_eq ▸ hx, hin⟩ with
      ⟨e, he, hk⟩ | ⟨a, ha, hk⟩
    · obtain ⟨a, ha, hka⟩ := ht.records e he
      rw [hk] at hka
      exact ⟨a, List.mem_append_left _ ha, (Prod.mk.inj hka).1, (Prod.mk.inj hka).2⟩
    · exact ⟨a, List.mem_append_right _ ha, (Prod.mk.inj hk).1, (Prod.mk.inj hk).2⟩
  have hheld : b ∈ (d.buffer.add b).track b.vehicle := by
    rw [ht.track_add hord, if_pos rfl]
    exact List.mem_append_right _ (List.mem_singleton_self _)
  refine ⟨st.alerts, hres, ?_⟩
  rw [hdet]
  refine ⟨ht.obstacles_eq, ht.window_eq, ht.densify_eq, ht.wellFormed.add b, fun w => ?suffix,
    fun x hx hgone b' hb' hv => ?dropped, fun e he => ?records, fun a ha => ?sound,
    fun o ho w x hx hin => ?covers, ht.caughtUp⟩
  case suffix =>
    rw [ht.track_add hord, trackOf_concat]
    split
    · exact List.suffix_append_self_iff.mpr (ht.suffix w)
    · exact ht.suffix w
  case dropped =>
    rcases List.mem_append.mp hx with hx | hx
    · have hold : x ∉ d.buffer.track x.vehicle := fun h => hgone (by
        rw [ht.track_add hord]
        split
        · exact List.mem_append_left _ h
        · exact h)
      exact ht.dropped x hx hold b' (List.mem_cons_of_mem _ hb') hv
    · rw [List.mem_singleton.mp hx] at hgone
      exact absurd hheld hgone
  case records =>
    rcases hrecords e he with ⟨e', he', hk⟩ | ⟨a, ha, hk⟩
    · obtain ⟨a, ha, hka⟩ := ht.records e' he'
      exact ⟨a, List.mem_append_left _ ha, hka.trans hk⟩
    · exact ⟨a, List.mem_append_right _ ha, hk⟩
  case sound =>
    rcases List.mem_append.mp ha with ha | ha
    · obtain ⟨o, ho, hid, hmem, hin⟩ := ht.sound a ha
      exact ⟨o, ho, hid, apply_trackOf_subset_concat c a.vehicle seen b hmem, hin⟩
    · obtain ⟨o, ho, hid, hveh, hmem, hin⟩ := hraised a ha
      refine ⟨o, ht.obstacles_eq ▸ ho, hid, ?_, hin⟩
      rw [hveh]
      rw [ht.densify_eq] at hmem
      exact (c.apply_infix (List.ne_nil_of_mem hself) hwindow.isInfix).subset hmem
  case covers =>
    have hold : x ∈ c.apply (trackOf w seen) → ∃ a ∈ past ++ st.alerts, a.obstacleId = o.id ∧ a.vehicle = w :=
      fun hx => (ht.covers o ho w x hx hin).imp fun a ⟨ha, hk⟩ => ⟨List.mem_append_left _ ha, hk⟩
    rw [trackOf_concat] at hx
    split at hx
    · next hw =>
      subst hw
      rcases ht.mem_apply_concat hord hgap hwin hbig hx with hx | hx
      · exact hold hx
      · exact hnow o ho x hx hin
    · exact hold hx

end Observe

/-- The invariant holds after every run of requests, from any state it holds in. -/
theorem run (hspan : ∀ o ∈ obstacles, o.Spanned) (hgap : (0 : Int) < c.maxGap)
    (hwin : (c.maxGap : Int) ≤ window) (hbig : (c.maxGap : Int) ≤ 2 ^ 62) :
    ∀ (rest : List Detector.Request) {d : Detector} {seen : List Sample} {past : List Alert},
      Tracking obstacles window c d seen past rest →
      (seen ++ Detector.Request.observed rest).Pairwise
        (fun x y => x.vehicle = y.vehicle → instant x < instant y) →
      (∀ x ∈ seen ++ Detector.Request.observed rest, x.timestamp.InInt64Range) →
      ∃ d', Tracking obstacles window c d' (seen ++ Detector.Request.observed rest)
        (past ++ d.alertsOver rest) []
  | [], d, _, _, ht, _, _ => ⟨d, by simpa [Detector.alertsOver, Detector.Request.observed] using ht⟩
  | .observe b detectedAt :: rest, d, seen, past, ht, hord, hrange => by
    obtain ⟨alerts, hres, ht'⟩ := ht.observe hord hgap hwin hbig hrange hspan
    obtain ⟨d', hd'⟩ := run hspan hgap hwin hbig rest ht'
      (by simpa [Detector.Request.observed] using hord)
      (by simpa [Detector.Request.observed] using hrange)
    have halerts : d.alertsOver (.observe b detectedAt :: rest) =
        alerts ++ (d.observe b detectedAt).1.alertsOver rest := by
      simp [Detector.alertsOver, hres, Except.toOption]
    refine ⟨d', ?_⟩
    rw [halerts, ← List.append_assoc]
    simpa [Detector.Request.observed] using hd'
  | .prune :: rest, d, _, _, ht, hord, hrange => run hspan hgap hwin hbig rest ht.prune hord hrange

end Tracking

/-! ## The detector and the report agree -/

/-- A fresh detector holds the invariant before any request. -/
theorem tracking_new {obstacles : List (MovingObstacle Float)} {window : Duration} {c : Densify}
    (hwin : 0 < window) {requests : List Detector.Request}
    (hcaught : PrunesWithin (window - c.maxGap) Timestamp.zero requests) :
    Tracking obstacles window c (Detector.new obstacles window c) [] [] requests where
  obstacles_eq := rfl
  window_eq := by simp [Detector.new, Int.not_le.mpr hwin]
  densify_eq := rfl
  wellFormed := Buffer.wellFormed_empty
  suffix v := by simp [Detector.new, Buffer.track, trackOf]
  dropped x hx := absurd hx List.not_mem_nil
  records e he := absurd he List.not_mem_nil
  sound a ha := absurd ha List.not_mem_nil
  covers o _ v x hx := by simp [trackOf, Densify.apply] at hx
  caughtUp := hcaught

/-- A sphere of 100 ft about a point 300 ft up, standing still. -/
def stationarySphere : MovingObstacle Float := MovingObstacle.new 5 [⟨0, ⟨38.14, -76.43, 300⟩⟩] 0 100

/-- A report above the sphere's point, some seconds after 2024-06-01T12:00:00Z. -/
def reportAt (vehicle : String) (seconds : Int) (altitude : Float) : Sample :=
  ⟨vehicle, ⟨1717243200 + seconds, 0, 0, Nat.zero_lt_succ _⟩, ⟨38.14, -76.43, altitude⟩, 0⟩

/-- `uas-1` descends through the sphere between two reports 2 s apart; `uas-2` reports 70 s
after the first, and the prune then forgets both reports of `uas-1`, whose next report comes
25 s after its first, 45 s behind `uas-2`. -/
def shortLagPrune : List Detector.Request :=
  [.observe (reportAt "uas-1" 0 450) Timestamp.zero, .observe (reportAt "uas-1" 2 150) Timestamp.zero,
    .observe (reportAt "uas-2" 70 1000) Timestamp.zero, .prune,
    .observe (reportAt "uas-1" 25 1000) Timestamp.zero]

/-- `uas-1` reports above the sphere and `uas-2` 100 s later; the prune comes before the second
report of `uas-1`, 2 s after its first and 98 s behind `uas-2`. -/
def laggingPrune : List Detector.Request :=
  [.observe (reportAt "uas-1" 0 450) Timestamp.zero, .observe (reportAt "uas-2" 100 1000) Timestamp.zero,
    .prune, .observe (reportAt "uas-1" 2 150) Timestamp.zero]

/-- The live detector and the offline report agree on every pair of obstacle and vehicle. Take
obstacles made by `MovingObstacle.newWith` with any solver, with distinct ids; a densification
whose largest bridged gap is positive, at most the window and at most `2^62` ns; and any
interleaving of vehicles' tracks, each in strictly increasing instant order with seconds that
fit 64 bits, with prunes only when no sample still to come is older than the latest time seen
less the window and the largest bridged gap. Then the detector raises an alert for an obstacle
and a vehicle exactly when the vehicle's whole track, held by a buffer of the same samples and
densified, enters the obstacle. Ids are distinct, so the alert's obstacle is this one. -/
theorem alertsOver_iff_collides (obstacles : List (MovingObstacle Float))
    (hbuilt : ∀ o ∈ obstacles, ∃ solve id waypoints speed radius,
      o = MovingObstacle.newWith solve id waypoints speed radius)
    (hids : (obstacles.map MovingObstacle.id).Nodup)
    (window : Duration) (c : Densify) (hgap : 0 < c.maxGap) (hwin : c.maxGap ≤ window)
    (hbig : c.maxGap ≤ 2 ^ 62) (requests : List Detector.Request)
    (hrange : ∀ s ∈ Detector.Request.observed requests, s.timestamp.InInt64Range)
    (hord : (Detector.Request.observed requests).Pairwise
      fun x y => x.vehicle = y.vehicle → instant x < instant y)
    (hcaught : PrunesWithin (window - c.maxGap) Timestamp.zero requests)
    {o : MovingObstacle Float} (ho : o ∈ obstacles) (v : String) :
    (∃ a ∈ (Detector.new obstacles window c).alertsOver requests,
        a.obstacleId = o.id ∧ a.vehicle = v) ↔
      o.collides (c.apply (((Detector.Request.observed requests).foldl Buffer.add Buffer.empty).track v)) =
        .ok true := by
  have hspan : ∀ o ∈ obstacles, o.Spanned := by
    intro o ho
    obtain ⟨solve, id, waypoints, speed, radius, rfl⟩ := hbuilt o ho
    exact MovingObstacle.newWith_spanned solve id waypoints speed radius
  obtain ⟨d, hfin⟩ := Tracking.run hspan hgap hwin hbig requests
    (tracking_new (lt_of_lt_of_le hgap hwin) hcaught) (by simpa using hord) (by simpa using hrange)
  simp only [List.nil_append] at hfin
  have hdense : ∀ x ∈ c.apply (trackOf v (Detector.Request.observed requests)),
      x.timestamp.InInt64Range :=
    fun x hx => inInt64Range_of_mem_apply hgap hbig
      (fun y hy => hrange y (mem_trackOf.mp hy).1) hx
  rw [track_foldl_add_empty hord, collides_eq_ok_true_iff (hspan o ho) hdense]
  constructor
  · rintro ⟨a, ha, hid, hveh⟩
    obtain ⟨o', ho', hid', hmem, hin⟩ := hfin.sound a ha
    have hsame : o' = o := List.inj_on_of_nodup_map hids ho' ho (hid'.symm.trans hid)
    subst hsame
    rw [hveh] at hmem
    exact ⟨a.sample, hmem, hin⟩
  · rintro ⟨x, hx, hin⟩
    exact hfin.covers o ho v x hx hin

/-- With a prune that forgets `uas-1`'s reports while it lags 45 s behind, less than the window of
60 s less the largest bridged gap of 10 s, the detector and the report agree on the descent
through the sphere. -/
theorem alertsOver_iff_collides_short_lag :
    PrunesWithin (60000000000 - Densify.default.maxGap) Timestamp.zero shortLagPrune ∧
    ((∃ a ∈ (Detector.new [stationarySphere] 60000000000 Densify.default).alertsOver shortLagPrune,
        a.obstacleId = stationarySphere.id ∧ a.vehicle = "uas-1") ↔
      stationarySphere.collides (Densify.default.apply
        (((Detector.Request.observed shortLagPrune).foldl Buffer.add Buffer.empty).track "uas-1")) =
        .ok true) :=
  ⟨by decide, alertsOver_iff_collides [stationarySphere]
    (fun _ h => ⟨Linear.solve, 5, _, 0, 100, List.mem_singleton.mp h⟩) (by decide +kernel) 60000000000
    Densify.default (by decide) (by decide) (by decide) shortLagPrune (by decide) (by decide +kernel)
    (by decide) (List.mem_singleton_self _) "uas-1"⟩

/-- A prune while one vehicle lags behind another: it forgets the first report of `uas-1`, whose
second report, 2 s later, is then checked alone. The descent between the two reports enters the
sphere 0.4 s in; the report of the whole track finds it, and the detector never raises it. -/
theorem prune_then_late_sample_unreported :
    (Detector.Request.observed laggingPrune).Pairwise
      (fun x y => x.vehicle = y.vehicle → instant x < instant y) ∧
    ¬ PrunesWithin (60000000000 - Densify.default.maxGap) Timestamp.zero laggingPrune ∧
    (Detector.new [stationarySphere] 60000000000 Densify.default).alertsOver laggingPrune = [] ∧
    stationarySphere.collides (Densify.default.apply
      (((Detector.Request.observed laggingPrune).foldl Buffer.add Buffer.empty).track "uas-1")) =
      .ok true :=
  ⟨by decide +kernel, by decide, List.isEmpty_iff.mp (by decide +kernel),
    eq_ok_of_toOption (by decide +kernel)⟩

end Airspace.Collision
