import Mathlib.Data.Set.Card
import Mathlib.Data.String.Basic
import Airspace.Track.Buffer

/-!
# The track buffer as a map from vehicles and instants to samples

What a reader can learn from a buffer is which sample it holds for each vehicle at
each instant; how the samples are laid out is the buffer's own affair. This module
names that view (`Buffer.view`), and the changes of it that adding and pruning stand
for (`Reference.add`, `Reference.prune`). It proves that the buffer follows them
over every sequence of additions and prunes, and that every query answers from the
view alone: a window is the view's samples from an instant on, in instant order; the
vehicles are those the view holds a sample for; the newest samples are those at each
vehicle's last instant; a prune reports how many entries of the view it removed.

Instants are nanoseconds since 1970, so two timestamps at the same instant in
different zones stand for the same entry. The invariant that carries every step,
`Buffer.WellFormed`, is the one the buffer's layout promises: vehicles in strictly
increasing order of id, each with a nonempty track whose instants strictly increase
and whose samples all belong to that vehicle.
-/

namespace Airspace.Track

open Airspace.Time Airspace.Telemetry

/-- The instant of a sample, in nanoseconds since 1970; the zone is not part of it. -/
def instant (s : Sample) : Int := s.timestamp.epochNanos

theorem before_eq_true_iff {a b : Timestamp} :
    a.before b = true ↔ a.epochNanos < b.epochNanos := by
  simp [Timestamp.before]

/-- Two timestamps are `sameInstant` exactly when they name the same nanosecond. -/
theorem sameInstant_eq_true_iff {a b : Timestamp} :
    a.sameInstant b = true ↔ a.epochNanos = b.epochNanos := by
  have ha := a.nanos_lt
  have hb := b.nanos_lt
  simp only [nanosPerSecond] at ha hb
  simp only [Timestamp.sameInstant, Timestamp.epochNanos, nanosPerSecond, Bool.and_eq_true,
    beq_iff_eq]
  omega

/-! ## Tracks in instant order -/

/-- A track whose instants strictly increase. -/
def Ordered (track : List Sample) : Prop :=
  track.Pairwise fun a b => instant a < instant b

/-- The sample a track holds at an instant. -/
def atInstant (track : List Sample) (i : Int) : Option Sample :=
  track.find? fun s => instant s == i

theorem Ordered.tail {s : Sample} {track : List Sample} (h : Ordered (s :: track)) :
    Ordered track :=
  (List.pairwise_cons.mp h).2

theorem Ordered.lt_of_mem {s x : Sample} {track : List Sample} (h : Ordered (s :: track))
    (hx : x ∈ track) : instant s < instant x :=
  (List.pairwise_cons.mp h).1 x hx

/-- In a track in instant order, the sample at an instant is the one member with that
instant. -/
theorem atInstant_eq_some_iff {track : List Sample} (h : Ordered track) {i : Int}
    {s : Sample} : atInstant track i = some s ↔ s ∈ track ∧ instant s = i := by
  induction track with
  | nil => simp [atInstant]
  | cons y ys ih =>
      by_cases hy : instant y = i
      · have hfind : atInstant (y :: ys) i = some y := by simp [atInstant, hy]
        rw [hfind, Option.some.injEq]
        constructor
        · rintro rfl
          exact ⟨List.mem_cons_self, hy⟩
        · rintro ⟨hs, rfl⟩
          rcases List.mem_cons.mp hs with rfl | hs
          · rfl
          · exact absurd hy (Int.ne_of_lt (h.lt_of_mem hs))
      · have hfind : atInstant (y :: ys) i = atInstant ys i := by simp [atInstant, hy]
        rw [hfind, ih h.tail]
        constructor
        · rintro ⟨hs, hi⟩
          exact ⟨List.mem_cons_of_mem y hs, hi⟩
        · rintro ⟨hs, rfl⟩
          rcases List.mem_cons.mp hs with rfl | hs
          · exact absurd rfl hy
          · exact ⟨hs, rfl⟩

/-- Two members of a track in instant order at one instant are the same sample. -/
theorem Ordered.eq_of_instant_eq {track : List Sample} (h : Ordered track) {a b : Sample}
    (ha : a ∈ track) (hb : b ∈ track) (hab : instant a = instant b) : a = b := by
  have hfa := (atInstant_eq_some_iff h).mpr ⟨ha, hab⟩
  have hfb := (atInstant_eq_some_iff h).mpr ⟨hb, rfl⟩
  exact Option.some.inj (hfa.symm.trans hfb)

/-- Adding to a track in instant order keeps every sample at another instant, drops
the one at the new sample's instant, and adds the new sample. -/
theorem mem_insertByTime {track : List Sample} (h : Ordered track) {s x : Sample} :
    x ∈ insertByTime s track ↔ x = s ∨ (x ∈ track ∧ instant x ≠ instant s) := by
  induction track with
  | nil => simp [insertByTime]
  | cons y ys ih =>
      have later : ∀ z ∈ ys, instant y < instant z := fun z hz => h.lt_of_mem hz
      by_cases hbefore : y.timestamp.before s.timestamp = true
      · have hlt : instant y < instant s := before_eq_true_iff.mp hbefore
        simp only [insertByTime, hbefore, if_true, List.mem_cons, ih h.tail]
        grind
      · by_cases hsame : y.timestamp.sameInstant s.timestamp = true
        · have heq : instant y = instant s := sameInstant_eq_true_iff.mp hsame
          simp only [insertByTime, hbefore, hsame, Bool.false_eq_true, if_false, if_true,
            List.mem_cons]
          grind
        · have hlt : instant s < instant y := by
            have hne := mt sameInstant_eq_true_iff.mpr hsame
            have hge := mt before_eq_true_iff.mpr hbefore
            simp only [instant] at hne hge ⊢
            omega
          simp only [insertByTime, hbefore, hsame, Bool.false_eq_true, if_false,
            List.mem_cons]
          grind

theorem ordered_insertByTime {track : List Sample} (h : Ordered track) (s : Sample) :
    Ordered (insertByTime s track) := by
  induction track with
  | nil => simp [insertByTime, Ordered]
  | cons y ys ih =>
      have later : ∀ z ∈ ys, instant y < instant z := fun z hz => h.lt_of_mem hz
      by_cases hbefore : y.timestamp.before s.timestamp = true
      · have hlt : instant y < instant s := before_eq_true_iff.mp hbefore
        simp only [insertByTime, hbefore, if_true]
        refine List.pairwise_cons.mpr ⟨fun z hz => ?_, ih h.tail⟩
        rcases (mem_insertByTime h.tail).mp hz with rfl | ⟨hz, -⟩
        · exact hlt
        · exact later z hz
      · by_cases hsame : y.timestamp.sameInstant s.timestamp = true
        · have heq : instant y = instant s := sameInstant_eq_true_iff.mp hsame
          simp only [insertByTime, hbefore, hsame, Bool.false_eq_true, if_false, if_true]
          exact List.pairwise_cons.mpr ⟨fun z hz => heq ▸ later z hz, h.tail⟩
        · have hlt : instant s < instant y := by
            have hne := mt sameInstant_eq_true_iff.mpr hsame
            have hge := mt before_eq_true_iff.mpr hbefore
            simp only [instant] at hne hge ⊢
            omega
          simp only [insertByTime, hbefore, hsame, Bool.false_eq_true, if_false]
          refine List.pairwise_cons.mpr ⟨fun z hz => ?_, h⟩
          rcases List.mem_cons.mp hz with rfl | hz
          · exact hlt
          · exact lt_trans hlt (later z hz)

/-- The samples a window keeps are exactly those at or after its start. -/
theorem mem_since {track : List Sample} (h : Ordered track) {t : Timestamp} {x : Sample} :
    x ∈ since t track ↔ x ∈ track ∧ t.epochNanos ≤ instant x := by
  induction track with
  | nil => simp [since]
  | cons y ys ih =>
      have later : ∀ z ∈ ys, instant y < instant z := fun z hz => h.lt_of_mem hz
      by_cases hbefore : y.timestamp.before t = true
      · have hlt : instant y < t.epochNanos := before_eq_true_iff.mp hbefore
        have hdrop : since t (y :: ys) = since t ys := by simp [since, hbefore]
        rw [hdrop, ih h.tail, List.mem_cons]
        grind
      · have hge : t.epochNanos ≤ instant y := by
          have hnot := mt before_eq_true_iff.mpr hbefore
          simp only [instant] at hnot ⊢
          omega
        have hkeep : since t (y :: ys) = y :: ys := by simp [since, hbefore]
        rw [hkeep, List.mem_cons]
        grind

theorem Ordered.since {track : List Sample} (h : Ordered track) (t : Timestamp) :
    Ordered (since t track) :=
  h.sublist (List.dropWhile_sublist _)

/-- What a window leaves out of a track in instant order is the samples before its start. -/
theorem length_sub_length_since {track : List Sample} (h : Ordered track) (t : Timestamp) :
    track.length - (since t track).length =
      (track.filter fun s => decide (instant s < t.epochNanos)).length := by
  induction track with
  | nil => simp [since]
  | cons y ys ih =>
      by_cases hbefore : y.timestamp.before t = true
      · have hlt : instant y < t.epochNanos := before_eq_true_iff.mp hbefore
        have hdrop : since t (y :: ys) = since t ys := by simp [since, hbefore]
        have hshorter := (List.dropWhile_sublist (l := ys) fun s => s.timestamp.before t).length_le
        rw [hdrop, List.filter_cons_of_pos (by simpa using hlt), List.length_cons,
          List.length_cons, ← ih h.tail]
        simp only [since] at hshorter ⊢
        omega
      · have hge : t.epochNanos ≤ instant y := by
          have hnot := mt before_eq_true_iff.mpr hbefore
          simp only [instant] at hnot ⊢
          omega
        have hkeep : since t (y :: ys) = y :: ys := by simp [since, hbefore]
        have hnone : (y :: ys).filter (fun s => decide (instant s < t.epochNanos)) = [] := by
          refine List.filter_eq_nil_iff.mpr fun z hz => ?_
          rcases List.mem_cons.mp hz with rfl | hz
          · simpa using hge
          · simpa using le_trans hge (le_of_lt (h.lt_of_mem hz))
        rw [hkeep, hnone]
        simp

/-- The newest sample of a track in instant order is its last. -/
theorem Ordered.le_getLast {track : List Sample} (h : Ordered track) (hne : track ≠ [])
    {x : Sample} (hx : x ∈ track) : instant x ≤ instant (track.getLast hne) := by
  have hpair : Ordered (track.dropLast ++ [track.getLast hne]) := by
    rw [List.dropLast_append_getLast hne]
    exact h
  have hx' : x ∈ track.dropLast ++ [track.getLast hne] := by
    rw [List.dropLast_append_getLast hne]
    exact hx
  rcases List.mem_append.mp hx' with hx' | hx'
  · exact le_of_lt ((List.pairwise_append.mp hpair).2.2 x hx' _ (List.mem_singleton_self _))
  · rw [List.mem_singleton.mp hx']

/-! ## The buffer's invariant -/

/-- What the buffer's layout promises. -/
structure Buffer.WellFormed (b : Buffer) : Prop where
  /-- Vehicles come in strictly increasing order of id. -/
  increasing : b.tracks.Pairwise fun e f => e.1 < f.1
  /-- No vehicle is held with an empty track. -/
  nonempty : ∀ e ∈ b.tracks, e.2 ≠ []
  /-- Each track is in strictly increasing instant order. -/
  ordered : ∀ e ∈ b.tracks, Ordered e.2
  /-- Each track holds only samples of its vehicle. -/
  owned : ∀ e ∈ b.tracks, ∀ s ∈ e.2, s.vehicle = e.1

theorem Buffer.wellFormed_empty : Buffer.empty.WellFormed :=
  ⟨List.Pairwise.nil, by simp [Buffer.empty], by simp [Buffer.empty], by simp [Buffer.empty]⟩

theorem Buffer.track_cons (w : String) (tr : List Sample) (rest : List (String × List Sample))
    (v : String) :
    (Buffer.mk ((w, tr) :: rest)).track v = if w = v then tr else (Buffer.mk rest).track v := by
  by_cases hw : w = v <;> simp [Buffer.track, hw]

/-- A vehicle that no entry names has an empty track. -/
theorem Buffer.track_eq_nil {ts : List (String × List Sample)} {v : String}
    (hv : ∀ e ∈ ts, e.1 ≠ v) : (Buffer.mk ts).track v = [] := by
  induction ts with
  | nil => rfl
  | cons e rest ih =>
      rw [Buffer.track_cons, if_neg (hv e List.mem_cons_self)]
      exact ih fun f hf => hv f (List.mem_cons_of_mem e hf)

/-- With vehicles in increasing order, the track of a held vehicle is its entry's. -/
theorem Buffer.track_eq_of_mem {ts : List (String × List Sample)}
    (hinc : ts.Pairwise fun e f => e.1 < f.1) {e : String × List Sample} (he : e ∈ ts) :
    (Buffer.mk ts).track e.1 = e.2 := by
  induction ts with
  | nil => simp at he
  | cons f rest ih =>
      rw [Buffer.track_cons]
      rcases List.mem_cons.mp he with rfl | he
      · simp
      · have hlt : f.1 < e.1 := (List.pairwise_cons.mp hinc).1 e he
        rw [if_neg (ne_of_lt hlt)]
        exact ih (List.pairwise_cons.mp hinc).2 he

theorem Buffer.mem_track {ts : List (String × List Sample)} {v : String} {s : Sample}
    (hs : s ∈ (Buffer.mk ts).track v) : ∃ e ∈ ts, e.1 = v ∧ s ∈ e.2 := by
  induction ts with
  | nil => simp [Buffer.track] at hs
  | cons f rest ih =>
      rw [Buffer.track_cons] at hs
      split at hs
      · exact ⟨f, List.mem_cons_self, by assumption, hs⟩
      · obtain ⟨e, he, hv, hse⟩ := ih hs
        exact ⟨e, List.mem_cons_of_mem f he, hv, hse⟩

namespace Buffer.WellFormed

variable {b : Buffer} (hb : b.WellFormed)
include hb

theorem ordered_track (v : String) : Ordered (b.track v) := by
  by_cases hv : ∃ e ∈ b.tracks, e.1 = v
  · obtain ⟨e, he, rfl⟩ := hv
    rw [Buffer.track_eq_of_mem hb.increasing he]
    exact hb.ordered e he
  · have hnil : b.track v = [] := Buffer.track_eq_nil fun e he hev => hv ⟨e, he, hev⟩
    rw [hnil]
    exact List.Pairwise.nil

theorem vehicle_eq_of_mem_track {v : String} {s : Sample} (hs : s ∈ b.track v) :
    s.vehicle = v := by
  obtain ⟨e, he, rfl, hse⟩ := Buffer.mem_track hs
  exact hb.owned e he s hse

end Buffer.WellFormed

/-! ## Adding keeps the invariant -/

theorem insertByTime_ne_nil (s : Sample) (track : List Sample) : insertByTime s track ≠ [] := by
  cases track with
  | nil => simp [insertByTime]
  | cons y ys =>
      simp only [insertByTime]
      split
      · simp
      · split <;> simp

/-- Adding touches only the entry of the sample's vehicle, or makes one. -/
theorem mem_addTo {s : Sample} {ts : List (String × List Sample)} {e : String × List Sample}
    (he : e ∈ addTo s ts) : e.1 = s.vehicle ∨ e ∈ ts := by
  induction ts with
  | nil =>
      left
      simp only [addTo, List.mem_singleton] at he
      rw [he]
  | cons f rest ih =>
      obtain ⟨w, tr⟩ := f
      simp only [addTo] at he
      split at he
      · rcases List.mem_cons.mp he with rfl | he
        · left
          simpa using ‹(w == s.vehicle) = true›
        · exact Or.inr (List.mem_cons_of_mem _ he)
      · split at he
        · rcases List.mem_cons.mp he with rfl | he
          · exact Or.inl rfl
          · exact Or.inr he
        · rcases List.mem_cons.mp he with rfl | he
          · exact Or.inr List.mem_cons_self
          · exact (ih he).imp_right (List.mem_cons_of_mem _)

theorem increasing_addTo (s : Sample) {ts : List (String × List Sample)}
    (hinc : ts.Pairwise fun e f => e.1 < f.1) :
    (addTo s ts).Pairwise fun e f => e.1 < f.1 := by
  induction ts with
  | nil => simp [addTo]
  | cons f rest ih =>
      obtain ⟨w, tr⟩ := f
      obtain ⟨hw, hrest⟩ := List.pairwise_cons.mp hinc
      simp only [addTo]
      split
      · exact List.pairwise_cons.mpr ⟨hw, hrest⟩
      · split
        · refine List.pairwise_cons.mpr ⟨fun e he => ?_, hinc⟩
          rcases List.mem_cons.mp he with rfl | he
          · assumption
          · exact lt_trans ‹s.vehicle < w› (hw e he)
        · have hlt : w < s.vehicle := by
            have hne : w ≠ s.vehicle := by simpa using ‹¬(w == s.vehicle) = true›
            rcases lt_trichotomy w s.vehicle with h | h | h
            · exact h
            · exact absurd h hne
            · exact absurd h ‹¬s.vehicle < w›
          refine List.pairwise_cons.mpr ⟨fun e he => ?_, ih hrest⟩
          rcases mem_addTo he with h | h
          · rw [h]
            exact hlt
          · exact hw e h

/-- Adding changes the track of the sample's vehicle alone, by inserting the sample. -/
theorem track_addTo (s : Sample) {ts : List (String × List Sample)}
    (hinc : ts.Pairwise fun e f => e.1 < f.1) (v : String) :
    (Buffer.mk (addTo s ts)).track v =
      if v = s.vehicle then insertByTime s ((Buffer.mk ts).track v)
      else (Buffer.mk ts).track v := by
  induction ts with
  | nil =>
      by_cases hv : v = s.vehicle
      · subst hv
        simp [addTo, insertByTime, Buffer.track]
      · simp [addTo, hv, Ne.symm hv, Buffer.track]
  | cons f rest ih =>
      obtain ⟨w, tr⟩ := f
      obtain ⟨hw, hrest⟩ := List.pairwise_cons.mp hinc
      simp only [addTo]
      split
      · have hws : w = s.vehicle := by simpa using ‹(w == s.vehicle) = true›
        rw [Buffer.track_cons, Buffer.track_cons, hws]
        by_cases hv : v = s.vehicle
        · subst hv
          simp
        · simp [hv, Ne.symm hv]
      · split
        · have hlt : s.vehicle < w := ‹_›
          by_cases hv : v = s.vehicle
          · subst hv
            have hnil : (Buffer.mk rest).track s.vehicle = [] :=
              Buffer.track_eq_nil fun e he hev => absurd (hev ▸ lt_trans hlt (hw e he)) (lt_irrefl _)
            simp [Buffer.track_cons, ne_of_gt hlt, hnil, insertByTime]
          · simp [Buffer.track_cons, hv, Ne.symm hv]
        · have hne : w ≠ s.vehicle := by simpa using ‹¬(w == s.vehicle) = true›
          rw [Buffer.track_cons, Buffer.track_cons, ih hrest]
          by_cases hv : v = s.vehicle
          · subst hv
            simp [hne]
          · simp [hv]

namespace Buffer.WellFormed

variable {b : Buffer} (hb : b.WellFormed)
include hb

/-- Adding a sample keeps a buffer well formed: the entry of the sample's vehicle is the inserted
track, and every other entry is as it was. -/
theorem add (s : Sample) : (b.add s).WellFormed := by
  have hinc := increasing_addTo s hb.increasing
  have entry : ∀ e ∈ (b.add s).tracks, e.1 = s.vehicle → e.2 = insertByTime s (b.track s.vehicle) := by
    intro e he hv
    have htrack := Buffer.track_eq_of_mem hinc he
    rw [hv, track_addTo s hb.increasing, if_pos rfl] at htrack
    exact htrack.symm
  have old : ∀ e ∈ (b.add s).tracks, e.1 ≠ s.vehicle → e ∈ b.tracks :=
    fun e he hv => (mem_addTo he).resolve_left hv
  refine ⟨hinc, fun e he => ?_, fun e he => ?_, fun e he => ?_⟩
  · by_cases hv : e.1 = s.vehicle
    · rw [entry e he hv]
      exact insertByTime_ne_nil s _
    · exact hb.nonempty e (old e he hv)
  · by_cases hv : e.1 = s.vehicle
    · rw [entry e he hv]
      exact ordered_insertByTime (hb.ordered_track _) s
    · exact hb.ordered e (old e he hv)
  · intro x hx
    by_cases hv : e.1 = s.vehicle
    · rw [entry e he hv, mem_insertByTime (hb.ordered_track _)] at hx
      rcases hx with rfl | ⟨hx, -⟩
      · exact hv.symm
      · exact (hb.vehicle_eq_of_mem_track hx).trans hv.symm
    · exact hb.owned e (old e he hv) x hx

end Buffer.WellFormed

/-! ## Pruning keeps the invariant -/

/-- What a prune keeps of a list of entries: each track from the cutoff on, the
vehicles left with none dropped. -/
theorem Buffer.prune_fst (b : Buffer) (cutoff : Timestamp) :
    (b.prune cutoff).1 =
      ⟨(b.tracks.map fun e => (e.1, since cutoff e.2)).filter fun e => !e.2.isEmpty⟩ :=
  rfl

/-- Pruning cuts every track at the cutoff; a vehicle it empties reads as empty, being named by no
later entry. -/
theorem track_prune (cutoff : Timestamp) {ts : List (String × List Sample)}
    (hinc : ts.Pairwise fun e f => e.1 < f.1) (v : String) :
    (Buffer.mk ((ts.map fun e => (e.1, since cutoff e.2)).filter fun e => !e.2.isEmpty)).track v =
      since cutoff ((Buffer.mk ts).track v) := by
  induction ts with
  | nil => rfl
  | cons f rest ih =>
      obtain ⟨w, tr⟩ := f
      obtain ⟨hw, hrest⟩ := List.pairwise_cons.mp hinc
      rw [List.map_cons, List.filter_cons, Buffer.track_cons]
      split
      · rw [Buffer.track_cons, ih hrest]
        split <;> rfl
      · have hempty : since cutoff tr = [] := by simpa using ‹¬(!(since cutoff tr).isEmpty) = true›
        rw [ih hrest]
        split
        · subst v
          have hnil : (Buffer.mk rest).track w = [] :=
            Buffer.track_eq_nil fun e he hev => absurd (hev ▸ hw e he) (lt_irrefl _)
          rw [hnil, hempty]
          rfl
        · rfl

namespace Buffer.WellFormed

variable {b : Buffer} (hb : b.WellFormed)
include hb

theorem prune (cutoff : Timestamp) : (b.prune cutoff).1.WellFormed := by
  rw [Buffer.prune_fst]
  have kept : ∀ e ∈ (b.tracks.map fun e => (e.1, since cutoff e.2)).filter
      (fun e => !e.2.isEmpty), e.2 ≠ [] ∧ ∃ f ∈ b.tracks, e = (f.1, since cutoff f.2) := by
    intro e he
    obtain ⟨he, hne⟩ := List.mem_filter.mp he
    obtain ⟨f, hf, rfl⟩ := List.mem_map.mp he
    exact ⟨by simpa using hne, f, hf, rfl⟩
  refine ⟨?_, fun e he => (kept e he).1, fun e he => ?_, fun e he => ?_⟩
  · exact (hb.increasing.map (fun (e : String × List Sample) => (e.1, since cutoff e.2))
      fun _ _ h => h).filter _
  · obtain ⟨-, f, hf, rfl⟩ := kept e he
    exact (hb.ordered f hf).since cutoff
  · obtain ⟨-, f, hf, rfl⟩ := kept e he
    intro x hx
    exact hb.owned f hf x ((mem_since (hb.ordered f hf)).mp hx).1

end Buffer.WellFormed

/-! ## The reference -/

/-- For each vehicle and each instant, the sample held there, if any. -/
abbrev Reference := String → Int → Option Sample

namespace Reference

/-- Nothing held. -/
def empty : Reference := fun _ _ => none

/-- Holds `s` for its vehicle at its instant, in place of whatever was held there. -/
def add (M : Reference) (s : Sample) : Reference :=
  Function.update M s.vehicle (Function.update (M s.vehicle) (instant s) (some s))

/-- Forgets every entry before the cutoff. -/
def prune (M : Reference) (cutoff : Timestamp) : Reference :=
  fun v i => if i < cutoff.epochNanos then none else M v i

/-- The entries, as vehicle and instant, that a prune at the cutoff forgets. -/
def expired (M : Reference) (cutoff : Timestamp) : Set (String × Int) :=
  {e | e.2 < cutoff.epochNanos ∧ (M e.1 e.2).isSome}

end Reference

/-- What a buffer holds, as the reference sees it. -/
def Buffer.view (b : Buffer) : Reference := fun v i => atInstant (b.track v) i

namespace Buffer.WellFormed

variable {b : Buffer} (hb : b.WellFormed)
include hb

theorem view_eq_some_iff {v : String} {i : Int} {s : Sample} :
    b.view v i = some s ↔ s ∈ b.track v ∧ instant s = i :=
  atInstant_eq_some_iff (hb.ordered_track v)

/-- Adding a sample is `Reference.add` on the view. -/
theorem view_add (s : Sample) : (b.add s).view = b.view.add s := by
  funext v i
  apply Option.ext
  intro x
  have htrack : (b.add s).track v =
      if v = s.vehicle then insertByTime s (b.track v) else b.track v :=
    track_addTo s hb.increasing v
  rw [(hb.add s).view_eq_some_iff, htrack, Reference.add, Function.update_apply]
  by_cases hv : v = s.vehicle
  · subst hv
    rw [if_pos rfl, if_pos rfl, mem_insertByTime (hb.ordered_track _), Function.update_apply]
    by_cases hi : i = instant s
    · subst hi
      grind
    · rw [if_neg hi, hb.view_eq_some_iff]
      grind
  · rw [if_neg hv, if_neg hv, hb.view_eq_some_iff]

/-- Pruning is `Reference.prune` on the view. -/
theorem view_prune (cutoff : Timestamp) : (b.prune cutoff).1.view = b.view.prune cutoff := by
  funext v i
  apply Option.ext
  intro x
  have htrack : (b.prune cutoff).1.track v = since cutoff (b.track v) :=
    track_prune cutoff hb.increasing v
  rw [(hb.prune cutoff).view_eq_some_iff, htrack, mem_since (hb.ordered_track v),
    Reference.prune]
  split
  · simp only [reduceCtorEq, iff_false, not_and]
    rintro ⟨-, hle⟩ rfl
    omega
  · rw [hb.view_eq_some_iff]
    constructor
    · rintro ⟨⟨hx, -⟩, hi⟩
      exact ⟨hx, hi⟩
    · rintro ⟨hx, rfl⟩
      exact ⟨⟨hx, by omega⟩, rfl⟩

end Buffer.WellFormed

/-! ## Queries answer from the view -/

/-- The newest samples come one per vehicle, in the order of the vehicles. -/
theorem map_vehicle_filterMap_getLast {ts : List (String × List Sample)}
    (hne : ∀ e ∈ ts, e.2 ≠ []) (hown : ∀ e ∈ ts, ∀ s ∈ e.2, s.vehicle = e.1) :
    (ts.filterMap fun e => e.2.getLast?).map Sample.vehicle = ts.map Prod.fst := by
  induction ts with
  | nil => rfl
  | cons e rest ih =>
      have hlast := List.getLast?_eq_some_getLast (hne e List.mem_cons_self)
      simp only [List.filterMap_cons, hlast, List.map_cons]
      rw [hown e List.mem_cons_self _ (List.getLast_mem _),
        ih (fun f hf => hne f (List.mem_cons_of_mem e hf))
          (fun f hf => hown f (List.mem_cons_of_mem e hf))]

/-- The entries before a cutoff, as vehicle and instant, track by track. -/
def expiredEntries (ts : List (String × List Sample)) (cutoff : Timestamp) :
    List (String × Int) :=
  ts.flatMap fun e =>
    (e.2.filter fun s => decide (instant s < cutoff.epochNanos)).map fun s => (e.1, instant s)

/-- The count a prune returns is the number of entries before the cutoff. -/
theorem foldl_dropped_eq {ts : List (String × List Sample)} (hord : ∀ e ∈ ts, Ordered e.2)
    (cutoff : Timestamp) (n : Nat) :
    ts.foldl (fun n e => n + (e.2.length - (since cutoff e.2).length)) n =
      n + (expiredEntries ts cutoff).length := by
  induction ts generalizing n with
  | nil => rfl
  | cons e rest ih =>
      rw [List.foldl_cons, ih (fun f hf => hord f (List.mem_cons_of_mem e hf)),
        length_sub_length_since (hord e List.mem_cons_self)]
      simp only [expiredEntries, List.flatMap_cons, List.length_append, List.length_map]
      omega

namespace Buffer.WellFormed

variable {b : Buffer} (hb : b.WellFormed)
include hb

theorem mem_window_iff (v : String) (t : Timestamp) (s : Sample) :
    s ∈ b.window v t ↔ ∃ i, t.epochNanos ≤ i ∧ b.view v i = some s := by
  rw [Buffer.window, mem_since (hb.ordered_track v)]
  constructor
  · rintro ⟨hs, hle⟩
    exact ⟨instant s, hle, hb.view_eq_some_iff.mpr ⟨hs, rfl⟩⟩
  · rintro ⟨i, hle, hview⟩
    obtain ⟨hs, rfl⟩ := hb.view_eq_some_iff.mp hview
    exact ⟨hs, hle⟩

theorem mem_vehicles_iff (v : String) : v ∈ b.vehicles ↔ ∃ i s, b.view v i = some s := by
  constructor
  · intro hv
    obtain ⟨e, he, rfl⟩ := List.mem_map.mp hv
    obtain ⟨s, hs⟩ := List.exists_mem_of_ne_nil _ (hb.nonempty e he)
    refine ⟨instant s, s, hb.view_eq_some_iff.mpr ⟨?_, rfl⟩⟩
    rw [Buffer.track_eq_of_mem hb.increasing he]
    exact hs
  · rintro ⟨i, s, hview⟩
    obtain ⟨hs, -⟩ := hb.view_eq_some_iff.mp hview
    obtain ⟨e, he, rfl, -⟩ := Buffer.mem_track hs
    exact List.mem_map_of_mem he

theorem latest_map_vehicle : b.latest.map Sample.vehicle = b.vehicles :=
  map_vehicle_filterMap_getLast hb.nonempty hb.owned

/-- The newest samples are those held at the last instant of their vehicle. The last sample is no
later than `s`, and `s` no later than the last: they coincide. -/
theorem mem_latest_iff (s : Sample) :
    s ∈ b.latest ↔ ∃ v i, b.view v i = some s ∧ ∀ j s', b.view v j = some s' → j ≤ i := by
  constructor
  · intro hs
    obtain ⟨e, he, hlast⟩ := List.mem_filterMap.mp hs
    have hne := hb.nonempty e he
    obtain rfl : e.2.getLast hne = s :=
      Option.some.inj ((List.getLast?_eq_some_getLast hne).symm.trans hlast)
    have htrack : b.track e.1 = e.2 := Buffer.track_eq_of_mem hb.increasing he
    refine ⟨e.1, instant (e.2.getLast hne), ?_, fun j s' hview => ?_⟩
    · exact hb.view_eq_some_iff.mpr ⟨by rw [htrack]; exact List.getLast_mem hne, rfl⟩
    · obtain ⟨hs', rfl⟩ := hb.view_eq_some_iff.mp hview
      rw [htrack] at hs'
      exact (hb.ordered e he).le_getLast hne hs'
  · rintro ⟨v, i, hview, hnewest⟩
    obtain ⟨hs, rfl⟩ := hb.view_eq_some_iff.mp hview
    obtain ⟨e, he, rfl, hse⟩ := Buffer.mem_track hs
    have hne := hb.nonempty e he
    have htrack : b.track e.1 = e.2 := Buffer.track_eq_of_mem hb.increasing he
    have hlast_mem := List.getLast_mem hne
    have hle : instant (e.2.getLast hne) ≤ instant s :=
      hnewest _ _ (hb.view_eq_some_iff.mpr ⟨by rw [htrack]; exact hlast_mem, rfl⟩)
    have hge := (hb.ordered e he).le_getLast hne hse
    have heq : s = e.2.getLast hne :=
      (hb.ordered e he).eq_of_instant_eq hse hlast_mem (le_antisymm hge hle)
    exact List.mem_filterMap.mpr ⟨e, he, heq ▸ List.getLast?_eq_some_getLast hne⟩

theorem nodup_expiredEntries (cutoff : Timestamp) : (expiredEntries b.tracks cutoff).Nodup := by
  refine List.nodup_flatMap.mpr ⟨fun e he => ?_, ?_⟩
  · have hord := hb.ordered e he
    refine List.Nodup.map_on (fun x hx y hy hxy => ?_) ?_
    · exact hord.eq_of_instant_eq (List.mem_filter.mp hx).1 (List.mem_filter.mp hy).1
        (Prod.ext_iff.mp hxy).2
    · exact (hord.imp fun {x y} h hxy => by subst hxy; exact lt_irrefl _ h).filter _
  · refine hb.increasing.imp fun {e f} hlt => List.disjoint_left.mpr fun a ha hb' => ?_
    obtain ⟨x, -, rfl⟩ := List.mem_map.mp ha
    obtain ⟨y, -, hy⟩ := List.mem_map.mp hb'
    exact absurd (Prod.ext_iff.mp hy).1 (ne_of_gt hlt)

theorem expired_eq (cutoff : Timestamp) :
    b.view.expired cutoff = {e | e ∈ expiredEntries b.tracks cutoff} := by
  ext ⟨v, i⟩
  simp only [Reference.expired, Set.mem_ofPred_eq, Option.isSome_iff_exists, expiredEntries,
    List.mem_flatMap, List.mem_map, List.mem_filter, decide_eq_true_eq, Prod.mk.injEq]
  constructor
  · rintro ⟨hi, s, hview⟩
    obtain ⟨hs, rfl⟩ := hb.view_eq_some_iff.mp hview
    obtain ⟨e, he, rfl, hse⟩ := Buffer.mem_track hs
    exact ⟨e, he, s, ⟨hse, hi⟩, rfl, rfl⟩
  · rintro ⟨e, he, s, ⟨hse, hi⟩, rfl, rfl⟩
    have htrack : b.track e.1 = e.2 := Buffer.track_eq_of_mem hb.increasing he
    exact ⟨hi, s, hb.view_eq_some_iff.mpr ⟨by rw [htrack]; exact hse, rfl⟩⟩

/-- A prune reports how many entries of the view it forgets. -/
theorem prune_snd (cutoff : Timestamp) : (b.prune cutoff).2 = (b.view.expired cutoff).ncard := by
  have hcount : (b.prune cutoff).2 = (expiredEntries b.tracks cutoff).length := by
    have hfold := foldl_dropped_eq hb.ordered cutoff 0
    rw [Nat.zero_add] at hfold
    exact hfold
  rw [hcount, hb.expired_eq, ← List.coe_toFinset, Set.ncard_coe_finset,
    List.toFinset_card_of_nodup (hb.nodup_expiredEntries cutoff)]

end Buffer.WellFormed

/-! ## Every sequence of calls -/

/-- One call that changes a buffer. -/
inductive Call where
  | add (s : Sample)
  | prune (cutoff : Timestamp)

/-- The buffer after a call; a prune's count is read by the queries below. -/
def Buffer.perform (b : Buffer) : Call → Buffer
  | .add s => b.add s
  | .prune cutoff => (b.prune cutoff).1

/-- The reference after a call. -/
def Reference.perform (M : Reference) : Call → Reference
  | .add s => M.add s
  | .prune cutoff => M.prune cutoff

theorem Buffer.view_empty : Buffer.empty.view = Reference.empty := rfl

/-- One call keeps the invariant and acts on the view as on the reference. -/
theorem Buffer.WellFormed.perform {b : Buffer} (hb : b.WellFormed) (call : Call) :
    (b.perform call).WellFormed ∧ (b.perform call).view = b.view.perform call := by
  cases call with
  | add s => exact ⟨hb.add s, hb.view_add s⟩
  | prune cutoff => exact ⟨hb.prune cutoff, hb.view_prune cutoff⟩

/-- Any sequence of calls keeps the invariant and follows the reference. -/
theorem Buffer.WellFormed.perform_all {b : Buffer} (hb : b.WellFormed) (calls : List Call) :
    (calls.foldl Buffer.perform b).WellFormed ∧
      (calls.foldl Buffer.perform b).view = calls.foldl Reference.perform b.view := by
  induction calls generalizing b with
  | nil => exact ⟨hb, rfl⟩
  | cons call rest ih =>
      obtain ⟨hwf, hview⟩ := hb.perform call
      rw [List.foldl_cons, List.foldl_cons, ← hview]
      exact ih hwf

/-- From the empty buffer, over every sequence of additions and prunes, the buffer
keeps its invariant and its view is the reference run on the same calls. At that
point a prune reports how many entries of the reference it forgets; a window lists,
in strictly increasing instant order, the reference's samples of the vehicle from its
start on; the vehicles are, in strictly increasing order, those the reference holds a
sample for; and the newest samples are, in that same vehicle order, the samples held at
the greatest instant of their vehicle. -/
theorem buffer_follows_reference (calls : List Call) :
    let b := calls.foldl Buffer.perform Buffer.empty
    let M := calls.foldl Reference.perform Reference.empty
    b.WellFormed ∧ b.view = M ∧
      (∀ cutoff, (b.prune cutoff).2 = (M.expired cutoff).ncard) ∧
      (∀ v t, Ordered (b.window v t) ∧
        ∀ s, s ∈ b.window v t ↔ ∃ i, t.epochNanos ≤ i ∧ M v i = some s) ∧
      (b.vehicles.Pairwise (· < ·) ∧ ∀ v, v ∈ b.vehicles ↔ ∃ i s, M v i = some s) ∧
      ((b.latest.map Sample.vehicle).Pairwise (· < ·) ∧
        ∀ s, s ∈ b.latest ↔ ∃ v i, M v i = some s ∧ ∀ j s', M v j = some s' → j ≤ i) := by
  intro b M
  obtain ⟨hwf, hview⟩ : b.WellFormed ∧ b.view = M := by
    have hrun := Buffer.wellFormed_empty.perform_all calls
    rwa [Buffer.view_empty] at hrun
  have hvehicles : b.vehicles.Pairwise (· < ·) := List.pairwise_map.mpr hwf.increasing
  refine ⟨hwf, hview, fun cutoff => ?_, fun v t => ⟨?_, fun s => ?_⟩, ⟨hvehicles, fun v => ?_⟩,
    ⟨?_, fun s => ?_⟩⟩
  · rw [← hview]
    exact hwf.prune_snd cutoff
  · exact (hwf.ordered_track v).since t
  · rw [← hview]
    exact hwf.mem_window_iff v t s
  · rw [← hview]
    exact hwf.mem_vehicles_iff v
  · rw [hwf.latest_map_vehicle]
    exact hvehicles
  · rw [← hview]
    exact hwf.mem_latest_iff s

end Airspace.Track
