import Mathlib.Data.List.SplitBy
import Airspace.Proofs.Telemetry.Steps

/-!
# Flight windows

`windows` cuts a track wherever two consecutive samples are more than `maxGap` apart, the
difference taken as `Timestamp.sub` takes it, clamped to the duration range. Its result is
read off the runs that the library's `List.splitBy` makes of the track: one window for each
maximal run of samples, each sample within `maxGap` of the one before, from the run's first
instant to its last (`windowsFrom_spans_runs`). A gap of exactly `maxGap` does not cut; a
negative `maxGap` cuts even between samples at one instant.

The rest follows by the same walk over the track: there is one window more than there are
long gaps (`length_windowsFrom`), each window starts more than `maxGap` after the one before
ends (`windowsFrom_apart`), and over a track in time order every window starts no later than
it ends (`windowsFrom_ordered`). A track without samples has no windows at all.
-/

namespace Airspace.Telemetry

open Airspace.Time

/-- Whether `b` follows `a` within `maxGap`, so that the two share a flight window. -/
def withinGap (maxGap : Duration) (a b : Sample) : Bool := b.timestamp.sub a.timestamp ≤ maxGap

/-- A window spans a run of samples: it starts at the run's first instant and ends at its
last. -/
def Window.Spans (w : Window) (run : List Sample) : Prop :=
  run.head?.map Sample.timestamp = some w.first ∧ run.getLast?.map Sample.timestamp = some w.last

/-- A run spans the window from its first instant to its last. -/
theorem Window.spans_run {run : List Sample} (hrun : run ≠ []) :
    Window.Spans ⟨(run.head hrun).timestamp, (run.getLast hrun).timestamp⟩ run := by
  rw [Window.Spans, List.head?_eq_some_head hrun, List.getLast?_eq_some_getLast hrun]
  exact ⟨rfl, rfl⟩

/-- How many consecutive samples of a track are more than `maxGap` apart. -/
def longGaps (maxGap : Duration) (samples : List Sample) : Nat :=
  (samples.zip samples.tail).countP fun p => maxGap < p.2.timestamp.sub p.1.timestamp

section Walk

variable (maxGap : Duration)

theorem longGaps_cons_cons (a b : Sample) (rest : List Sample) :
    longGaps maxGap (a :: b :: rest) =
      longGaps maxGap (b :: rest) + if maxGap < b.timestamp.sub a.timestamp then 1 else 0 := by
  simp [longGaps, List.countP_cons]

theorem windowsFrom_cons (start prev : Timestamp) (s : Sample) (rest : List Sample) :
    windowsFrom maxGap start prev (s :: rest) =
      if maxGap < s.timestamp.sub prev then
        ⟨start, prev⟩ :: windowsFrom maxGap s.timestamp s.timestamp rest
      else windowsFrom maxGap start s.timestamp rest := rfl

/-- The open window is closed at the sample before each long gap and once at the end. The walk
is over the rest of the track, carrying the run of samples in the open window: a long gap before
`s` closes the run and opens one at `s`, and otherwise the run grows by `s`. -/
theorem windowsFrom_spans_runs :
    ∀ (rest run : List Sample) (hrun : run ≠ []),
      run.IsChain (fun a b => withinGap maxGap a b = true) →
      List.Forall₂ Window.Spans
        (windowsFrom maxGap (run.head hrun).timestamp (run.getLast hrun).timestamp rest)
        ((run ++ rest).splitBy (withinGap maxGap))
  | [], run, hrun, hchain => by
    rw [List.append_nil, List.splitBy_of_isChain hrun hchain]
    exact List.Forall₂.cons (Window.spans_run hrun) List.Forall₂.nil
  | s :: rest, run, hrun, hchain => by
    rw [windowsFrom_cons]
    split
    · next hgap =>
      have hcut : ∀ x ∈ run.getLast?, withinGap maxGap x s = false := by
        intro x hx
        rw [List.getLast?_eq_some_getLast hrun, Option.mem_some_iff] at hx
        subst hx
        simpa [withinGap] using hgap
      rw [List.splitBy_append_cons _ hcut, List.splitBy_of_isChain hrun hchain]
      exact List.Forall₂.cons (Window.spans_run hrun)
        (windowsFrom_spans_runs rest [s] (List.cons_ne_nil s []) (List.isChain_singleton s))
    · next hgap =>
      have hgrown : (run ++ [s]).IsChain (fun a b => withinGap maxGap a b = true) := by
        refine List.IsChain.append hchain (List.isChain_singleton s) fun x hx y hy => ?_
        rw [List.getLast?_eq_some_getLast hrun, Option.mem_some_iff] at hx
        rw [List.head?_cons, Option.mem_some_iff] at hy
        subst hx hy
        simpa [withinGap] using hgap
      have hspans := windowsFrom_spans_runs rest (run ++ [s]) (List.concat_ne_nil s run) hgrown
      rwa [List.head_append_of_ne_nil hrun, List.getLast_append_singleton, List.append_assoc,
        List.singleton_append] at hspans

/-- One window more than there are long gaps. -/
theorem length_windowsFrom :
    ∀ (rest : List Sample) (start : Timestamp) (prev : Sample),
      (windowsFrom maxGap start prev.timestamp rest).length = longGaps maxGap (prev :: rest) + 1
  | [], _, _ => by simp [windowsFrom, longGaps]
  | s :: rest, start, prev => by
    rw [windowsFrom_cons, longGaps_cons_cons]
    split
    · rw [List.length_cons, length_windowsFrom rest s.timestamp s]
    · rw [length_windowsFrom rest start s, Nat.add_zero]

/-- The walk's first window starts where the open one started. -/
theorem first_windowsFrom :
    ∀ (rest : List Sample) (start prev : Timestamp),
      ∀ w ∈ (windowsFrom maxGap start prev rest).head?, w.first = start
  | [], _, _, w, hw => by
    rw [windowsFrom, List.head?_cons, Option.mem_some_iff] at hw
    subst hw
    rfl
  | s :: rest, start, prev, w, hw => by
    rw [windowsFrom_cons] at hw
    split at hw
    · rw [List.head?_cons, Option.mem_some_iff] at hw
      subst hw
      rfl
    · exact first_windowsFrom rest start s.timestamp w hw

/-- Each window starts more than `maxGap` after the one before it ends. -/
theorem windowsFrom_apart :
    ∀ (rest : List Sample) (start prev : Timestamp),
      (windowsFrom maxGap start prev rest).IsChain fun w w' => maxGap < w'.first.sub w.last
  | [], _, _ => List.isChain_singleton _
  | s :: rest, start, prev => by
    rw [windowsFrom_cons]
    split
    · next hgap =>
      refine (windowsFrom_apart rest s.timestamp s.timestamp).cons fun w hw => ?_
      rw [first_windowsFrom maxGap rest s.timestamp s.timestamp w hw]
      exact hgap
    · exact windowsFrom_apart rest start s.timestamp

/-- Over a track in time order, no window ends before it starts. -/
theorem windowsFrom_ordered :
    ∀ (rest : List Sample) (start : Timestamp) (prev : Sample),
      start.epochNanos ≤ prev.timestamp.epochNanos →
      (prev :: rest).IsChain (fun a b => a.timestamp.epochNanos ≤ b.timestamp.epochNanos) →
      ∀ w ∈ windowsFrom maxGap start prev.timestamp rest,
        w.first.epochNanos ≤ w.last.epochNanos
  | [], start, prev, hstart, _, w, hw => by
    rw [windowsFrom, List.mem_singleton] at hw
    subst hw
    exact hstart
  | s :: rest, start, prev, hstart, hchain, w, hw => by
    obtain ⟨hle, hrest⟩ := List.isChain_cons_cons.mp hchain
    rw [windowsFrom_cons] at hw
    split at hw
    · rcases List.mem_cons.mp hw with rfl | hw
      · exact hstart
      · exact windowsFrom_ordered rest s.timestamp s le_rfl hrest w hw
    · exact windowsFrom_ordered rest start s (hstart.trans hle) hrest w hw

end Walk

/-- No samples give no windows. A track `s :: rest` gives one window per maximal run of
samples each within `maxGap` of the one before, spanning the run's first and last instants:
one more window than long gaps, each window more than `maxGap` after the one before, and, for
a track in time order, none ending before it starts. -/
theorem windows_split_at_long_gaps (maxGap : Duration) (s : Sample) (rest : List Sample) :
    windows [] maxGap = none ∧
      ∃ ws, windows (s :: rest) maxGap = some ws ∧
        List.Forall₂ Window.Spans ws ((s :: rest).splitBy (withinGap maxGap)) ∧
        ws.length = longGaps maxGap (s :: rest) + 1 ∧
        ws.IsChain (fun w w' => maxGap < w'.first.sub w.last) ∧
        ((s :: rest).IsChain (fun a b => a.timestamp.epochNanos ≤ b.timestamp.epochNanos) →
          ∀ w ∈ ws, w.first.epochNanos ≤ w.last.epochNanos) :=
  ⟨rfl, _, rfl,
    windowsFrom_spans_runs maxGap rest [s] (List.cons_ne_nil s []) (List.isChain_singleton s),
    length_windowsFrom maxGap rest s.timestamp s,
    windowsFrom_apart maxGap rest s.timestamp s.timestamp,
    windowsFrom_ordered maxGap rest s.timestamp s le_rfl⟩

/-- Reports at 0 s, 1 s, 60 s and 61 s past 2000-01-01T00:00:00Z. -/
def twoFlights : List Sample :=
  [reportAt y2k, reportAt (y2k + 1000000000), reportAt (y2k + 60000000000),
    reportAt (y2k + 61000000000)]

/-- The reports of `twoFlights` are in time order and, cut at gaps over 10 s, make two flight
windows, neither ending before it starts. -/
theorem windows_split_at_long_gaps_two_flights :
    twoFlights.IsChain (fun a b => a.timestamp.epochNanos ≤ b.timestamp.epochNanos) ∧
      ∃ ws, windows twoFlights 10000000000 = some ws ∧ ws.length = 2 ∧
        ∀ w ∈ ws, w.first.epochNanos ≤ w.last.epochNanos := by
  have hordered :
      twoFlights.IsChain (fun a b => a.timestamp.epochNanos ≤ b.timestamp.epochNanos) := by
    decide
  obtain ⟨-, ws, hws, -, hlength, -, hspan⟩ :=
    windows_split_at_long_gaps 10000000000 (reportAt y2k) (twoFlights.drop 1)
  exact ⟨hordered, ws, hws, by rw [hlength]; decide, hspan hordered⟩

end Airspace.Telemetry
