import Airspace.Collision.Concurrent
import Airspace.Proofs.Collision.Suppression
import Airspace.Proofs.Track.Interleaving

/-!
# Every interleaving is a sequential run

An observation takes three steps and a prune two, and a schedule may put the other task's steps
between them. On a stream of samples in time order none of this can be seen: after any schedule
the alerts raised are those of the sequential run that observes the samples in order, each where
its observation took its last step, and prunes where each tick took its first
(`run_raises_serial_alerts`).

The argument is a simulation. `Serialized` ties the service to that sequential run: the shared
detector, once a pending trim is made, is the run's detector with the sample in hand taken in,
and what the consumer has scanned is what the run would scan. Every step keeps it, because the
steps the interleaving moves past each other commute: forgetting records touches neither the
buffer nor a window read (`Detector.forget_take`, `Detector.scan_forget`); a trim commutes with
adding a sample at or after its cutoff (`Detector.trim_take`) and with the locked section
(`Detector.trim_settle`); and it leaves alone the window of a sample a window or more after its
cutoff (`Detector.scan_trim`). Time order is what puts the cutoff of every tick a window before
every sample still to come.
-/

namespace Airspace.Track

open Airspace.Time Airspace.Telemetry

/-- Cutting a track at an instant and then at a later one is cutting it at the later one. -/
theorem since_since {cutoff t : Timestamp} (h : cutoff.epochNanos ≤ t.epochNanos) :
    ∀ track : List Sample, since t (since cutoff track) = since t track
  | [] => rfl
  | x :: xs => by
    by_cases hx : x.timestamp.before cutoff = true
    · have hxt : x.timestamp.before t = true := by
        rw [before_eq_true_iff] at hx ⊢
        omega
      have ih := since_since h xs
      simp only [since, List.dropWhile_cons, hx, hxt, if_true] at ih ⊢
      exact ih
    · simp only [since, List.dropWhile_cons, hx, Bool.false_eq_true, if_false]

/-- Adding a sample at or after a cutoff and pruning at the cutoff commute. -/
theorem Reference.prune_add_comm (M : Reference) {s : Sample} {cutoff : Timestamp}
    (hs : cutoff.epochNanos ≤ instant s) : (M.add s).prune cutoff = (M.prune cutoff).add s := by
  funext v i
  simp only [Reference.prune, Reference.add_apply]
  by_cases hk : s.vehicle = v ∧ instant s = i
  · have hi : ¬ i < cutoff.epochNanos := by
      have := hk.2
      omega
    simp [hk, hi]
  · simp [hk]

namespace Buffer.WellFormed

variable {b : Buffer} (hb : b.WellFormed)
include hb

/-- A buffer that adds a sample at or after a cutoff and is then pruned at the cutoff is the
buffer pruned first. -/
theorem prune_add {s : Sample} {cutoff : Timestamp} (hs : cutoff.epochNanos ≤ instant s) :
    ((b.add s).prune cutoff).1 = (b.prune cutoff).1.add s := by
  refine ext ((hb.add s).prune cutoff) ((hb.prune cutoff).add s) ?_
  rw [(hb.add s).view_prune, hb.view_add, (hb.prune cutoff).view_add, hb.view_prune]
  exact Reference.prune_add_comm _ hs

/-- A prune leaves alone a window that starts at or after its cutoff. -/
theorem window_prune {cutoff t : Timestamp} (h : cutoff.epochNanos ≤ t.epochNanos) (v : String) :
    (b.prune cutoff).1.window v t = b.window v t := by
  rw [Buffer.window, Buffer.prune_fst, track_prune cutoff hb.increasing]
  exact since_since h _

end Buffer.WellFormed

end Airspace.Track

namespace Airspace.Collision

open Airspace.Obstacle Airspace.Telemetry Airspace.Track Airspace.Time Airspace.Spline

/-! ## Sequential runs -/

/-- What one request does to the detector, with the alerts it raises. -/
def Detector.serve (d : Detector) : Detector.Request → Detector × List Alert
  | .observe s detectedAt => ((d.observe s detectedAt).1, (d.observe s detectedAt).2.toOption.getD [])
  | .prune => (d.prune.1, [])

/-- The detector after a sequential run of requests. -/
def Detector.after (d : Detector) (requests : List Detector.Request) : Detector :=
  requests.foldl (fun d r => (d.serve r).1) d

/-- The samples a list of requests takes in, each with the instant its alerts are raised at. -/
def Detector.Request.observations : List Detector.Request → List (Sample × Timestamp)
  | [] => []
  | .observe s detectedAt :: rest => (s, detectedAt) :: observations rest
  | .prune :: rest => observations rest

theorem alertsOver_cons (d : Detector) (r : Detector.Request) (rest : List Detector.Request) :
    d.alertsOver (r :: rest) = (d.serve r).2 ++ (d.serve r).1.alertsOver rest := by
  cases r <;> rfl

/-- The alerts of a run and one more request. -/
theorem alertsOver_concat (d : Detector) (rs : List Detector.Request) (r : Detector.Request) :
    d.alertsOver (rs ++ [r]) = d.alertsOver rs ++ ((d.after rs).serve r).2 := by
  induction rs generalizing d with
  | nil => simp [alertsOver_cons, Detector.after, Detector.alertsOver]
  | cons r' rs ih =>
    rw [List.cons_append, alertsOver_cons, alertsOver_cons, ih, List.append_assoc]
    rfl

theorem after_concat (d : Detector) (rs : List Detector.Request) (r : Detector.Request) :
    d.after (rs ++ [r]) = ((d.after rs).serve r).1 := by
  rw [Detector.after, List.foldl_append]
  rfl

theorem observations_concat (rs : List Detector.Request) (r : Detector.Request) :
    Detector.Request.observations (rs ++ [r]) =
      Detector.Request.observations rs ++ Detector.Request.observations [r] := by
  induction rs with
  | nil => rfl
  | cons r' rs ih => cases r' <;> simp [Detector.Request.observations, ih]

/-! ## The steps move past each other -/

section Frame

variable (d : Detector) (s : Sample) (cutoff : Timestamp)

@[simp] theorem Detector.take_window : (d.take s).window = d.window := rfl
@[simp] theorem Detector.take_latest : (d.take s).latest = d.latest := rfl
@[simp] theorem Detector.take_buffer : (d.take s).buffer = d.buffer.add s := rfl
@[simp] theorem Detector.trim_window : (d.trim cutoff).1.window = d.window := rfl
@[simp] theorem Detector.trim_latest : (d.trim cutoff).1.latest = d.latest := rfl
@[simp] theorem Detector.trim_buffer : (d.trim cutoff).1.buffer = (d.buffer.prune cutoff).1 := rfl
@[simp] theorem Detector.forget_window : d.forget.1.window = d.window := rfl
@[simp] theorem Detector.forget_latest : d.forget.1.latest = d.latest := rfl
@[simp] theorem Detector.forget_buffer : d.forget.1.buffer = d.buffer := rfl

theorem Detector.forget_cutoff : d.forget.2 = d.latest.add (-d.window) := rfl

end Frame

/-- The checks read the detector's window and nothing else of it. -/
theorem Detector.checkAll_congr {d d' : Detector} (h : d.window = d'.window) (s : Sample)
    (dense : List Sample) (detectedAt : Timestamp) :
    ∀ (st : CheckState) (ps : List (MovingObstacle Float × Bool)),
      d.checkAll s dense detectedAt st ps = d'.checkAll s dense detectedAt st ps
  | _, [] => rfl
  | st, (o, hit) :: rest => by
    have hcheck : d.checkObstacle s dense detectedAt st o hit = d'.checkObstacle s dense detectedAt st o hit := by
      simp only [Detector.checkObstacle, h]
    rw [Detector.checkAll, Detector.checkAll, hcheck]
    cases d'.checkObstacle s dense detectedAt st o hit with
    | mk st' fault =>
      cases fault with
      | none => exact Detector.checkAll_congr h s dense detectedAt st' rest
      | some e => rfl

/-- In particular the checks read nothing of the buffer. -/
theorem Detector.checkAll_mk_buffer (obstacles : List (MovingObstacle Float)) (window : Duration)
    (densify : Densify) (b b' : Buffer) (alerted : List (Pair × Timestamp)) (latest : Timestamp)
    (metrics : Metrics.Registry) :
    (Detector.mk obstacles window densify b alerted latest metrics).checkAll =
      (Detector.mk obstacles window densify b' alerted latest metrics).checkAll := by
  funext s dense detectedAt st ps
  refine Detector.checkAll_congr ?_ s dense detectedAt st ps
  rfl

/-- The locked section reads nothing of the buffer and leaves it as it was. -/
theorem Detector.settle_buffer (d : Detector) (b : Buffer) (s : Sample) (detectedAt : Timestamp)
    (dense : List Sample) (hits : Except (DomainFault Float) (List Bool)) :
    ({ d with buffer := b } : Detector).settle s detectedAt dense hits =
      ({ (d.settle s detectedAt dense hits).1 with buffer := b }, (d.settle s detectedAt dense hits).2) := by
  cases hits with
  | error e => rfl
  | ok hits =>
    simp only [Detector.settle]
    rw [Detector.checkAll_mk_buffer _ _ _ b d.buffer]
    generalize Detector.checkAll _ s dense detectedAt _ _ = res
    obtain ⟨st, fault⟩ := res
    cases fault <;> rfl

/-- What the locked section leaves: the detector with the latest time unchanged or moved on to
the sample, and new records and metrics. -/
theorem Detector.settle_fst (d : Detector) (s : Sample) (detectedAt : Timestamp)
    (dense : List Sample) (hits : Except (DomainFault Float) (List Bool)) :
    ∃ latest alerted metrics, (latest = d.latest ∨ latest = advanceLatest d.latest s) ∧
      (d.settle s detectedAt dense hits).1 = { d with latest, alerted, metrics } := by
  cases hits with
  | error e => exact ⟨d.latest, d.alerted, d.metrics, .inl rfl, rfl⟩
  | ok hits =>
    simp only [Detector.settle]
    generalize Detector.checkAll _ s dense detectedAt _ _ = res
    obtain ⟨st, fault⟩ := res
    cases fault <;> exact ⟨_, st.alerted, st.metrics, .inr rfl, rfl⟩

section Settle

variable (d : Detector) (s : Sample) (detectedAt : Timestamp) (dense : List Sample)
  (hits : Except (DomainFault Float) (List Bool))

theorem Detector.settle_buffer_eq : (d.settle s detectedAt dense hits).1.buffer = d.buffer := by
  obtain ⟨_, _, _, -, h⟩ := d.settle_fst s detectedAt dense hits
  rw [h]

theorem Detector.settle_window : (d.settle s detectedAt dense hits).1.window = d.window := by
  obtain ⟨_, _, _, -, h⟩ := d.settle_fst s detectedAt dense hits
  rw [h]

/-- The locked section moves the latest time on, but not past a sample at or after it. -/
theorem Detector.settle_latest (hs : d.latest.epochNanos ≤ instant s) :
    d.latest.epochNanos ≤ (d.settle s detectedAt dense hits).1.latest.epochNanos ∧
      (d.settle s detectedAt dense hits).1.latest.epochNanos ≤ instant s := by
  obtain ⟨latest, _, _, hlatest, h⟩ := d.settle_fst s detectedAt dense hits
  rw [h]
  rcases hlatest with rfl | rfl
  · exact ⟨le_refl _, hs⟩
  · unfold advanceLatest
    split
    · next hafter =>
      simp only [Timestamp.after, decide_eq_true_eq] at hafter
      exact ⟨hafter.le, le_refl _⟩
    · exact ⟨le_refl _, hs⟩

end Settle

section Movers

variable (d : Detector) (s : Sample)

/-- Forgetting records and taking in a sample commute, with the same cutoff either way. -/
theorem Detector.forget_take : (d.take s).forget = (d.forget.1.take s, d.forget.2) := rfl

/-- Forgetting records leaves every window read as it was. -/
theorem Detector.scan_forget : d.forget.1.scan s = d.scan s := rfl

/-- A trim commutes with taking in a sample at or after its cutoff. -/
theorem Detector.trim_take (hwf : d.buffer.WellFormed) {cutoff : Timestamp}
    (hs : cutoff.epochNanos ≤ instant s) : ((d.take s).trim cutoff).1 = (d.trim cutoff).1.take s := by
  simp only [Detector.take, Detector.trim, hwf.prune_add hs]

/-- A trim leaves alone the window of a sample a window or more after its cutoff. -/
theorem Detector.scan_trim (hwf : d.buffer.WellFormed) {cutoff : Timestamp}
    (hs : cutoff.epochNanos + d.window ≤ instant s) : (d.trim cutoff).1.scan s = d.scan s := by
  have hstart : cutoff.epochNanos ≤ (s.timestamp.add (-d.window)).epochNanos := by
    rw [epochNanos_add]
    simp only [instant, Duration] at hs ⊢
    omega
  simp only [Detector.scan, Detector.trim, hwf.window_prune hstart]

/-- A trim commutes with the locked section, which raises the same alerts either way. The trimmed
detector is the detector with its buffer pruned. -/
theorem Detector.trim_settle (cutoff detectedAt : Timestamp) (dense : List Sample)
    (hits : Except (DomainFault Float) (List Bool)) :
    (((d.settle s detectedAt dense hits).1.trim cutoff).1, (d.settle s detectedAt dense hits).2) =
      (d.trim cutoff).1.settle s detectedAt dense hits := by
  obtain ⟨latest, alerted, metrics, -, hfst⟩ := d.settle_fst s detectedAt dense hits
  change _ = ({ d with buffer := (d.buffer.prune cutoff).1 } : Detector).settle s detectedAt dense hits
  rw [Detector.settle_buffer d (d.buffer.prune cutoff).1, hfst]
  rfl

end Movers

/-! ## The service against a sequential run -/

/-- The sample the consumer has in hand, with the instant its alerts are raised at. -/
def Consumer.inHand : Consumer → List (Sample × Timestamp)
  | .idle => []
  | .taken s detectedAt => [(s, detectedAt)]
  | .scanned s detectedAt _ _ => [(s, detectedAt)]

/-- The samples the service has yet to observe to the end: the one in hand, then those to come. -/
def Service.remaining (σ : Service) : List (Sample × Timestamp) := σ.consumer.inHand ++ σ.pending

/-- What the shared detector stands for, given the sequential run's detector: that detector with
the sample in hand taken in. -/
def Consumer.expected : Consumer → Detector → Detector
  | .idle, d => d
  | .taken s _, d => d.take s
  | .scanned s _ _ _, d => d.take s

/-- The shared detector once a pending trim is made. -/
def Pruner.complete : Pruner → Detector → Detector
  | .idle, d => d
  | .trimming cutoff, d => (d.trim cutoff).1

/-- A step that commutes with every pending trim commutes with completing it. -/
theorem Pruner.complete_comm (p : Pruner) (d : Detector) (f : Detector → Detector)
    (hf : ∀ cutoff, p = .trimming cutoff → ((f d).trim cutoff).1 = f (d.trim cutoff).1) :
    p.complete (f d) = f (p.complete d) := by
  cases p with
  | idle => rfl
  | trimming cutoff => exact hf cutoff rfl

/-- A read that no pending trim changes reads the same once the trim is made. -/
theorem Pruner.read_complete {α : Type} (p : Pruner) (d : Detector) (g : Detector → α)
    (hg : ∀ cutoff, p = .trimming cutoff → g (d.trim cutoff).1 = g d) :
    g (p.complete d) = g d := by
  cases p with
  | idle => rfl
  | trimming cutoff => exact hg cutoff rfl

/-- The service in step with the sequential run of `requests` from `D₀`, begun on the samples
`pending₀`: the run has the prunes whose first step the service has taken and the observations
whose last step it has taken, in the order taken. -/
structure Serialized (D₀ : Detector) (pending₀ : List (Sample × Timestamp))
    (requests : List Detector.Request) (σ : Service) : Prop where
  /-- The shared detector, once a pending trim is made, is the run's with the sample in hand
  taken in. -/
  detector : σ.pruner.complete σ.detector = σ.consumer.expected (D₀.after requests)
  /-- What the consumer has scanned is what the run would scan. -/
  scanned : ∀ s detectedAt dense hits, σ.consumer = .scanned s detectedAt dense hits →
    ((D₀.after requests).take s).scan s = (dense, hits)
  /-- A pending trim's cutoff lies a window before the run's latest time. -/
  cutoff : ∀ c, σ.pruner = .trimming c →
    c.epochNanos + D₀.window ≤ (D₀.after requests).latest.epochNanos
  /-- The samples yet to observe come in time order, from the run's latest time on. -/
  inOrder : ((D₀.after requests).latest.epochNanos :: σ.remaining.map fun p => instant p.1).Pairwise
    (· ≤ ·)
  shared : σ.detector.buffer.WellFormed
  serial : (D₀.after requests).buffer.WellFormed
  sharedWindow : σ.detector.window = D₀.window
  serialWindow : (D₀.after requests).window = D₀.window
  raised : σ.raised = D₀.alertsOver requests
  observed : Detector.Request.observations requests ++ σ.remaining = pending₀

namespace Serialized

variable {D₀ : Detector} {pending₀ : List (Sample × Timestamp)} {requests : List Detector.Request}
  {σ : Service}

/-- Every sample yet to observe is at or after the run's latest time. -/
theorem latest_le (h : Serialized D₀ pending₀ requests σ) {p : Sample × Timestamp}
    (hp : p ∈ σ.remaining) : (D₀.after requests).latest.epochNanos ≤ instant p.1 :=
  (List.pairwise_cons.mp h.inOrder).1 _ (List.mem_map_of_mem hp)

/-- A pending trim's cutoff lies a window or more before every sample yet to observe. -/
theorem cutoff_le (h : Serialized D₀ pending₀ requests σ) {c : Timestamp}
    (hc : σ.pruner = .trimming c) {p : Sample × Timestamp} (hp : p ∈ σ.remaining) :
    c.epochNanos + D₀.window ≤ instant p.1 :=
  (h.cutoff c hc).trans (h.latest_le hp)

/-- The consumer scans the window of the sample in hand. A pending trim leaves the window as it was,
since the sample is a window past its cutoff. -/
theorem scan (h : Serialized D₀ pending₀ requests σ) {s : Sample} {detectedAt : Timestamp}
    (hc : σ.consumer = .taken s detectedAt) :
    Serialized D₀ pending₀ requests
      { σ with consumer := .scanned s detectedAt (σ.detector.scan s).1 (σ.detector.scan s).2 } := by
  have hdet : σ.pruner.complete σ.detector = (D₀.after requests).take s := by
    simpa [hc, Consumer.expected] using h.detector
  refine ⟨hdet, fun s' t' dense hits hsc => ?_,
    h.cutoff, (by simpa [Service.remaining, Consumer.inHand, hc] using h.inOrder), h.shared, h.serial,
    h.sharedWindow, h.serialWindow, h.raised,
    (by simpa [Service.remaining, Consumer.inHand, hc] using h.observed)⟩
  cases hsc
  rw [← hdet]
  refine Pruner.read_complete σ.pruner σ.detector (·.scan s) fun c hpc => ?_
  have hle := h.cutoff_le hpc (by rw [Service.remaining, hc]; exact List.mem_cons_self)
  exact σ.detector.scan_trim s h.shared (by rw [h.sharedWindow]; exact hle)

/-- The consumer's locked section: the sequential run observes the sample in hand. The run's next
detector is the locked section's on the run's detector with the sample taken. The locked section
commutes with a pending trim, and raises the same alerts. The latest time moves up to the sample at
most, and the samples to come are no earlier. -/
theorem settle (h : Serialized D₀ pending₀ requests σ) {s : Sample} {detectedAt : Timestamp}
    {dense : List Sample} {hits : Except (DomainFault Float) (List Bool)}
    (hc : σ.consumer = .scanned s detectedAt dense hits) :
    Serialized D₀ pending₀ (requests ++ [.observe s detectedAt])
      { σ with detector := (σ.detector.settle s detectedAt dense hits).1, consumer := .idle,
               raised := σ.raised ++ (σ.detector.settle s detectedAt dense hits).2.toOption.getD [] } := by
  have hdet : σ.pruner.complete σ.detector = (D₀.after requests).take s := by
    simpa [hc, Consumer.expected] using h.detector
  have hrem : σ.remaining = (s, detectedAt) :: σ.pending := by
    rw [Service.remaining, hc]
    rfl
  have hafter : D₀.after (requests ++ [.observe s detectedAt]) =
      (((D₀.after requests).take s).settle s detectedAt dense hits).1 := by
    rw [after_concat, Detector.serve, Detector.observe_eq, h.scanned s detectedAt dense hits hc]
  have hcomm : (σ.pruner.complete (σ.detector.settle s detectedAt dense hits).1,
      (σ.detector.settle s detectedAt dense hits).2) =
      ((D₀.after requests).take s).settle s detectedAt dense hits := by
    rw [← hdet]
    cases σ.pruner with
    | idle => rfl
    | trimming c => exact σ.detector.trim_settle s c detectedAt dense hits
  have hs : (D₀.after requests).latest.epochNanos ≤ instant s :=
    h.latest_le (show (s, detectedAt) ∈ σ.remaining by rw [hrem]; exact List.mem_cons_self)
  have hlatest := ((D₀.after requests).take s).settle_latest s detectedAt dense hits hs
  have hinOrder := h.inOrder
  rw [hrem, List.map_cons, List.pairwise_cons, List.pairwise_cons] at hinOrder
  refine ⟨?_, fun _ _ _ _ hsc => Consumer.noConfusion hsc, fun c hpc => ?_, ?_, ?_, ?_, ?_, ?_, ?_, ?_⟩
  · rw [hafter]
    exact congrArg Prod.fst hcomm
  · rw [hafter]
    exact (h.cutoff c hpc).trans hlatest.1
  · rw [hafter]
    exact List.pairwise_cons.mpr ⟨fun x hx => hlatest.2.trans (hinOrder.2.1 x hx), hinOrder.2.2⟩
  · rw [Detector.settle_buffer_eq]
    exact h.shared
  · rw [hafter, Detector.settle_buffer_eq]
    exact h.serial.add s
  · rw [Detector.settle_window]
    exact h.sharedWindow
  · rw [hafter, Detector.settle_window]
    exact h.serialWindow
  · rw [alertsOver_concat, ← h.raised]
    simp only [Detector.serve, Detector.observe_eq, h.scanned s detectedAt dense hits hc,
      ← congrArg Prod.snd hcomm]
  · rw [observations_concat, ← h.observed, hrem]
    simp [Detector.Request.observations, Service.remaining, Consumer.inHand]

/-- The pruner's second step: the shared buffer catches up with the run's. -/
theorem trim (h : Serialized D₀ pending₀ requests σ) {c : Timestamp} (hp : σ.pruner = .trimming c) :
    Serialized D₀ pending₀ requests { σ with detector := (σ.detector.trim c).1, pruner := .idle } := by
  have hdet := h.detector
  rw [hp] at hdet
  exact ⟨hdet, h.scanned, fun _ hpc => Pruner.noConfusion hpc, h.inOrder, h.shared.prune c, h.serial,
    h.sharedWindow, h.serialWindow, h.raised, h.observed⟩

variable (hw : 0 ≤ D₀.window)
include hw

/-- The consumer takes in the next sample. The sample moves from those to come into the consumer's
hand. A pending trim moves past the sample, which is at or after its cutoff. -/
theorem take (h : Serialized D₀ pending₀ requests σ) {s : Sample} {detectedAt : Timestamp}
    {rest : List (Sample × Timestamp)} (hc : σ.consumer = .idle)
    (hp : σ.pending = (s, detectedAt) :: rest) :
    Serialized D₀ pending₀ requests
      { σ with detector := σ.detector.take s, consumer := .taken s detectedAt, pending := rest } := by
  have hrem : σ.remaining = (s, detectedAt) :: rest := by
    rw [Service.remaining, hc, hp]
    rfl
  have hdet : σ.pruner.complete σ.detector = D₀.after requests := by
    simpa [hc, Consumer.expected] using h.detector
  have hinOrder := h.inOrder
  have hobserved := h.observed
  rw [hrem] at hinOrder hobserved
  refine ⟨?_, fun _ _ _ _ hsc => Consumer.noConfusion hsc, h.cutoff, hinOrder, h.shared.add s,
    h.serial, h.sharedWindow, h.serialWindow, h.raised, hobserved⟩
  refine (Pruner.complete_comm σ.pruner σ.detector (·.take s) fun c hpc => ?_).trans
    (congrArg (·.take s) hdet)
  have hle : c.epochNanos + D₀.window ≤ instant s := h.cutoff_le hpc (hrem ▸ List.mem_cons_self)
  exact σ.detector.trim_take s h.shared (by simp only [Duration] at hw; omega)

/-- The pruner's locked step: the sequential run prunes here. The shared detector reckons the same
cutoff as the run's. A sample in hand is at or after the cutoff, and its window starts at or after
it, so after the prune the run scans it as it did before. -/
theorem forget (h : Serialized D₀ pending₀ requests σ) (hp : σ.pruner = .idle) :
    Serialized D₀ pending₀ (requests ++ [.prune])
      { σ with detector := σ.detector.forget.1, pruner := .trimming σ.detector.forget.2 } := by
  have hdet : σ.detector = σ.consumer.expected (D₀.after requests) := by
    simpa [hp, Pruner.complete] using h.detector
  have hcut : σ.detector.forget.2 = (D₀.after requests).forget.2 := by
    have hlatest : σ.detector.latest = (D₀.after requests).latest := by
      rw [hdet]
      cases σ.consumer <;> rfl
    rw [Detector.forget_cutoff, Detector.forget_cutoff, hlatest, h.sharedWindow, h.serialWindow]
  have hafter : D₀.after (requests ++ [.prune]) =
      ((D₀.after requests).forget.1.trim (D₀.after requests).forget.2).1 := by
    rw [after_concat]
    rfl
  have hcutoff : (D₀.after requests).forget.2.epochNanos + D₀.window =
      (D₀.after requests).latest.epochNanos := by
    rw [Detector.forget_cutoff, epochNanos_add, h.serialWindow]
    omega
  have hin : ∀ {s : Sample} {detectedAt : Timestamp}, (s, detectedAt) ∈ σ.remaining →
      (D₀.after requests).forget.2.epochNanos + D₀.window ≤ instant s :=
    fun hmem => hcutoff ▸ h.latest_le hmem
  have htake : ∀ (s : Sample) (detectedAt : Timestamp), (s, detectedAt) ∈ σ.remaining →
      (((D₀.after requests).take s).forget.1.trim (D₀.after requests).forget.2).1 =
        ((D₀.after requests).forget.1.trim (D₀.after requests).forget.2).1.take s := by
    intro s detectedAt hmem
    have hle := hin hmem
    exact (D₀.after requests).forget.1.trim_take s h.serial (by simp only [Duration] at hw; omega)
  refine ⟨?_, fun s' t' dense hits hsc => ?_, fun c hpc => ?_, ?_, h.shared, ?_, h.sharedWindow, ?_, ?_, ?_⟩
  · rw [hafter]
    show (σ.detector.forget.1.trim σ.detector.forget.2).1 = _
    rw [hcut, hdet]
    cases hc : σ.consumer with
    | idle => rfl
    | taken s detectedAt =>
      exact htake s detectedAt (by rw [Service.remaining, hc]; exact List.mem_cons_self)
    | scanned s detectedAt dense hits =>
      exact htake s detectedAt (by rw [Service.remaining, hc]; exact List.mem_cons_self)
  · have hmem : (s', t') ∈ σ.remaining := by rw [Service.remaining, hsc]; exact List.mem_cons_self
    have hwin : (D₀.after requests).forget.2.epochNanos + ((D₀.after requests).take s').forget.1.window ≤
        instant s' := by
      rw [Detector.forget_window, Detector.take_window, h.serialWindow]
      exact hin hmem
    rw [hafter, ← h.scanned s' t' dense hits hsc, ← htake s' t' hmem,
      Detector.scan_trim _ s' (h.serial.add s') hwin]
    rfl
  · cases hpc
    rw [hafter, Detector.trim_latest, Detector.forget_latest, hcut, hcutoff]
  · rw [hafter]
    exact h.inOrder
  · rw [hafter]
    exact h.serial.prune _
  · rw [hafter]
    exact h.serialWindow
  · rw [alertsOver_concat, ← h.raised]
    simp [Detector.serve]
  · rw [observations_concat, ← h.observed]
    simp [Detector.Request.observations, Service.remaining]

/-- Every step of either task keeps the service in step with some sequential run. -/
theorem step (h : Serialized D₀ pending₀ requests σ) :
    ∀ side : Side, ∃ requests', Serialized D₀ pending₀ requests' (σ.step side)
  | .consumer => by
    cases hc : σ.consumer with
    | idle =>
      cases hp : σ.pending with
      | nil =>
        have hσ : σ.step .consumer = σ := by simp only [Service.step, Service.consumerStep, hc, hp]
        exact ⟨requests, by rw [hσ]; exact h⟩
      | cons p rest =>
        have hσ : σ.step .consumer =
            { σ with detector := σ.detector.take p.1, consumer := .taken p.1 p.2, pending := rest } := by
          simp only [Service.step, Service.consumerStep, hc, hp]
        exact ⟨requests, by rw [hσ]; exact h.take hw hc hp⟩
    | taken s detectedAt =>
      have hσ : σ.step .consumer =
          { σ with consumer := .scanned s detectedAt (σ.detector.scan s).1 (σ.detector.scan s).2 } := by
        simp only [Service.step, Service.consumerStep, hc]
      exact ⟨requests, by rw [hσ]; exact h.scan hc⟩
    | scanned s detectedAt dense hits =>
      have hσ : σ.step .consumer =
          { σ with detector := (σ.detector.settle s detectedAt dense hits).1, consumer := .idle,
                   raised := σ.raised ++ (σ.detector.settle s detectedAt dense hits).2.toOption.getD [] } := by
        simp only [Service.step, Service.consumerStep, hc]
      exact ⟨_, by rw [hσ]; exact h.settle hc⟩
  | .pruner => by
    cases hp : σ.pruner with
    | idle =>
      have hσ : σ.step .pruner =
          { σ with detector := σ.detector.forget.1, pruner := .trimming σ.detector.forget.2 } := by
        simp only [Service.step, Service.prunerStep, hp]
      exact ⟨_, by rw [hσ]; exact h.forget hw hp⟩
    | trimming c =>
      have hσ : σ.step .pruner = { σ with detector := (σ.detector.trim c).1, pruner := .idle } := by
        simp only [Service.step, Service.prunerStep, hp]
      exact ⟨requests, by rw [hσ]; exact h.trim hp⟩

/-- Every schedule keeps the service in step with some sequential run. -/
theorem run (h : Serialized D₀ pending₀ requests σ) (schedule : List Side) :
    ∃ requests', Serialized D₀ pending₀ requests' (σ.run schedule) := by
  induction schedule generalizing σ requests with
  | nil => exact ⟨requests, h⟩
  | cons side rest ih =>
    obtain ⟨requests', h'⟩ := h.step hw side
    exact ih h'

end Serialized

/-- A service starts in step with the empty run: nothing observed, nothing raised. -/
theorem Serialized.start (D₀ : Detector) (pending₀ : List (Sample × Timestamp))
    (hwf : D₀.buffer.WellFormed)
    (hord : (D₀.latest.epochNanos :: pending₀.map fun p => instant p.1).Pairwise (· ≤ ·)) :
    Serialized D₀ pending₀ [] { detector := D₀, pending := pending₀ } :=
  ⟨rfl, fun _ _ _ _ hsc => Consumer.noConfusion hsc, fun _ hpc => Pruner.noConfusion hpc, hord, hwf,
    hwf, rfl, rfl, rfl, rfl⟩

/-- The consumer and the pruner run side by side over a detector made for any obstacles, window
and densification, on samples that come in time order, none before the zero time at which the
detector starts. Whatever the schedule, the alerts raised so far, in order, are those of a
sequential run that observes each sample the consumer has finished with, in order, and prunes
between observations; the samples not yet finished with are the rest of the stream. -/
theorem run_raises_serial_alerts (obstacles : List (MovingObstacle Float)) (window : Duration)
    (c : Densify) (pending : List (Sample × Timestamp))
    (hord : (Timestamp.zero.epochNanos :: pending.map fun p => instant p.1).Pairwise (· ≤ ·))
    (schedule : List Side) :
    ∃ requests : List Detector.Request,
      Detector.Request.observations requests ++
          (({ detector := Detector.new obstacles window c, pending } : Service).run schedule).remaining =
        pending ∧
      (({ detector := Detector.new obstacles window c, pending } : Service).run schedule).raised =
        (Detector.new obstacles window c).alertsOver requests := by
  obtain ⟨requests, h⟩ := (Serialized.start _ pending Buffer.wellFormed_empty hord).run
    (Detector.zero_lt_new_window obstacles window c).le schedule
  exact ⟨requests, h.observed, h.raised⟩

/-- `uas-1` descends through the sphere between two reports 2 s apart. -/
def descent : List (Sample × Timestamp) :=
  [(reportAt "uas-1" 0 450, Timestamp.zero), (reportAt "uas-1" 2 150, Timestamp.zero)]

/-- The pruner ticks inside the first observation, between its first two steps, and again
between the observations. -/
def ticksInside : List Side :=
  [.consumer, .pruner, .consumer, .pruner, .consumer, .pruner, .consumer, .consumer, .pruner,
    .consumer]

theorem run_raises_serial_alerts_ticks_inside :
    (Timestamp.zero.epochNanos :: descent.map fun p => instant p.1).Pairwise (· ≤ ·) ∧
      ∃ requests : List Detector.Request,
        Detector.Request.observations requests ++
            (({ detector := Detector.new [stationarySphere] 60000000000 Densify.default,
                pending := descent } : Service).run ticksInside).remaining = descent ∧
        (({ detector := Detector.new [stationarySphere] 60000000000 Densify.default,
            pending := descent } : Service).run ticksInside).raised =
          (Detector.new [stationarySphere] 60000000000 Densify.default).alertsOver requests :=
  ⟨by decide, run_raises_serial_alerts [stationarySphere] 60000000000 Densify.default descent
    (by decide) ticksInside⟩

end Airspace.Collision
