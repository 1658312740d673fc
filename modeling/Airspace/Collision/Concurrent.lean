import Airspace.Collision.Detector

/-!
# The consumer and the pruner, side by side

The detector service runs two tasks over one detector. The consumer hands each sample to the
detector, and an observation takes three steps that the other task may come between: it adds
the sample to the buffer (`Detector.take`); it reads the vehicle's window from the buffer,
densifies it and checks it against the obstacles (`Detector.scan`); and, holding the detector's
lock, it moves the latest time on and raises its alerts (`Detector.settle`). The pruner wakes
every half window and takes two steps: holding the lock it computes the cutoff a window before
the latest time and forgets the alert records before it (`Detector.forget`), and then it prunes
the buffer at that cutoff (`Detector.trim`). The buffer has a lock of its own, so each of these
steps is atomic, and nothing more is.

A run of the service is any interleaving of the two tasks' steps: a schedule says, step by
step, which task moves. Taken back to back, the steps are an observation and a prune
(`Detector.observe_eq`, `Detector.prune_eq`).
-/

namespace Airspace.Collision

open Airspace.Obstacle Airspace.Telemetry Airspace.Track Airspace.Time Airspace.Metrics
  Airspace.Spline

/-! ## The steps of an observation and of a prune -/

/-- An observation's first step: the sample goes into the buffer and is counted. -/
def Detector.take (d : Detector) (s : Sample) : Detector :=
  { d with buffer := d.buffer.add s,
           metrics := (Recorder.bound.samples d.metrics 1).toOption.getD d.metrics }

/-- An observation's second step, which only reads: the vehicle's window from one window before
the sample on, densified, and whether it enters each obstacle. -/
def Detector.scan (d : Detector) (s : Sample) :
    List Sample × Except (DomainFault Float) (List Bool) :=
  let dense := d.densify.apply (d.buffer.window s.vehicle (s.timestamp.add (-d.window)))
  (dense, evaluateCollisions d.obstacles dense)

/-- An observation's last step, under the detector's lock: the latest time moves on to the
sample, and the obstacles are checked in order against the densified window. -/
def Detector.settle (d : Detector) (s : Sample) (detectedAt : Timestamp) (dense : List Sample)
    (hits : Except (DomainFault Float) (List Bool)) :
    Detector × Except (DomainFault Float) (List Alert) :=
  match hits with
  | .error e => (d, .error e)
  | .ok hits =>
    let d := { d with latest := if s.timestamp.after d.latest then s.timestamp else d.latest }
    let (st, fault) := d.checkAll s dense detectedAt ⟨d.alerted, d.metrics, []⟩ (d.obstacles.zip hits)
    let d := { d with alerted := st.alerted, metrics := st.metrics }
    match fault with
    | some e => (d, .error e)
    | none => (d, .ok st.alerts)

/-- An observation is its three steps back to back. -/
theorem Detector.observe_eq (d : Detector) (s : Sample) (detectedAt : Timestamp) :
    d.observe s detectedAt =
      (d.take s).settle s detectedAt ((d.take s).scan s).1 ((d.take s).scan s).2 := rfl

/-- A prune's first step, under the detector's lock: the cutoff one window before the latest
time, and the alert records before it forgotten. -/
def Detector.forget (d : Detector) : Detector × Timestamp :=
  let cutoff := d.latest.add (-d.window)
  ({ d with alerted := d.alerted.filter fun e => !e.2.before cutoff }, cutoff)

/-- A prune's second step: the buffer pruned at the cutoff; also how many samples went. -/
def Detector.trim (d : Detector) (cutoff : Timestamp) : Detector × Nat :=
  let (buffer, dropped) := d.buffer.prune cutoff
  ({ d with buffer }, dropped)

/-- A prune is its two steps back to back. -/
theorem Detector.prune_eq (d : Detector) : d.prune = d.forget.1.trim d.forget.2 := rfl

/-! ## The two tasks -/

/-- Where the consumer stands: between samples, or in the observation of a sample whose alerts
are raised at `detectedAt`, after its first or its second step. -/
inductive Consumer where
  | idle
  | taken (s : Sample) (detectedAt : Timestamp)
  | scanned (s : Sample) (detectedAt : Timestamp) (dense : List Sample)
      (hits : Except (DomainFault Float) (List Bool))

/-- Where the pruner stands: between ticks, or between a tick's two steps, with its cutoff. -/
inductive Pruner where
  | idle
  | trimming (cutoff : Timestamp)

/-- The service: the shared detector, where each task stands, the samples still to come, each
with the instant its alerts are raised at, and the alerts raised so far, in order. -/
structure Service where
  detector : Detector
  consumer : Consumer := .idle
  pending : List (Sample × Timestamp)
  pruner : Pruner := .idle
  raised : List Alert := []

/-- The task that moves. -/
inductive Side where
  | consumer
  | pruner

/-- The consumer's next step; with nothing in hand and nothing to come it stays put. -/
def Service.consumerStep (σ : Service) : Service :=
  match σ.consumer with
  | .idle =>
    match σ.pending with
    | [] => σ
    | (s, detectedAt) :: rest =>
      { σ with detector := σ.detector.take s, consumer := .taken s detectedAt, pending := rest }
  | .taken s detectedAt =>
    let (dense, hits) := σ.detector.scan s
    { σ with consumer := .scanned s detectedAt dense hits }
  | .scanned s detectedAt dense hits =>
    let (d, result) := σ.detector.settle s detectedAt dense hits
    { σ with detector := d, consumer := .idle, raised := σ.raised ++ result.toOption.getD [] }

/-- The pruner's next step. -/
def Service.prunerStep (σ : Service) : Service :=
  match σ.pruner with
  | .idle =>
    let (d, cutoff) := σ.detector.forget
    { σ with detector := d, pruner := .trimming cutoff }
  | .trimming cutoff => { σ with detector := (σ.detector.trim cutoff).1, pruner := .idle }

/-- One step of the task the schedule names. -/
def Service.step (σ : Service) : Side → Service
  | .consumer => σ.consumerStep
  | .pruner => σ.prunerStep

/-- The service after the steps a schedule names, in order. -/
def Service.run (σ : Service) (schedule : List Side) : Service :=
  schedule.foldl Service.step σ

end Airspace.Collision
