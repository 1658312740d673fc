import Airspace.Collision.Alert
import Airspace.Obstacle.Collision
import Airspace.Telemetry.Interpolate
import Airspace.Track.Buffer
import Airspace.Metrics.Collector

/-!
# Live collision detection

The detector keeps the recent track of every vehicle and, on each new sample,
checks the vehicle's track over the last window, densified, against every
obstacle in order. It alerts on an obstacle when the track enters its sphere,
but after an alert for a pair of obstacle and vehicle it stays silent about
that pair until the track enters the sphere more than one window after the
alerted sample: the alert names the first such sample.

Pruning forgets samples and alert records older than one window before the
latest sample time seen.
-/

namespace Airspace.Collision

open Airspace.Obstacle Airspace.Telemetry Airspace.Track Airspace.Time Airspace.Metrics
  Airspace.Spline

/-- The window used when none is set: two minutes. -/
def defaultWindow : Duration := 120000000000

/-- A pair of obstacle id and vehicle. -/
abbrev Pair := Nat × String

/-- The detector's state. -/
structure Detector where
  obstacles : List (MovingObstacle Float)
  /-- How far back tracks are checked; positive. -/
  window : Duration
  densify : Densify
  buffer : Buffer := {}
  /-- The sample time of the last alert of each pair. -/
  alerted : List (Pair × Timestamp) := []
  /-- The latest sample time seen. -/
  latest : Timestamp := Timestamp.zero
  /-- The tracker's metrics. -/
  metrics : Registry

/-- A detector over obstacles; a window that is not positive means two minutes. -/
def Detector.new (obstacles : List (MovingObstacle Float)) (window : Duration) (densify : Densify) :
    Detector :=
  { obstacles, window := if window ≤ 0 then defaultWindow else window, densify,
    metrics := (registerCollector {}).1 }

/-- The samples strictly after an instant, from the first such on. -/
def samplesAfter (samples : List Sample) (t : Timestamp) : List Sample :=
  samples.dropWhile fun s => !s.timestamp.after t

/-- The alert time recorded for a pair. -/
def alertedAt (alerted : List (Pair × Timestamp)) (key : Pair) : Option Timestamp :=
  (alerted.find? (·.1 == key)).map Prod.snd

/-- Records the alert time of a pair. -/
def recordAlert (alerted : List (Pair × Timestamp)) (key : Pair) (t : Timestamp) : List (Pair × Timestamp) :=
  if alerted.any (·.1 == key) then alerted.map fun e => if e.1 == key then (key, t) else e
  else alerted ++ [(key, t)]

/-- What one obstacle's check adds to the alerts. -/
structure CheckState where
  alerted : List (Pair × Timestamp)
  metrics : Registry
  alerts : List Alert

/-- Checks one obstacle against the densified track of a new sample's vehicle.
The check is counted before anything can fail; a fault ends the checks. -/
def Detector.checkObstacle (d : Detector) (s : Sample) (dense : List Sample) (detectedAt : Timestamp)
    (st : CheckState) (o : MovingObstacle Float) (hit : Bool) : CheckState × Option (DomainFault Float) :=
  let metrics := (Recorder.bound.check st.metrics o.id hit).toOption.getD st.metrics
  let st := { st with metrics }
  if !hit then (st, none)
  else
    let key : Pair := (o.id, s.vehicle)
    let fresh := match alertedAt st.alerted key with
      | some last => samplesAfter dense (last.add d.window)
      | none => dense
    match o.firstCollision fresh with
    | .error e => (st, some e)
    | .ok none => (st, none)
    | .ok (some h) =>
      ({ st with
        alerted := recordAlert st.alerted key h.sample.timestamp
        alerts := st.alerts ++ [⟨o.id, s.vehicle, h.sample, h.obstacle, h.distance, o.radius, detectedAt⟩] },
        none)

/-- Checks the obstacles in order, each with whether the track entered its sphere. -/
def Detector.checkAll (d : Detector) (s : Sample) (dense : List Sample) (detectedAt : Timestamp) :
    CheckState → List (MovingObstacle Float × Bool) → CheckState × Option (DomainFault Float)
  | st, [] => (st, none)
  | st, (o, hit) :: rest =>
    match d.checkObstacle s dense detectedAt st o hit with
    | (st, none) => d.checkAll s dense detectedAt st rest
    | stopped => stopped

/-- Takes in a sample: the detector afterwards and the alerts it raises, in
obstacle order. The sample is kept and counted even when locating an obstacle
fails; the checks made before a fault stay counted. -/
def Detector.observe (d : Detector) (s : Sample) (detectedAt : Timestamp) :
    Detector × Except (DomainFault Float) (List Alert) :=
  let d := { d with buffer := d.buffer.add s,
                    metrics := (Recorder.bound.samples d.metrics 1).toOption.getD d.metrics }
  let track := d.buffer.window s.vehicle (s.timestamp.add (-d.window))
  let dense := d.densify.apply track
  match evaluateCollisions d.obstacles dense with
  | .error e => (d, .error e)
  | .ok hits =>
    let d := { d with latest := if s.timestamp.after d.latest then s.timestamp else d.latest }
    let (st, fault) := d.checkAll s dense detectedAt ⟨d.alerted, d.metrics, []⟩ (d.obstacles.zip hits)
    let d := { d with alerted := st.alerted, metrics := st.metrics }
    match fault with
    | some e => (d, .error e)
    | none => (d, .ok st.alerts)

/-- Forgets what lies more than a window before the latest sample; also returns
how many samples were dropped. -/
def Detector.prune (d : Detector) : Detector × Nat :=
  let cutoff := d.latest.add (-d.window)
  let alerted := d.alerted.filter fun e => !e.2.before cutoff
  let (buffer, dropped) := d.buffer.prune cutoff
  ({ d with alerted, buffer }, dropped)

end Airspace.Collision
