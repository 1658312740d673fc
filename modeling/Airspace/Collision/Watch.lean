import Airspace.Collision.Detector
import Airspace.Bus.Consume
import Airspace.Time.Rfc3339

/-!
# Watching the telemetry stream

The detector service consumes telemetry from the bus and hands each sample to
the detector. For every alert it writes a warning entry (obstacle, vehicle,
sample time to the second, distance), then publishes the sample's alerts
together, one message per alert keyed by vehicle. A publication that fails —
an alert that cannot be encoded, or a writer that refuses — is written as an
error entry with the number of alerts, and nothing of it is published.

Alongside, the service prunes the detector every half window; in a short run
this matters only when the stream stays open for half a window after its last
message, so the caller says how long it stays open.
-/

namespace Airspace.Collision

open Airspace.Json Airspace.Telemetry Airspace.Time Airspace.Spline

/-- The entry for an alert. -/
def alertEntry (a : Alert) : Log.Entry :=
  { level := some .warn, message := "collision detected",
    fields := [("obstacle", Value.ofInt a.obstacleId), ("vehicle", .string a.vehicle),
      ("at", .string a.sample.timestamp.formatSeconds), ("distance_ft", Log.numberField a.distance)] }

/-- The entry for a failed publication. -/
def publishFailureEntry (error : String) (alerts : Nat) : Log.Entry :=
  { level := some .error, message := "publish alerts",
    fields := [("error", .string error), ("alerts", Value.ofInt alerts)] }

/-- The service's state: the detector and what it has published. -/
structure Watch where
  detector : Detector
  published : List Bus.Message := []

/-- Hands one sample to the detector and publishes its alerts; `refusal` is the
error every write fails with, if any. -/
def Watch.handle (refusal : Option String) (w : Watch) (s : Sample) :
    Except (DomainFault Float) (Watch × List Log.Entry) := do
  let (detector, result) := w.detector.observe s Timestamp.zero
  let alerts ← result
  let w := { w with detector }
  let entries := alerts.map alertEntry
  if alerts.isEmpty then return (w, entries)
  match Bus.publishAlerts alerts with
  | .error e => return (w, entries ++ [publishFailureEntry e.message alerts.length])
  | .ok messages =>
    match refusal with
    | some error => return (w, entries ++ [publishFailureEntry error alerts.length])
    | none => return ({ w with published := w.published ++ messages }, entries)

/-- Whether the pruning ticker, which fires every half window, fires while the stream stays open
for `linger` after its last message. -/
def Detector.ticksWithin (d : Detector) (linger : Duration) : Bool := 0 < linger && d.window / 2 ≤ linger

/-- Runs the service over a stream that stays open for `linger` after its last message: the state
and entries afterwards. -/
def watch (d : Detector) (refusal : Option String) (deliveries : List Bus.Delivery) (linger : Duration) :
    Except (DomainFault Float) (Watch × List Log.Entry) := do
  let (w, entries) ← Bus.consumeWith (Watch.handle refusal) ({ detector := d }, []) deliveries
  let w := if d.ticksWithin linger then { w with detector := w.detector.prune.1 } else w
  return (w, entries)

end Airspace.Collision
