import Airspace.Command.Startup
import Airspace.Obstacle.Collision
import Airspace.Telemetry.Interpolate
import Airspace.Track.Buffer
import Airspace.Export.Track
import Airspace.Export.Kml

/-!
# The replay program

`consumer [-config dir] [-kml file]` reads every partition of the telemetry
topic from its first record to its last, then reports for each vehicle, in the
order of their ids, how many samples it sent and how many its
densified track holds, and for each stored obstacle whether that track entered
it: `clear`, or the time of the first sample inside and its distance from the
obstacle's centre.

With `-kml`, it then creates the file and writes the obstacles' paths over every flight window of
every vehicle (the spans between gaps longer than the densifier bridges) as a
KML document.

Failing to list the partitions, to read one, or to write the document is
fatal. An evaluation outside a trajectory's fitted domain stops the program as
a panic, with status 2.
-/

namespace Airspace.Command

open Airspace.Obstacle Airspace.Log Airspace.Json Airspace.Telemetry Airspace.Track Airspace.Export
open Airspace.Settings Airspace.Spline

/-- The flags of the replay program. -/
def replayFlags : List Flag :=
  [configFlag, ⟨"kml", "", "Write obstacle paths over each flight window to this KML file"⟩]

/-- Stops the program as a panic over a domain fault. -/
def panicOver {α : Type} (f : DomainFault Float) : Program α := panicWith f.message

/-- Replays the partitions in turn into a buffer. -/
def replayPartitions (log : Logger) (topic : String) : Buffer → List Nat → Program Buffer
  | buffer, [] => pure buffer
  | buffer, p :: rest => do
    let (broker, r) := (← host).broker.replay topic p
    alterHost fun w => { w with broker }
    emit (r.entries.flatMap log.write)
    match r.error with
    | some e => fatal log "replay telemetry" [("error", .string ("partition " ++ toString p ++ ": " ++ e.message))]
    | none => do
      note log .debug "partition replayed" [("partition", count p), ("samples", count r.handled)]
      replayPartitions log topic (r.samples.foldl Buffer.add buffer) rest

/-- Replays the whole telemetry topic. -/
def replayTopic (log : Logger) (topic : String) : Program Buffer := do
  let (broker, r) := (← host).broker.partitionIds topic
  alterHost fun w => { w with broker }
  match r with
  | .error e => fatal log "replay telemetry" [("error", .string e.message)]
  | .ok ids => do
    note log .info "replaying topic" [("partitions", count ids.length), ("topic", .string topic)]
    replayPartitions log topic Buffer.empty ids

/-- The report line of one obstacle for a densified track. -/
def obstacleLine (dense : List Sample) (o : MovingObstacle Float) : Except (DomainFault Float) String := do
  match ← o.firstCollision dense with
  | none => return "  " ++ o.describe ++ ": clear\n"
  | some hit =>
    return "  " ++ o.describe ++ ": COLLISION at " ++ hit.sample.timestamp.formatMillisUtc ++ ", " ++
      Decimal.fixed hit.distance 1 ++ " ft from centre\n"

/-- The report of one vehicle and its flight windows. -/
def vehicleReport (buffer : Buffer) (obstacles : List (MovingObstacle Float)) (densify : Densify)
    (vehicle : String) : Except (DomainFault Float) (String × List Period) := do
  let samples := buffer.window vehicle Time.Timestamp.zero
  let dense := densify.apply samples
  let lines ← obstacles.mapM (obstacleLine dense)
  let head := vehicle ++ ": " ++ toString samples.length ++ " samples (" ++ toString dense.length ++ " densified)\n"
  let periods := ((windows samples densify.maxGap).getD []).map fun w => (⟨w.first, w.last⟩ : Period)
  return (head ++ String.join lines, periods)

/-- Prints the report of every vehicle in turn and returns all their flight
windows. A fault stops the program after the reports of the vehicles before it. -/
def reportFleet (buffer : Buffer) (obstacles : List (MovingObstacle Float)) (densify : Densify) :
    Program (List Period) :=
  buffer.vehicles.foldlM (fun periods vehicle =>
    match vehicleReport buffer obstacles densify vehicle with
    | .ok (text, more) => do
      say text
      return periods ++ more
    | .error f => panicOver f) []

/-- The paths document of the obstacles over some periods. -/
def pathsOver (obstacles : List (MovingObstacle Float)) (periods : List Period) (step : Time.Duration) :
    Except (DomainFault Float) String := do
  let tracks ← obstacles.mapM fun o => do
    return (⟨o.id, o.name, ← track o.positionAt periods step⟩ : ObstacleTrack)
  return pathsDocument tracks

/-- The replay program. -/
def replayer (args : List String) : Program Unit := do
  let (given, _, cfg, log) ← startup replayFlags (defaultUsage "consumer" replayFlags) "consumer" args
  let h ← openStore log cfg.dbPath
  let obstacles ← loadObstacles log h
  let buffer ← replayTopic log cfg.bus.telemetryTopic
  let densify : Densify := ⟨cfg.telemetry.step, cfg.telemetry.maxGap⟩
  let periods ← reportFleet buffer obstacles densify
  let path := flagValue replayFlags given "kml"
  if !path.isEmpty then
    let failed : FileError → Program Unit := fun e =>
      fatal log "write KML" [("error", .string e.message), ("path", .string path)]
    match (← host).writeFile path [] with
    | .error e => failed e
    | .ok w => do
      alterHost fun _ => w
      let document ← match pathsOver obstacles periods cfg.tracks.step with
        | .ok d => pure d
        | .error f => panicOver f
      match (← host).writeFile path document.toUTF8.toList with
      | .error e => failed e
      | .ok w => do
        alterHost fun _ => w
        note log .info "wrote obstacle paths" [("path", .string path), ("periods", count periods.length)]

end Airspace.Command
