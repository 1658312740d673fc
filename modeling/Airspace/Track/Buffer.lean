import Airspace.Telemetry.Sample

/-!
# Per-vehicle track buffers

A buffer keeps, for every vehicle it has heard of, that vehicle's recent
samples in strictly increasing instant order. Adding a sample at an instant
already held for its vehicle replaces the held one; pruning drops every sample
before a cutoff and forgets the vehicles left with none.

Vehicles are kept in increasing byte order of their ids, so listing them and
taking the newest sample of each need no further sort.
-/

namespace Airspace.Track

open Airspace.Time Airspace.Telemetry

/-- Inserts a sample into a track ordered by instant, replacing a sample at the same instant. -/
def insertByTime (s : Sample) : List Sample → List Sample
  | [] => [s]
  | x :: xs =>
    if x.timestamp.before s.timestamp then x :: insertByTime s xs
    else if x.timestamp.sameInstant s.timestamp then s :: xs
    else s :: x :: xs

/-- The samples of a track at or after `since`. -/
def since (t : Timestamp) (track : List Sample) : List Sample :=
  track.dropWhile fun s => s.timestamp.before t

/-- The recent samples of every vehicle. -/
structure Buffer where
  /-- Vehicles in increasing order of id, each with a nonempty track. -/
  tracks : List (String × List Sample) := []

/-- The empty buffer. -/
def Buffer.empty : Buffer := {}

/-- The track of a vehicle; empty for a vehicle not held. -/
def Buffer.track (b : Buffer) (vehicle : String) : List Sample :=
  ((b.tracks.find? fun e => e.1 == vehicle).map Prod.snd).getD []

/-- Adds a sample to the track of its vehicle. -/
def addTo (s : Sample) : List (String × List Sample) → List (String × List Sample)
  | [] => [(s.vehicle, [s])]
  | (v, track) :: rest =>
    if v == s.vehicle then (v, insertByTime s track) :: rest
    else if s.vehicle < v then (s.vehicle, [s]) :: (v, track) :: rest
    else (v, track) :: addTo s rest

/-- Adds a sample in time order; a sample at an instant already held replaces it. -/
def Buffer.add (b : Buffer) (s : Sample) : Buffer := ⟨addTo s b.tracks⟩

/-- The samples of a vehicle at or after `since`, oldest first. -/
def Buffer.window (b : Buffer) (vehicle : String) (t : Timestamp) : List Sample :=
  since t (b.track vehicle)

/-- Drops the samples before the cutoff and the vehicles left with none; also
returns how many samples were dropped. -/
def Buffer.prune (b : Buffer) (cutoff : Timestamp) : Buffer × Nat :=
  let kept := b.tracks.map fun (v, track) => (v, since cutoff track)
  let dropped := b.tracks.foldl (fun n e => n + (e.2.length - (since cutoff e.2).length)) 0
  (⟨kept.filter fun e => !e.2.isEmpty⟩, dropped)

/-- The vehicles held, in increasing order. -/
def Buffer.vehicles (b : Buffer) : List String := b.tracks.map Prod.fst

/-- The newest sample of every vehicle, by vehicle. -/
def Buffer.latest (b : Buffer) : List Sample := b.tracks.filterMap fun e => e.2.getLast?

end Airspace.Track
