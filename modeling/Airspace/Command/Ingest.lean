import Airspace.Command.Startup
import Airspace.Telemetry.Wire

/-!
# The feed poller

`ingestor [-config dir]` polls the live aircraft feed at once and then every
interval, and publishes the samples of each answer to the telemetry topic. A
poll that fails is logged and the next one tried. Publishing an empty answer
is immediate. A sample that cannot be written as JSON fails the publish before
anything is sent, and so does a broker that cannot be reached. Otherwise
publishing waits for the broker, which here never completes the write, so the
program waits until it is asked to stop, and the publish then fails as
cancelled.

The program runs until it is asked to stop.
-/

namespace Airspace.Command

open Airspace.Log Airspace.Json Airspace.Telemetry

/-- The samples of a poll of the feed at a URL. -/
def Host.poll (w : Host) (url : String) : Except Feed.FetchError (List Sample) :=
  match w.feed with
  | some reply => if url == w.feedUrl then reply.samples else .error (Feed.unanswered url)
  | none => .error (Feed.unanswered url)

/-- The first sample that cannot be written as JSON, and why. -/
def unwritable : List Sample → Option (Sample × EncodeError)
  | [] => none
  | s :: rest =>
    match s.encode with
    | .error e => some (s, e)
    | .ok _ => unwritable rest

/-- One poll and publish; true when the publish blocks the program. -/
def pollOnce (log : Logger) (url : String) : Program Bool := do
  match (← host).poll url with
  | .error e => do
    note log .error "fetch error" [("error", .string e.message)]
    return false
  | .ok samples => do
    note log .info "fetched states from OpenSky" [("aircraft", count samples.length)]
    if samples.isEmpty then
      note log .debug "published telemetry" [("samples", count 0)]
      return false
    else match unwritable samples with
      | some (s, e) => do
        note log .error "publish error" [("error", .string ("marshal sample for " ++ s.vehicle ++ ": " ++ e.message))]
        return false
      | none => do
        match (← host).broker.writeRefusal with
        | some e => do
          note log .error "publish error" [("error", .string e)]
          return false
        | none => do
          note log .error "publish error" [("error", .string "context canceled")]
          return true

/-- The feed poller. -/
def ingestor (args : List String) : Program Unit := do
  let (_, _, cfg, log) ← startup [configFlag] (defaultUsage "ingestor" [configFlag]) "ingestor" args
  let interval := cfg.feed.interval
  if interval ≤ 0 then panicWith "non-positive interval for NewTicker"
  note log .info "starting ingestor" [("broker", .string cfg.bus.broker), ("topic", .string cfg.bus.telemetryTopic),
    ("interval", numberField (Float.ofInt interval / 1000000))]
  let url := Feed.clientUrl cfg.feed.url
  if !(← pollOnce log url) then
    let _ ← tickWhileAwaiting (fun _ _ => do return ((), ← pollOnce log url)) (ticksWithin interval) 1 ()
  note log .info "shutting down ingestor"

end Airspace.Command
