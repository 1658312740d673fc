import Airspace.Command.Startup
import Airspace.Telemetry.Wire
import Airspace.Geo.Mercator
import Airspace.Track.Buffer
import Airspace.Metrics.Collector
import Airspace.Export.Track
import Airspace.Export.Kml
import Airspace.Http.Listen
import Airspace.Http.Route
import Airspace.Http.Url
import Airspace.Text.Utf8

/-!
# The live broadcast server

`wsserver [-config dir]` loads the stored obstacles and serves:

* `/obstacles?at=T`: every obstacle's centre, radius and heading at the
  RFC 3339 instant `T` (now when absent), with Web Mercator coordinates, as a
  JSON array; an unreadable `T` is a bad request;
* `/obstacles/kml`: each obstacle's track over the look-back span, newest
  point first, as a KML document;
* `/metrics`: the tracker's metrics;
* `/ws`: a live-update connection, to which every interval a frame is pushed
  with the time, the obstacles as above and the latest sample of each vehicle.

Every frame computed counts one position lookup per obstacle. A frame with a
number JSON cannot write is not sent, and the failure is logged. An address
that cannot be listened on is fatal; otherwise the server runs until it is
asked to stop.

The vehicles' telemetry would come from a consumer group, which the broker
here does not support, so no vehicle is ever known.
-/

namespace Airspace.Command

open Airspace.Log Airspace.Json Airspace.Obstacle Airspace.Telemetry Airspace.Geo Airspace.Time
open Airspace.Metrics Airspace.Export Airspace.Spline

/-- An obstacle as a frame shows it. -/
structure Mark where
  id : Nat
  name : String
  position : Position Float
  radius : Float
  heading : Float
  /-- Web Mercator metres. -/
  x : Float
  y : Float

/-- An obstacle's mark at an instant. -/
def markAt (ts : Timestamp) (o : MovingObstacle Float) : Except (DomainFault Float) Mark := do
  let v ← o.view ts
  let heading ← o.headingAt ts
  let (x, y) := mercator v.position.latitude v.position.longitude
  return ⟨o.id, o.name, v.position, v.radius, heading, x, y⟩

/-- A mark as JSON; the name only when it is not empty. -/
def Mark.encode (m : Mark) : Except EncodeError Value := do
  let name := if m.name.isEmpty then [] else [("name", Value.string m.name)]
  return .object ([("id", Value.ofInt m.id)] ++ name ++ (← encodePosition m.position) ++
    [("sphere_radius", ← encodeNumber m.radius), ("heading", ← encodeNumber m.heading),
     ("x", ← encodeNumber m.x), ("y", ← encodeNumber m.y)])

/-- A vehicle's latest sample as a frame shows it. -/
def encodeVehicle (s : Sample) : Except EncodeError Value := do
  let (x, y) := mercator s.position.latitude s.position.longitude
  match ← s.encode with
  | .object ms => return .object (ms ++ [("x", ← encodeNumber x), ("y", ← encodeNumber y)])
  | v => return v

/-- What the server holds. -/
structure Server where
  obstacles : List (MovingObstacle Float)
  vehicles : Track.Buffer := {}
  metrics : Registry
  lookback : Duration
  step : Duration

/-- The marks of every obstacle at an instant, counting the lookups. -/
def Server.marks (srv : Server) (ts : Timestamp) : Program (Server × List Mark) := do
  match srv.obstacles.mapM (markAt ts) with
  | .error f => panicWith f.message
  | .ok marks =>
    let metrics := match Recorder.bound.queries srv.metrics marks.length with
      | .ok r => r
      | .error _ => srv.metrics
    return ({ srv with metrics }, marks)

/-- The frame at an instant as JSON. -/
def Server.frame (srv : Server) (ts : Timestamp) (marks : List Mark) : Except EncodeError Value := do
  return .object [("time", ← encodeTime ts.toUtc), ("obstacles", .array (← marks.mapM Mark.encode)),
    ("vehicles", .array (← srv.vehicles.latest.mapM encodeVehicle))]

/-- The content type of plain text answers. -/
def plainText : String := "text/plain; charset=utf-8"

/-- Answers `/obstacles`. -/
def Server.obstaclesPage (srv : Server) (log : Logger) (now : Timestamp) (target query : String) :
    Program Server := do
  let instant := Http.queryValue query "at"
  let ts? := if instant.isEmpty then some now else (Timestamp.parse instant).toOption
  match ts? with
  | none => do
    respond (.page target 400 plainText "at must be RFC 3339\n")
    return srv
  | some ts => do
    let (srv, marks) ← srv.marks ts
    match marks.mapM Mark.encode with
    | .ok vs => respond (.page target 200 "application/json" ((Value.array vs).render { escapeHtml := true } ++ "\n"))
    | .error e => do
      note log .error "encode obstacles" [("error", .string e.message)]
      respond (.page target 200 "application/json" "")
    return srv

/-- Answers `/obstacles/kml`. -/
def Server.livePage (srv : Server) (now : Timestamp) (target : String) : Program Unit := do
  let tracks := srv.obstacles.mapM fun o => do
    return (⟨o.id, o.name, ← liveTrack o.positionAt now srv.lookback srv.step⟩ : ObstacleTrack)
  match tracks with
  | .error f => panicWith f.message
  | .ok ts => respond (.page target 200 "application/vnd.google-earth.kml+xml" (liveDocument ts))

/-- Answers one request by its routed path. -/
def Server.route (srv : Server) (log : Logger) (now : Timestamp) (target : String) : Program Server := do
  let (raw, query) := Http.splitTarget target
  let path := Http.routedPath raw
  if path == "/obstacles" then srv.obstaclesPage log now target query
  else if path == "/obstacles/kml" then do
    srv.livePage now target
    return srv
  else if path == "/metrics" then do
    respond (.page target 200 "text/plain; version=0.0.4; charset=utf-8; escaping=values" srv.metrics.exposition)
    return srv
  else if path == "/ws" then do
    note log .error "websocket upgrade failed" [("error", .string
      "websocket: the client is not using the websocket protocol: 'upgrade' token not found in 'Connection' header")]
    respond (.page target 400 plainText "Bad Request\n")
    return srv
  else do
    respond (.page target 404 plainText "404 page not found\n")
    return srv

/-- Answers one request for a target at an address; a target that makes no
URL is refused by the client before anything is sent. -/
def Server.serve (srv : Server) (log : Logger) (now : Timestamp) (address target : String) :
    Program Server := do
  match Http.Url.parse ("http://" ++ address ++ target) with
  | .error e => do
    respond (.failed target e.message)
    return srv
  | .ok _ => srv.route log now target

/-- One broadcast: the frame is computed and, when it can be written, sent to
the connected client if there is one. -/
def Server.broadcast (srv : Server) (log : Logger) (ts : Timestamp) (client : Bool) : Program (Server × Bool) := do
  let (srv, marks) ← srv.marks ts
  match srv.frame ts marks with
  | .error e => do
    note log .error "marshal frame" [("error", .string e.message)]
    return (srv, false)
  | .ok v => do
    if client then respond (.frame v)
    return (srv, true)

/-- Broadcasts at the ticks `k, k + 1, …` until one reaches the client. -/
def Server.pushFrame (log : Logger) (clock : Timestamp) (interval : Duration) :
    Nat → Nat → Server → Program Server
  | 0, _, srv => pure srv
  | fuel + 1, k, srv => do
    let (srv, sent) ← srv.broadcast log (clock.add (interval * k)) true
    if sent then pure srv else Server.pushFrame log clock interval fuel (k + 1) srv

/-- The live broadcast server. -/
def broadcaster (args : List String) : Program Unit := do
  let (_, _, cfg, log) ← startup [configFlag] (defaultUsage "wsserver" [configFlag]) "wsserver" args
  let h ← openStore log cfg.dbPath
  let obstacles ← loadObstacles log h
  let srv : Server := ⟨obstacles, {}, (registerCollector {}).1, cfg.tracks.lookback, cfg.tracks.step⟩
  let interval := cfg.broadcast.interval
  if interval ≤ 0 then panicWith "non-positive interval for NewTicker"
  let address := cfg.broadcast.addr
  note log .info "websocket server starting" [("addr", .string address), ("obstacles", count obstacles.length)]
  let refusal := if (← host).reserved.contains address then none
    else Http.listenError (if address.isEmpty then ":http" else address)
  match refusal with
  | some e => fatal log "http server" [("error", .string e)]
  | none => do
    let clock := (← host).clock
    let (srv, next) ← tickWhileAwaiting (fun k srv => do
        let (srv, _) ← srv.broadcast log (clock.add (interval * k)) false
        return (srv, false)) (ticksWithin interval) 1 srv
    let now := clock.add (interval * (next - 1))
    let run ← currentRun
    let srv ← run.requests.foldlM (fun srv target => srv.serve log now address target) srv
    if run.socket then
      note log .info "client connected"
      let _ ← Server.pushFrame log clock interval (ticksWithin interval + 1) next srv
      note log .info "client disconnected"
    note log .info "shutting down"

end Airspace.Command
