import Airspace.Settings.Convert
import Airspace.Json.Decode

/-!
# The tracker's settings

The tracker reads its settings from defaults, four environment variables and
an optional JSON file `tracker.cfg.json` in its settings directory.

| key | environment | default |
|---|---|---|
| `logLevel` | `LOG_LEVEL` | `info` |
| `logFormat` | | `console` |
| `db.path` | `DB_PATH` | `obstacles.db` |
| `kafka.broker` | `KAFKA_BROKER` | `localhost:9092` |
| `kafka.telemetryTopic` | `KAFKA_TOPIC` | `uas_telemetry` |
| `kafka.alertTopic` | | `collision_alerts` |
| `kafka.groupId` | | `collision-detector` |
| `ws.addr`, `ws.interval` | | `:8080`, `1s` |
| `telemetry.step`, `.maxGap`, `.window` | | `100ms`, `10s`, `2m` |
| `export.step`, `.lookback` | | `100ms`, `1m` |
| `opensky.url`, `.interval` | | empty, `2m` |

The file must be a JSON object (or `null`, which is no settings); its keys are
matched without regard to case. A file that is not JSON, is another kind of
value, or holds a number beyond binary64 is refused.
-/

namespace Airspace.Settings

open Airspace.Json Airspace.Time

/-- The name of the settings file. -/
def fileName : String := "tracker.cfg.json"

/-- The defaults, keyed in lower case. -/
def defaults : Value :=
  let group := fun (ms : List (String × String)) => Value.object (ms.map fun (k, v) => (k, .string v))
  .object [
    ("loglevel", .string "info"),
    ("logformat", .string "console"),
    ("kafka", group [("broker", "localhost:9092"), ("telemetrytopic", "uas_telemetry"),
      ("alerttopic", "collision_alerts"), ("groupid", "collision-detector")]),
    ("db", group [("path", "obstacles.db")]),
    ("ws", group [("addr", ":8080"), ("interval", "1s")]),
    ("telemetry", group [("step", "100ms"), ("maxgap", "10s"), ("window", "2m")]),
    ("export", group [("step", "100ms"), ("lookback", "1m")]),
    ("opensky", group [("url", ""), ("interval", "2m")])]

/-- The keys bound to environment variables. -/
def bindings : List (String × String) :=
  [("kafka.broker", "KAFKA_BROKER"), ("kafka.telemetrytopic", "KAFKA_TOPIC"), ("db.path", "DB_PATH"),
   ("loglevel", "LOG_LEVEL")]

/-- Why the settings file was refused. -/
inductive LoadError where
  /-- The file is not JSON. -/
  | malformed (e : SyntaxError)
  /-- The file is JSON of the wrong kind, or holds a number beyond binary64. -/
  | mismatch (m : TypeMismatch)

/-- The text of a refusal. -/
def LoadError.message (e : LoadError) : String :=
  "error reading config file: While parsing config: " ++
    match e with
    | .malformed e => e.message
    | .mismatch m => m.message

/-- The settings a file's bytes hold, keys in lower case. -/
def readFile (bytes : List UInt8) : Except LoadError Value :=
  match parse bytes with
  | .error e => .error (.malformed e)
  | .ok .null => .ok (.object [])
  | .ok (.object ms) =>
    match ((checkNumbers "" [] (.object ms) : Reader Empty Unit)).run' with
    | .error (.mismatch m) => .error (.mismatch m)
    | _ => .ok (lowerKeys (.object ms))
  | .ok v => .error (.mismatch ⟨v.kind, "", [], "map[string]interface \x7b\x7d"⟩)

/-- The layers of the tracker's settings, given the environment and the file's
bytes if there is a file. -/
def load (environment : List (String × String)) (file : Option (List UInt8)) : Except LoadError Layers := do
  let file ← match file with
    | some bytes => readFile bytes
    | none => pure (.object [])
  return { bindings, environment, file, defaults }

/-- Broker and topics. -/
structure BusSettings where
  broker : String
  telemetryTopic : String
  alertTopic : String
  groupId : String

/-- Densification and the detection window. -/
structure TelemetrySettings where
  step : Duration
  maxGap : Duration
  window : Duration

/-- Sampling of exported tracks. -/
structure TrackSettings where
  step : Duration
  lookback : Duration

/-- The live aircraft feed. -/
structure FeedSettings where
  url : String
  interval : Duration

/-- The live broadcast. -/
structure BroadcastSettings where
  addr : String
  interval : Duration

/-- A typed snapshot of the settings. -/
structure Config where
  logLevel : String
  logFormat : String
  dbPath : String
  bus : BusSettings
  telemetry : TelemetrySettings
  tracks : TrackSettings
  feed : FeedSettings
  broadcast : BroadcastSettings

/-- A setting as text. -/
def Layers.text (l : Layers) (key : String) : String := asText (l.find key)

/-- A setting as a duration. -/
def Layers.duration (l : Layers) (key : String) : Duration := asDuration (l.find key)

/-- A setting as text, or the failure of looking it up. -/
def Layers.textOf (l : Layers) (key : String) : Except NegativeIndex String := asText <$> l.lookup key

/-- A setting as a duration, or the failure of looking it up. -/
def Layers.durationOf (l : Layers) (key : String) : Except NegativeIndex Duration := asDuration <$> l.lookup key

/-- The snapshot of the settings. -/
def Layers.config (l : Layers) : Config where
  logLevel := l.text "logLevel"
  logFormat := l.text "logFormat"
  dbPath := l.text "db.path"
  bus := ⟨l.text "kafka.broker", l.text "kafka.telemetryTopic", l.text "kafka.alertTopic", l.text "kafka.groupId"⟩
  telemetry := ⟨l.duration "telemetry.step", l.duration "telemetry.maxGap", l.duration "telemetry.window"⟩
  tracks := ⟨l.duration "export.step", l.duration "export.lookback"⟩
  feed := ⟨l.text "opensky.url", l.duration "opensky.interval"⟩
  broadcast := ⟨l.text "ws.addr", l.duration "ws.interval"⟩

end Airspace.Settings
