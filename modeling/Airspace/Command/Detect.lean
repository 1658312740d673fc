import Airspace.Command.Startup
import Airspace.Collision.Detector
import Airspace.Http.Listen

/-!
# The collision detector program

`detector [-config dir] [-metrics addr]` makes sure the alert topic exists
(failing to is only a warning), loads the stored obstacles, warns of each
whose trajectory could not be built (it holds at its first waypoint), serves
its metrics on the given address unless it is empty, and then checks the
telemetry it receives until it is asked to stop. A metrics address that cannot
be listened on stops only the metrics server.

The telemetry reader joins a consumer group, which the broker here does not
support, so no telemetry arrives and nothing is pruned. The pruning goroutine
starts a ticker every half window, which panics when half the window is not
positive.
-/

namespace Airspace.Command

open Airspace.Log Airspace.Json Airspace.Obstacle Airspace.Collision Airspace.Bus

/-- The flags of the detector. -/
def detectorFlags : List Flag :=
  [configFlag, ⟨"metrics", ":9102", "Address to serve /metrics on, empty to disable"⟩]

/-- Warns of each obstacle whose trajectory could not be built. -/
def warnHeld (log : Logger) (obstacles : List (MovingObstacle Float)) : Program Unit :=
  obstacles.forM fun o =>
    match o.motion with
    | .failed e => note log .warn "trajectory unavailable, holding at first waypoint"
        [("error", .string e.message), ("obstacle", .string o.describe)]
    | _ => pure ()

/-- The stack of the pruning goroutine when its ticker is refused, as the runtime writes it. -/
def pruneTickerStack : List String :=
  ["goroutine 45 [running]:", "time.NewTicker(0x0?)", "\t/usr/local/go/src/time/tick.go:38 +0x9e",
    "github.com/yeonjoon13/moving-obstacle-tracker/internal/collision.RunDetector.func2()",
    "\t/opt/oracle_build/src/internal/collision/detector.go:163 +0x76",
    "golang.org/x/sync/errgroup.(*Group).Go.func1()",
    "\t/go/pkg/mod/golang.org/x/sync@v0.10.0/errgroup/errgroup.go:78 +0x50",
    "created by golang.org/x/sync/errgroup.(*Group).Go in goroutine 1",
    "\t/go/pkg/mod/golang.org/x/sync@v0.10.0/errgroup/errgroup.go:75 +0xa5"]

/-- The collision detector program. -/
def detector (args : List String) : Program Unit := do
  let (given, _, cfg, log) ← startup detectorFlags (defaultUsage "detector" detectorFlags) "detector" args
  let (broker, created) := (← host).broker.createTopics [⟨cfg.bus.alertTopic, 1, 1⟩]
  alterHost fun w => { w with broker }
  match created with
  | .error e => note log .warn "could not create alert topic" [("error", .string e.message), ("topic", .string cfg.bus.alertTopic)]
  | .ok () => pure ()
  let h ← openStore log cfg.dbPath
  let obstacles ← loadObstacles log h
  warnHeld log obstacles
  let address := flagValue detectorFlags given "metrics"
  if !address.isEmpty then
    match Http.listenError address with
    | some e => note log .error "metrics server stopped" [("error", .string e)]
    | none => pure ()
  let d := Detector.new obstacles cfg.telemetry.window ⟨cfg.telemetry.step, cfg.telemetry.maxGap⟩
  note log .info "starting collision detector" [("obstacles", count obstacles.length),
    ("topic", .string cfg.bus.telemetryTopic), ("group", .string cfg.bus.groupId)]
  if d.window / 2 ≤ 0 then panicIn "non-positive interval for NewTicker" pruneTickerStack
  note log .info "shutting down"

end Airspace.Command
