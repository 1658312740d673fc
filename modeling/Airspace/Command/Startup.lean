import Airspace.Command.Host
import Airspace.Command.Flags
import Airspace.Settings.Tracker

/-!
# How every program starts

Every program reads its flags, then its settings from `tracker.cfg.json` in
the directory its `-config` flag names (the working directory by default).
A settings file that cannot be read ends the program with a fatal console
entry `load config`, at a fixed level, since the settings that would choose
the log's layout and level are what failed.

The log then takes the layout and level the settings ask for, and each
program's entries name it as their `component`. Programs that keep obstacles
open the store the settings name (an empty name is a private in-memory
store); a store that cannot be opened is fatal, and an opened one is
announced by the store's own component.
-/

namespace Airspace.Command

open Airspace.Settings Airspace.Log Airspace.Json Airspace.Obstacle

/-- The flag every program takes: where its settings file is. -/
def configFlag : Flag := ⟨"config", ".", "Directory containing tracker.cfg.json"⟩

/-- Reads the flags; on an error, writes it and the usage, and stops. -/
def readCommandLine (flags : List Flag) (usage : String) (args : List String) :
    Program (FlagValues × List String) :=
  match readFlags flags [] args with
  | .ok r => pure r
  | .error e => do
    match e.message? with
    | some m => complain m
    | none => pure ()
    complain usage
    throw e.status

/-- The endings under which a settings file is looked for before its plain name. -/
def settingsEndings : List String :=
  ["json", "toml", "yaml", "yml", "properties", "props", "prop", "hcl", "tfvars", "dotenv", "env", "ini"]

/-- The bytes of the settings file in a directory, if there is one. An empty
directory name names no directory to search. -/
def Host.settingsFile (w : Host) (dir : String) : Option (List UInt8) :=
  if dir.isEmpty then none
  else
    let names := settingsEndings.map (fun e => fileName ++ "." ++ e) ++ [fileName]
    names.findSome? fun n =>
      match w.place (dir ++ "/" ++ n) with
      | .file name => (w.content? name).map Content.toBytes
      | _ => none

/-- The logger used before the settings are known. -/
def bootLogger : Logger := ⟨.console, .info, []⟩

/-- Loads the settings; a file that cannot be read is fatal. -/
def loadSettings (dir : String) : Program Config := do
  let w ← host
  match load w.environment (w.settingsFile dir) with
  | .ok layers => pure layers.config
  | .error e => fatal bootLogger "load config" [("error", .string e.message)]

/-- The logger the settings ask for, for a component. -/
def loggerFor (c : Config) (component : String) : Logger :=
  (⟨Layout.ofName c.logFormat, Level.parse c.logLevel, []⟩ : Logger).component component

/-- A whole number as a log field. -/
def count (n : Nat) : Value := Value.ofInt n

/-- Reads the flags and the settings: the flag values, the remaining arguments,
the settings and the program's logger. -/
def startup (flags : List Flag) (usage component : String) (args : List String) :
    Program (FlagValues × List String × Config × Logger) := do
  let (given, rest) ← readCommandLine flags usage args
  let cfg ← loadSettings (flagValue flags given "config")
  return (given, rest, cfg, loggerFor cfg component)

/-- Stops the program as a panic: the reason on the error stream, status 2. -/
def panicWith {α : Type} (reason : String) : Program α := do
  complain ("panic: " ++ reason)
  throw 2

/-- Stops the program as a panic in a goroutine: the reason, then the goroutine's stack as the
runtime writes it, on the error stream, status 2. -/
def panicIn {α : Type} (reason : String) (stack : List String) : Program α := do
  complain ("panic: " ++ reason ++ "\n\n" ++ "\n".intercalate stack)
  throw 2

/-- How long whoever runs a long-lived program waits for the lines it awaits: 5 s. -/
def awaitLimit : Time.Duration := 5000000000

/-- The number of ticks of a timer with this interval that fall within the wait. -/
def ticksWithin (interval : Time.Duration) : Nat :=
  if interval ≤ 0 then 0 else (awaitLimit / interval).toNat

/-- Runs the ticks `k, k + 1, …` of a timer over a state, at most `fuel` of
them, until the awaited lines are seen or a tick reports that the program
blocks: the state afterwards and the number of the next tick. -/
def tickWhileAwaiting {σ : Type} (tick : Nat → σ → Program (σ × Bool)) : Nat → Nat → σ → Program (σ × Nat)
  | 0, k, s => pure (s, k)
  | fuel + 1, k, s => do
    if ← awaitedSeen then pure (s, k)
    else
      let (s, blocked) ← tick k s
      if blocked then pure (s, k + 1) else tickWhileAwaiting tick fuel (k + 1) s

/-- Opens the obstacle store; failing to is fatal. -/
def openStore (log : Logger) (path : String) : Program Handle := do
  let source := if path.isEmpty then ":memory:" else path
  match (← host).openDatabase source with
  | .error f => fatal log "open obstacle store" [("error", .string f.message)]
  | .ok h => do
    alterHost (·.keep h)
    note (log.component "store") .info "obstacle store ready" [("path", .string source)]
    pure h

/-- Builds the stored obstacles; a definition that cannot be read is fatal. -/
def loadObstacles (log : Logger) (h : Handle) : Program (List (MovingObstacle Float)) := do
  let (store, loaded) := h.store.load
  alterHost (·.keep { h with store })
  match loaded with
  | .error f => fatal log "load obstacles" [("error", .string f.message)]
  | .ok os => do
    note (log.component "store") .debug "obstacles loaded" [("count", count os.length)]
    pure os

end Airspace.Command
