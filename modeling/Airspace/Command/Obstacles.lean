import Airspace.Command.Startup
import Airspace.Command.Table
import Airspace.Decimal.Parse
import Airspace.Obstacle.Wire

/-!
# The obstacle catalogue program

`obstacles [-config dir] <command>` manages the stored obstacles:

* `import <file.json>` stores each definition of the file (an array of them, or
  one), announcing each as `stored "name" as id (n waypoints)`; the first that
  fails stops the import, those before it staying stored;
* `list` prints a table of the stored obstacles: id, name, speed, radius, the
  number of waypoints, the number of circuit points, and the period of the
  trajectory to one decimal (`-` for an obstacle that does not fly one);
* `delete <id>` removes an obstacle.

A command that fails is logged as `command failed` and the program stops with
status 1.
-/

namespace Airspace.Command

open Airspace.Obstacle Airspace.Log Airspace.Json

/-- The usage text of the catalogue program. -/
def catalogueUsage : String :=
  "usage: obstacles [-config dir] <command>\n\ncommands:\n" ++
  "  import <file.json>   store the obstacles described in file.json\n" ++
  "  list                 print stored obstacles\n" ++
  "  delete <id>          remove an obstacle\n"

/-- Reads an unsigned decimal id, as the system's number parser words its
refusals: the first fault from the left decides between a bad character and
overflow. -/
def parseId (s : String) : Except String Nat :=
  (Decimal.parseUnsigned s).mapError fun f =>
    "strconv.ParseUint: parsing " ++ Text.quoteText s ++ ": " ++ f.reason

/-- A command's steps: a failure carries its text. -/
abbrev Step := ExceptT String Program

/-- Stores definitions one by one, announcing each. -/
def importAll (log : Logger) : Handle → List Definition → Step Unit
  | _, [] => pure ()
  | h, d :: rest => do
    let (store, saved) := h.store.save d
    let h := { h with store }
    alterHost (·.keep h)
    match saved with
    | .error f => throw f.message
    | .ok id =>
      note (log.component "store") .debug "obstacle saved" [("id", count id), ("waypoints", count d.waypoints.length)]
      say ("stored " ++ Text.quoteBytes d.name ++ " as " ++ toString id ++ " (" ++ toString d.waypoints.length ++
        " waypoints)\n")
      importAll log h rest

/-- One row of the catalogue table, as bytes: the name goes in as stored. -/
def catalogueRow (d : Definition) : List UInt8 :=
  let o := d.build
  let period := match o.trajectory? with
    | some t => Decimal.fixed t.period 1
    | none => "-"
  let text := fun (s : String) => s.toUTF8.toList
  List.intercalate [0x09] [text (toString d.id), d.name, text (Spline.messageNumber.render d.speed),
    text (Spline.messageNumber.render d.radius), text (toString d.waypoints.length),
    text (toString o.circuit.length), text period] ++ [0x0A]

/-- The catalogue table of some definitions, ill-formed bytes of the names
shown as U+FFFD. -/
def catalogueTable (ds : List Definition) : String :=
  Text.toText (alignColumns
    ("ID\tNAME\tSPEED (kt)\tRADIUS (ft)\tWAYPOINTS\tCIRCUIT\tPERIOD (s)\n".toUTF8.toList ++ (ds.map catalogueRow).flatten))

/-- Runs one command of the catalogue. -/
def catalogueCommand (log : Logger) (h : Handle) : List String → Step Unit
  | [] => throw ("missing command\n" ++ catalogueUsage)
  | "import" :: rest => do
    let path ← match rest with
      | [p] => pure p
      | _ => throw "import takes one file"
    let bytes ← match (← host).readFile path with
      | .ok b => pure b
      | .error e => throw e.message
    match parseDefinitions bytes with
    | .error e => throw ("decode obstacles: " ++ e.message)
    | .ok ds => importAll log h ds
  | "list" :: _ => do
    let (store, listed) := h.store.list
    alterHost (·.keep { h with store })
    match listed with
    | .error f => throw f.message
    | .ok ds => say (catalogueTable ds)
  | "delete" :: rest => do
    let text ← match rest with
      | [t] => pure t
      | _ => throw "delete takes one id"
    let id ← match parseId text with
      | .ok n => pure n
      | .error why => throw ("invalid id " ++ Text.quoteText text ++ ": " ++ why)
    let (store, removed) := h.store.remove id
    alterHost (·.keep { h with store })
    match removed with
    | .error f => throw f.message
    | .ok () => pure ()
  | other :: _ => throw ("unknown command " ++ Text.quoteText other ++ "\n" ++ catalogueUsage)

/-- The catalogue program. -/
def catalogue (args : List String) : Program Unit := do
  let (_, rest, cfg, log) ← startup [configFlag] catalogueUsage "obstacles" args
  let h ← openStore log cfg.dbPath
  match ← (catalogueCommand log h rest).run with
  | .ok () => pure ()
  | .error why => do
    note log .error "command failed" [("error", .string why)]
    throw 1

end Airspace.Command
