import Airspace.Store.Session
import Airspace.Store.Timestamp
import Airspace.Obstacle.Definition
import Airspace.Store.Library

/-!
# The obstacle store

Obstacle definitions are kept in the tables of `Database.tracker`:
`moving_obstacles` (columns `id`, `created_at`, `updated_at`, `name`,
`speed_avg`, `sphere_radius`) and `obstacle_waypoints` (`id`,
`obstacle_id`, `order`, `latitude`, `longitude`, `altitude_msl`). Row ids are
signed 64-bit; an unsigned obstacle id is stored as the signed number with the
same bits. The store's connection enforces foreign keys.

The store's own database is a library of the operations the store uses
(`Connection.library`, after `Store.Library`), each made of the statements the
client library sends; a transaction is a connection that enforces foreign keys.

* Creating a definition with a nonzero id inserts it under that id; id 0
  inserts a new obstacle. The id the insert gives back must read as unsigned.
  Then the waypoints are inserted in one statement, under that id; when a
  trigger skipped the obstacle's insert, no id comes back, and the waypoints go
  under the id the definition had.
* Deleting an obstacle's waypoints or the obstacle deletes the rows whose
  obstacle id or id is the signed form of the id; the second counts them.
* Obstacles are listed by id, each with its waypoints by `order`. Reading a row
  back can fail on a value its field type cannot take; the rows of obstacles
  are read before any waypoint.

Other statements run on the database through a second connection, which does
not enforce foreign keys (`Database.runAll`). The store's own connection keeps
the schema it last read until its next operation: the first query after such
statements reports the columns of a table under the names that schema gives,
each name taking the value now in its place.
-/

namespace Airspace.Store

open Airspace.Obstacle Airspace.Geo

/-- The cause of a fault of the engine. -/
def Fault.cause (f : Fault) : Cause := .engine f.text f.code

/-- The signed 64-bit number with the bits of an unsigned one. -/
def signed (n : Nat) : Int :=
  let m : Nat := n % Nat.pow 2 64
  if m ≥ Nat.pow 2 63 then (m : Int) - Int.pow 2 64 else (m : Int)

/-- The text the store writes as the time of a change. -/
def changeTime : List UInt8 := bytesOf "2024-01-01 00:00:00+00:00"

/-- `column = value`. -/
def columnIs (column : String) (value : Int) : Expr := .binary .eq (.column none column .bare) (.constant (.integer value))

/-- A table of the store as a statement names it. -/
def storeTarget (name : String) : Target := { name }

/-- Runs one of the store's own statements. -/
def Session.storeChange (s : Session) (c : Change) : Except Cause (Session × Outcome) :=
  match s.change c with
  | (s, .ok o) => .ok (s, o)
  | (_, .error f) => .error f.cause

/-- The row of a waypoint of an obstacle. -/
def waypointValues (owner : Int) (w : Waypoint Float) : List Expr :=
  let p := w.position
  [.constant (.integer owner), .constant (.integer w.order), .constant (Cell.ofReal p.latitude),
   .constant (Cell.ofReal p.longitude), .constant (Cell.ofReal p.altitudeMsl)]

/-- Deletes the waypoints of an obstacle. -/
def Session.deletePoints (s : Session) (id : Nat) : Except Cause Session := do
  let (s, _) ← s.storeChange (.delete (storeTarget "obstacle_waypoints") (some (columnIs "obstacle_id" (signed id))))
  return s

/-- Deletes an obstacle; also how many rows went. -/
def Session.deleteObstacle (s : Session) (id : Nat) : Except Cause (Session × Nat) := do
  let (s, o) ← s.storeChange (.delete (storeTarget "moving_obstacles") (some (columnIs "id" (signed id))))
  return (s, o.changes)

/-- Inserts an obstacle row for a definition: under `key`, or with none under a new id when it is
0. -/
def Session.insertObstacle (s : Session) (key : Int) (d : Definition) : Except Cause (Session × Outcome) :=
  let columns := (if key = 0 then [] else ["id"]) ++ ["created_at", "updated_at", "name", "speed_avg", "sphere_radius"]
  let values := (if key = 0 then [] else [Expr.constant (.integer key)]) ++
    [.constant (.text changeTime), .constant (.text changeTime), .constant (.text d.name),
     .constant (Cell.ofReal d.speed), .constant (Cell.ofReal d.radius)]
  s.storeChange (.insert .abort (storeTarget "moving_obstacles") (some columns) (.values [values]) [])

/-- Inserts the waypoint rows of an obstacle in one statement, if it has any. -/
def Session.insertPoints (s : Session) (owner : Int) (ws : List (Waypoint Float)) : Except Cause Session :=
  if ws.isEmpty then .ok s else do
    let (s, _) ← s.storeChange (.insert .abort (storeTarget "obstacle_waypoints")
      (some ["obstacle_id", "order", "latitude", "longitude", "altitude_msl"]) (.values (ws.map (waypointValues owner))) [])
    return s

/-- Creates a definition: its obstacle row, under its id or with none under a new one, then its
waypoint rows under the id the insert gives back, which must read as unsigned; also returns that
id. When a trigger skipped the obstacle's insert, no id comes back, and the waypoints go under the id
the definition had. -/
def Session.create (s : Session) (d : Definition) : Except Cause (Session × Nat) := do
  let key := signed d.id
  let (s, o) ← s.insertObstacle key d
  let id := o.inserted.headD key
  if id < 0 then throw (.scan ⟨0, "id", .integer id, "uint", .malformed⟩)
  let s ← s.insertPoints id d.waypoints
  return (s, id.toNat)

/-- Reads a value into a time field: null is the zero time, a text must read as a time. -/
def readTime (column : Nat) (name : String) (c : Cell) : Except Cause Unit :=
  match c with
  | .null => .ok ()
  | .text bs => if readsAsTime bs then .ok () else .error (.unsupported ⟨column, name, "string"⟩)
  | .integer _ => .error (.unsupported ⟨column, name, "int64"⟩)
  | .real _ => .error (.unsupported ⟨column, name, "float64"⟩)
  | .blob _ => .error (.unsupported ⟨column, name, "[]uint8"⟩)

/-- The fields of an obstacle row, read column by column under the names the
query reports, each name taking the value in its place (null past the row's
end): its id, name, speed and radius. -/
def readObstacle (names : List String) (r : Row) : Except Cause (Nat × List UInt8 × Float × Float) := do
  let mut id : Nat := 0
  let mut name : List UInt8 := []
  let mut speed : Float := 0
  let mut radius : Float := 0
  for (n, i) in names.zipIdx do
    let v := r.get i
    let col : Column := ⟨i, n⟩
    match Text.lowerAscii n with
    | "id" => id ← (v.readNat col).mapError Cause.scan
    | "created_at" | "updated_at" => readTime i n v
    | "name" => name := v.readBytes
    | "speed_avg" => speed ← (v.readFloat col).mapError Cause.scan
    | "sphere_radius" => radius ← (v.readFloat col).mapError Cause.scan
    | _ => pure ()
  return (id, name, speed, radius)

/-- The owner and the waypoint of a waypoint row, read column by column. -/
def readWaypoint (t : Table) (r : Row) : Except Cause (Nat × Waypoint Float) := do
  let mut owner : Nat := 0
  let mut order : Int := 0
  let mut latitude : Float := 0
  let mut longitude : Float := 0
  let mut altitude : Float := 0
  for (c, i) in t.columns.zipIdx do
    let v := r.get i
    let col : Column := ⟨i, c.name⟩
    match Text.lowerAscii c.name with
    | "id" => let _ ← (v.readNat col).mapError Cause.scan
    | "obstacle_id" => owner ← (v.readNat col).mapError Cause.scan
    | "order" => order ← (v.readInt col).mapError Cause.scan
    | "latitude" => latitude ← (v.readFloat col).mapError Cause.scan
    | "longitude" => longitude ← (v.readFloat col).mapError Cause.scan
    | "altitude_msl" => altitude ← (v.readFloat col).mapError Cause.scan
    | _ => pure ()
  return (owner, ⟨order, ⟨latitude, longitude, altitude⟩⟩)

/-- The value of a row in a column of its table, by name. -/
def Table.cellOf (t : Table) (r : Row) (column : String) : Cell :=
  match t.columnIndex? column with
  | some i => r.get i
  | none => if isRowIdName column then .integer r.id else .null

/-- A table of the store, or the engine's fault when it is gone. -/
def Database.storeTable (db : Database) (name : String) : Except Cause Table :=
  match db.table? name with
  | some t => .ok t
  | none => .error (Fault.logic ("no such table: " ++ name)).cause

/-- Fails as the store's query does when a table lacks a column it names. -/
def Table.needs (t : Table) (shown column : String) : Except Cause Unit :=
  if (t.columnIndex? column).isSome || isRowIdName column then .ok ()
  else .error (Fault.logic ("no such column: " ++ shown)).cause

/-- Waypoint rows by `order`, rows of equal order by id. -/
def byOrder (t : Table) (rows : List Row) : List Row :=
  rows.mergeSort fun a b => (t.cellOf a "order").compare (t.cellOf b "order") != .gt

/-- The column names a query of a table reports: those of the table as the
connection last read it, when another connection may have changed it since
(`cached`), else the table's own. A statement is compiled against the schema
the connection holds, and only when it first runs does the connection find
that the schema changed and compile it again; the names were taken before. -/
def columnNamesSeen (cached : Option Database) (t : Table) : List String :=
  match cached.bind (·.table? t.name) with
  | some old => old.columns.map (·.name)
  | none => t.columns.map (·.name)

/-- The definitions of some obstacle rows, reading the rows first and then the
waypoints of them all by order; the rows are read under the names the
connection's possibly outdated schema gives. -/
def Database.definitions (db : Database) (cached : Option Database) (t : Table) (rows : List Row) :
    Except Cause (List Definition) := do
  let heads ← rows.mapM (readObstacle (columnNamesSeen cached t))
  if heads.isEmpty then return []
  let w ← db.storeTable "obstacle_waypoints"
  w.needs "obstacle_waypoints.obstacle_id" "obstacle_id"
  w.needs "order" "order"
  let owners := heads.map fun (id, _, _, _) => Cell.integer (signed id)
  let mine := w.rows.filter fun r =>
    let v := w.cellOf r "obstacle_id"
    owners.any fun o => compareUnder (some .integer) .binary v o == .eq
  let points ← (byOrder w mine).mapM (readWaypoint w)
  return heads.map fun (id, name, speed, radius) =>
    ⟨id, name, speed, radius, (points.filter (·.1 == id)).map Prod.snd⟩

/-- Every definition, by id; `cached` is the schema the connection last read
if another connection may have changed it since. -/
def Database.list (db : Database) (cached : Option Database) : Except Cause (List Definition) := do
  let t ← db.storeTable "moving_obstacles"
  t.needs "id" "id"
  db.definitions cached t t.rows

/-- The definition of an obstacle, if there is one; `cached` as for `Database.list`. -/
def Database.first (db : Database) (cached : Option Database) (id : Nat) : Except Cause (Option Definition) := do
  let t ← db.storeTable "moving_obstacles"
  t.needs "moving_obstacles.id" "id"
  match t.rows.find? fun r => compareUnder (some .integer) .binary (t.cellOf r "id") (.integer (signed id)) == .eq with
  | none => return none
  | some row => return (← db.definitions cached t [row]).head?

/-- Runs SQL text on the database through a connection of its own. -/
def Database.run (db : Database) (sql : String) : Except Cause Database :=
  match ({ db } : Session).run sql with
  | (s, none) => .ok s.close
  | (_, some f) => .error f.cause

/-- Runs SQL texts in turn on one connection of their own: the first failure
stops the run, the statements before it keep their changes, and a transaction
left open is rolled back. -/
def Database.runAll (db : Database) (texts : List String) : Database × Option Cause :=
  let rec go (s : Session) : List String → Session × Option Cause
    | [] => (s, none)
    | sql :: rest =>
      match s.run sql with
      | (s, none) => go s rest
      | (s, some f) => (s, some f.cause)
  let (s, c) := go { db } texts
  (s.close, c)

/-- A connection to the store: the database, whether it is still open, and
the schema it last read when statements through a second connection may have
changed the schema since. -/
structure Connection where
  db : Database := Database.tracker
  isOpen : Bool := true
  cached : Option Database := none

/-- The store's database as the library the store runs on: a transaction is a connection of its
own that enforces foreign keys, and each operation on an open store reads the schema again. -/
def Connection.library : Library Connection Session where
  begin s := if s.isOpen then .ok { db := s.db, enforceKeys := true } else .error .closed
  commit s tx := { s with db := tx.db, cached := none }
  rollback s := { s with cached := none }
  deletePoints := Session.deletePoints
  deleteObstacle := Session.deleteObstacle
  create := Session.create
  find s := if s.isOpen then ({ s with cached := none }, s.db.list s.cached) else (s, .error .closed)
  first s id := if s.isOpen then ({ s with cached := none }, s.db.first s.cached id) else (s, .error .closed)

/-- Saves a definition: the store afterwards, and the id. -/
def Connection.save (s : Connection) (d : Definition) : Connection × Except Failure Nat :=
  Connection.library.save s d

/-- Deletes an obstacle. -/
def Connection.remove (s : Connection) (id : Nat) : Connection × Except Failure Unit :=
  Connection.library.remove s id

/-- Every definition, by id. -/
def Connection.list (s : Connection) : Connection × Except Failure (List Definition) :=
  Connection.library.list s

/-- One definition. -/
def Connection.get (s : Connection) (id : Nat) : Connection × Except Failure Definition :=
  Connection.library.get s id

/-- The moving obstacles of every definition. -/
def Connection.load (s : Connection) : Connection × Except Failure (List (MovingObstacle Float)) :=
  Connection.library.load s

/-- Runs SQL texts through a second connection (`Database.runAll`); the
store's own connection keeps the schema it last read. -/
def Connection.exec (s : Connection) (texts : List String) : Connection × Option Cause :=
  let (db, c) := s.db.runAll texts
  ({ s with db, cached := some (s.cached.getD s.db) }, c)

/-- Closes the store; closing twice is harmless. -/
def Connection.close (s : Connection) : Connection := { s with isOpen := false }

end Airspace.Store
