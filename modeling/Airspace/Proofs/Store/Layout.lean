import Mathlib
import Airspace.Store.Database

/-!
# The obstacle store's tables

The store's database keeps the three tables the tracker makes: the obstacles, the largest row
ids of the tables with growing ids, and the waypoints, with the index of waypoints by
obstacle. Nothing the store does adds a table, an index, a trigger or a view, so every state
it reaches is this layout with some rows in each table (`Database.storeOf`).

This module gives, once, what the engine finds when it looks into that layout: its tables by
name, the columns of each, the foreign key from a waypoint to its obstacle and that nothing
else refers to a table. The proofs of the store's statements cite these facts and never unfold
the engine's lookups. It also names the rows the store writes: an obstacle's row
(`obstacleRow`), a waypoint's (`StoredPoint.row`) and the rows that remember the largest ids
(`sequenceRows`).
-/

namespace Airspace.Store

open Airspace.Text Airspace.Geo

/-! ## The layout -/

/-- The foreign key from a waypoint to its obstacle, which goes with the obstacle. -/
def ownerKey : ForeignKey := ⟨["obstacle_id"], "moving_obstacles", ["id"], .cascade, .none⟩

/-- The obstacle table holding some rows. -/
@[simps] def obstaclesHolding (rows : List Row) : Table :=
  { name := "moving_obstacles", columns := obstacleTable.columns, rows, autoincrement := true }

/-- The sequence table holding some rows. -/
@[simps] def sequencesHolding (rows : List Row) : Table :=
  { name := sequenceTableName, columns := sequenceTable.columns, rows }

/-- The waypoint table holding some rows. -/
@[simps] def waypointsHolding (rows : List Row) : Table :=
  { name := "obstacle_waypoints", columns := waypointTable.columns, rows, autoincrement := true,
    foreignKeys := [ownerKey] }

/-- The store's database with its tables holding these rows. -/
@[simps] def Database.storeOf (obstacles sequences waypoints : List Row) : Database :=
  { tables := [obstaclesHolding obstacles, sequencesHolding sequences, waypointsHolding waypoints]
    indexes := [waypointOwnerIndex] }

section Database

variable (os ss ws : List Row)

theorem table?_obstacles :
    (Database.storeOf os ss ws).table? "moving_obstacles" = some (obstaclesHolding os) := by
  have h : sameName "moving_obstacles" "moving_obstacles" = true := by decide
  simp only [Database.table?, Database.storeOf, List.find?, obstaclesHolding_name, h]

theorem table?_sequences :
    (Database.storeOf os ss ws).table? sequenceTableName = some (sequencesHolding ss) := by
  have h₁ : sameName "moving_obstacles" sequenceTableName = false := by decide
  have h₂ : sameName sequenceTableName sequenceTableName = true := by decide
  simp only [Database.table?, Database.storeOf, List.find?, obstaclesHolding_name,
    sequencesHolding_name, h₁, h₂]

theorem table?_waypoints :
    (Database.storeOf os ss ws).table? "obstacle_waypoints" = some (waypointsHolding ws) := by
  have h₁ : sameName "moving_obstacles" "obstacle_waypoints" = false := by decide
  have h₂ : sameName sequenceTableName "obstacle_waypoints" = false := by decide
  have h₃ : sameName "obstacle_waypoints" "obstacle_waypoints" = true := by decide
  simp only [Database.table?, Database.storeOf, List.find?, obstaclesHolding_name,
    sequencesHolding_name, waypointsHolding_name, h₁, h₂, h₃]

theorem putTable_obstacles (os' : List Row) :
    (Database.storeOf os ss ws).putTable (obstaclesHolding os') = Database.storeOf os' ss ws := by
  have h₁ : sameName "moving_obstacles" "moving_obstacles" = true := by decide
  have h₂ : sameName sequenceTableName "moving_obstacles" = false := by decide
  have h₃ : sameName "obstacle_waypoints" "moving_obstacles" = false := by decide
  simp only [Database.putTable, Database.storeOf, List.map, obstaclesHolding_name,
    sequencesHolding_name, waypointsHolding_name, h₁, h₂, h₃]
  rfl

theorem putTable_sequences (ss' : List Row) :
    (Database.storeOf os ss ws).putTable (sequencesHolding ss') = Database.storeOf os ss' ws := by
  have h₁ : sameName "moving_obstacles" sequenceTableName = false := by decide
  have h₂ : sameName sequenceTableName sequenceTableName = true := by decide
  have h₃ : sameName "obstacle_waypoints" sequenceTableName = false := by decide
  simp only [Database.putTable, Database.storeOf, List.map, obstaclesHolding_name,
    sequencesHolding_name, waypointsHolding_name, h₁, h₂, h₃]
  rfl

theorem putTable_waypoints (ws' : List Row) :
    (Database.storeOf os ss ws).putTable (waypointsHolding ws') = Database.storeOf os ss ws' := by
  have h₁ : sameName "moving_obstacles" "obstacle_waypoints" = false := by decide
  have h₂ : sameName sequenceTableName "obstacle_waypoints" = false := by decide
  have h₃ : sameName "obstacle_waypoints" "obstacle_waypoints" = true := by decide
  simp only [Database.putTable, Database.storeOf, List.map, obstaclesHolding_name,
    sequencesHolding_name, waypointsHolding_name, h₁, h₂, h₃]
  rfl

theorem viewTarget?_storeOf (name : String) : (Database.storeOf os ss ws).viewTarget? name = none := by
  unfold Database.viewTarget?
  split <;> rfl

theorem checkOrder_storeOf (t : Table) : (Database.storeOf os ss ws).checkOrder t [] = [.rowId] := rfl

theorem referencesTo_obstacles :
    (Database.storeOf os ss ws).referencesTo "moving_obstacles" = [(waypointsHolding ws, ownerKey)] := by
  have h : sameName "moving_obstacles" "moving_obstacles" = true := by decide
  simp [Database.referencesTo, Database.storeOf, ownerKey, h]

theorem referencesTo_waypoints : (Database.storeOf os ss ws).referencesTo "obstacle_waypoints" = [] := by
  have h : sameName "moving_obstacles" "obstacle_waypoints" = false := by decide
  simp [Database.referencesTo, Database.storeOf, ownerKey, h]

end Database

/-! ## The columns of the two tables -/

section Columns

variable (rows : List Row)

theorem waypointsHolding_rowIdColumn? : (waypointsHolding rows).rowIdColumn? = some 0 := rfl

theorem obstaclesHolding_generatedOrder : (obstaclesHolding rows).generatedOrder = .ok [] := rfl
theorem waypointsHolding_generatedOrder : (waypointsHolding rows).generatedOrder = .ok [] := rfl

/-- A table none of whose columns is strict holds every row. -/
theorem strictFault?_of_lax {t : Table} (h : ∀ c ∈ t.columns, c.strict = false) (cells : List Cell) :
    t.strictFault? cells = none := by
  unfold Table.strictFault?
  rw [List.findSome?_eq_none_iff]
  rintro ⟨c, v⟩ hm
  simp [h c (List.of_mem_zip hm).1]

theorem obstaclesHolding_strictFault? (cells : List Cell) : (obstaclesHolding rows).strictFault? cells = none := by
  have h : ∀ c ∈ obstacleTable.columns, c.strict = false := by decide
  exact strictFault?_of_lax h cells

theorem waypointsHolding_strictFault? (cells : List Cell) : (waypointsHolding rows).strictFault? cells = none := by
  have h : ∀ c ∈ waypointTable.columns, c.strict = false := by decide
  exact strictFault?_of_lax h cells

/-- An obstacle's id is its first column, an integer one. -/
theorem obstaclesHolding_columnIndex_id : (obstaclesHolding rows).columnIndex? "id" = some 0 := by
  have h : obstacleTable.columnIndex? "id" = some 0 := by decide
  exact h

/-- A waypoint's owner is its second column, an integer one. -/
theorem waypointsHolding_columnIndex_owner : (waypointsHolding rows).columnIndex? "obstacle_id" = some 1 := by
  have h : waypointTable.columnIndex? "obstacle_id" = some 1 := by decide
  exact h

theorem obstaclesHolding_affinity_id : (obstaclesHolding rows).columns[0]?.map TableColumn.affinity = some .integer := by
  have h : obstacleTable.columns[0]?.map TableColumn.affinity = some .integer := by decide
  exact h

theorem waypointsHolding_affinity_owner :
    (waypointsHolding rows).columns[1]?.map TableColumn.affinity = some .integer := by
  have h : waypointTable.columns[1]?.map TableColumn.affinity = some .integer := by decide
  exact h

/-- Every text of the store's tables compares bytewise. -/
theorem obstaclesHolding_collation : ∀ c ∈ (obstaclesHolding rows).columns, c.collation = .binary := by
  have h : ∀ c ∈ obstacleTable.columns, c.collation = .binary := by decide
  exact h

theorem waypointsHolding_collation : ∀ c ∈ (waypointsHolding rows).columns, c.collation = .binary := by
  have h : ∀ c ∈ waypointTable.columns, c.collation = .binary := by decide
  exact h

end Columns

/-! ## The rows the store writes -/

/-- An obstacle's cells after its id, as the store writes them: the time of the change as its
creation and update time, its name, and its speed and radius as a real column keeps a float. -/
def obstacleCells (name : List UInt8) (speed radius : Float) : List Cell :=
  [.text changeTime, .text changeTime, .text name, Cell.ofReal speed, Cell.ofReal radius]

/-- An obstacle's row as the store writes it: its id in the row-id column, then its cells. -/
def obstacleRow (id : Int) (name : List UInt8) (speed radius : Float) : Row :=
  ⟨id, .integer id :: obstacleCells name speed radius⟩

/-- A waypoint as the store keeps it: its row id, the id of its obstacle and the waypoint as
it was given. -/
structure StoredPoint where
  id : Int
  owner : Int
  point : Waypoint Float

/-- A waypoint's cells after its id, as the store writes them: the id of its obstacle, its order,
and its position as a real column keeps a float. -/
def pointCells (owner : Int) (w : Waypoint Float) : List Cell :=
  [.integer owner, .integer w.order, Cell.ofReal w.position.latitude, Cell.ofReal w.position.longitude,
    Cell.ofReal w.position.altitudeMsl]

/-- A waypoint's row as the store writes it. -/
def StoredPoint.row (p : StoredPoint) : Row := ⟨p.id, .integer p.id :: pointCells p.owner p.point⟩

@[simp] theorem StoredPoint.row_id (p : StoredPoint) : p.row.id = p.id := rfl
@[simp] theorem StoredPoint.row_owner (p : StoredPoint) : p.row.get 1 = .integer p.owner := rfl
@[simp] theorem StoredPoint.row_order (p : StoredPoint) : p.row.get 2 = .integer p.point.order := rfl

/-- The row of the sequence table that remembers a table's largest row id. -/
def sequenceRow (id : Int) (table : String) (seq : Int) : Row := ⟨id, [.text (bytesOf table), .integer seq]⟩

/-- The sequence table once the obstacle table has used ids up to `obstacles` and the
waypoint table up to `waypoints`: a table gets its row when it takes its first id, and the
obstacle table always takes one before the waypoint table does. -/
def sequenceRows (obstacles waypoints : Nat) : List Row :=
  (if obstacles = 0 then [] else [sequenceRow 1 "moving_obstacles" obstacles]) ++
    (if waypoints = 0 then [] else [sequenceRow 2 "obstacle_waypoints" waypoints])

end Airspace.Store
