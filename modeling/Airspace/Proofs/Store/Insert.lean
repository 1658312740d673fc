import Mathlib
import Airspace.Proofs.Store.Step

/-!
# Inserting rows into the store

Both of the store's tables take their row ids from `sqlite_sequence` (`AUTOINCREMENT`): a new
row's id is one past the largest id the table has ever used, and every row that goes in with a
larger id than that raises the remembered one. On the store's layout the remembered ids are
`sequenceRows a b`, and this module shows that one inserted row turns them into
`sequenceRows (max a id) b` for an obstacle and `sequenceRows a (max b id)` for a waypoint; a
new id past the largest 64-bit integer is refused as a full database.

An insert goes through the engine's `insertRow`, which tries triggers, generated columns,
`NOT NULL` columns, checks and uniqueness before it stores the row. On the store's tables none
of these does anything but look (`insertRow_runs`), so the row is stored as the table's column
affinities keep the given values (`storeNewRow_obstacle`, `storeNewRow_waypoint`).
-/

namespace Airspace.Store

open Exec Airspace.Geo

/-! ## The remembered ids -/

section Sequences

variable (os ws : List Row) (a b : Nat)

theorem isText_sequenceRow_name (id seq : Int) (table name : String) :
    ((sequenceRow id table seq).get 0).isText (bytesOf name) = (bytesOf table == bytesOf name) := rfl

theorem waypoints_isText_obstacles :
    (bytesOf "moving_obstacles" == bytesOf "obstacle_waypoints") = false := by decide

theorem obstacles_isText_waypoints :
    (bytesOf "obstacle_waypoints" == bytesOf "moving_obstacles") = false := by decide

/-- The sequence row of the obstacle table, when it has taken an id. -/
theorem find?_sequenceRows_obstacles (ha : a ≠ 0) :
    (sequenceRows a b).find? (fun r => (r.get 0).isText (bytesOf "moving_obstacles")) =
      some (sequenceRow 1 "moving_obstacles" a) := by
  simp [sequenceRows, ha, isText_sequenceRow_name]

theorem find?_sequenceRows_obstacles_zero (hb : b = 0) :
    (sequenceRows 0 b).find? (fun r => (r.get 0).isText (bytesOf "moving_obstacles")) = none := by
  simp [sequenceRows, hb]

/-- The sequence row of the waypoint table, when it has taken an id. -/
theorem find?_sequenceRows_waypoints (hb : b ≠ 0) :
    (sequenceRows a b).find? (fun r => (r.get 0).isText (bytesOf "obstacle_waypoints")) =
      some (sequenceRow 2 "obstacle_waypoints" b) := by
  by_cases ha : a = 0 <;>
    simp [sequenceRows, ha, hb, isText_sequenceRow_name, waypoints_isText_obstacles]

theorem find?_sequenceRows_waypoints_zero :
    (sequenceRows a 0).find? (fun r => (r.get 0).isText (bytesOf "obstacle_waypoints")) = none := by
  by_cases ha : a = 0 <;>
    simp [sequenceRows, ha, isText_sequenceRow_name, waypoints_isText_obstacles]

@[simp] theorem sequenceOf_obstacles :
    (Database.storeOf os (sequenceRows a b) ws).sequenceOf "moving_obstacles" = a := by
  simp only [Database.sequenceOf, table?_sequences, sequencesHolding_rows]
  by_cases ha : a = 0
  · subst ha
    by_cases hb : b = 0 <;> simp [sequenceRows, hb, isText_sequenceRow_name, obstacles_isText_waypoints]
  · rw [find?_sequenceRows_obstacles a b ha]
    rfl

@[simp] theorem sequenceOf_waypoints :
    (Database.storeOf os (sequenceRows a b) ws).sequenceOf "obstacle_waypoints" = b := by
  simp only [Database.sequenceOf, table?_sequences, sequencesHolding_rows]
  by_cases hb : b = 0
  · subst hb
    rw [find?_sequenceRows_waypoints_zero]
    rfl
  · rw [find?_sequenceRows_waypoints a b hb]
    rfl

end Sequences

section Bump

variable {r : Run} {os ws : List Row} {a b : Nat}

theorem sequencesHolding_withRow (rows : List Row) (row : Row) :
    (sequencesHolding rows).withRow row = sequencesHolding (insertById row rows) := rfl

/-- The first id the store hands out gives the obstacle table its sequence row. -/
theorem insertById_sequences_first {n : Int} (hn : 0 < n) :
    insertById ⟨(sequencesHolding (sequenceRows 0 0)).lastId + 1, [.text (bytesOf "moving_obstacles"), .integer n]⟩
      (sequenceRows 0 0) = sequenceRows n.toNat 0 := by
  have hn' : n.toNat ≠ 0 := by omega
  simp [sequenceRows, sequencesHolding, Table.lastId, insertById, sequenceRow, hn']
  omega

/-- A larger obstacle id replaces the one the obstacle table's sequence row remembers. -/
theorem insertById_sequences_obstacles (ha : a ≠ 0) {n : Int} (hn : (a : Int) < n) :
    insertById ((sequenceRow 1 "moving_obstacles" a).set 1 (.integer n)) (sequenceRows a b) =
      sequenceRows n.toNat b := by
  have hn' : n.toNat ≠ 0 := by omega
  by_cases hb : b = 0 <;>
    simp [sequenceRows, ha, hb, hn', insertById, sequenceRow, Row.set] <;> omega

/-- The first waypoint id gives the waypoint table its sequence row, after the obstacle table's. -/
theorem insertById_sequences_waypoints_first (ha : a ≠ 0) {n : Int} (hn : 0 < n) :
    insertById ⟨(sequencesHolding (sequenceRows a 0)).lastId + 1, [.text (bytesOf "obstacle_waypoints"), .integer n]⟩
      (sequenceRows a 0) = sequenceRows a n.toNat := by
  have hn' : n.toNat ≠ 0 := by omega
  simp [sequenceRows, ha, sequencesHolding, Table.lastId, insertById, sequenceRow, hn']
  omega

/-- A larger waypoint id replaces the one the waypoint table's sequence row remembers. -/
theorem insertById_sequences_waypoints (hb : b ≠ 0) {n : Int} (hn : (b : Int) < n) :
    insertById ((sequenceRow 2 "obstacle_waypoints" b).set 1 (.integer n)) (sequenceRows a b) =
      sequenceRows a n.toNat := by
  have hn' : n.toNat ≠ 0 := by omega
  by_cases ha : a = 0 <;>
    simp [sequenceRows, ha, hb, hn', insertById, sequenceRow, Row.set] <;> omega

theorem Run.with_db_self {db : Database} (h : r.db = db) : { r with db } = r := by
  cases r
  simp_all

/-- An obstacle's row raises the id the obstacle table remembers to its own. When the obstacle
table takes its first id, its row is the sequence table's first. -/
theorem bumpSequence_obstacles (hdb : r.db = Database.storeOf os (sequenceRows a b) ws) (hab : b ≠ 0 → a ≠ 0)
    (id : Int) :
    Runs (bumpSequence "moving_obstacles" id) r ()
      { r with db := Database.storeOf os (sequenceRows (max a id.toNat) b) ws } := by
  unfold bumpSequence
  refine Runs.bind (runs_get r) ?_
  simp only [hdb, table?_sequences, sequencesHolding_rows]
  by_cases ha : a = 0
  · obtain rfl : b = 0 := by omega
    subst ha
    rw [find?_sequenceRows_obstacles_zero 0 rfl]
    by_cases hid : 0 < id
    · rw [if_pos hid]
      apply storeTable_runs
      rw [hdb, sequencesHolding_withRow, insertById_sequences_first hid, putTable_sequences, Nat.zero_max]
    · rw [if_neg hid, show max 0 id.toNat = 0 by omega, Run.with_db_self hdb]
      exact runs_pure r ()
  · rw [find?_sequenceRows_obstacles a b ha]
    dsimp only
    rw [show ((sequenceRow 1 "moving_obstacles" a).get 1).intValue = a from rfl]
    by_cases hid : id > (a : Int)
    · rw [if_pos hid]
      apply storeTable_runs
      rw [hdb, sequencesHolding_withRow, insertById_sequences_obstacles ha hid, putTable_sequences,
        show max a id.toNat = id.toNat by omega]
    · rw [if_neg hid, show max a id.toNat = a by omega, Run.with_db_self hdb]
      exact runs_pure r ()

/-- A waypoint's row raises the id the waypoint table remembers to its own; the obstacle table
has taken an id before. -/
theorem bumpSequence_waypoints (hdb : r.db = Database.storeOf os (sequenceRows a b) ws) (ha : a ≠ 0)
    (id : Int) :
    Runs (bumpSequence "obstacle_waypoints" id) r ()
      { r with db := Database.storeOf os (sequenceRows a (max b id.toNat)) ws } := by
  unfold bumpSequence
  refine Runs.bind (runs_get r) ?_
  simp only [hdb, table?_sequences, sequencesHolding_rows]
  by_cases hb : b = 0
  · subst hb
    rw [find?_sequenceRows_waypoints_zero a]
    by_cases hid : 0 < id
    · rw [if_pos hid]
      apply storeTable_runs
      rw [hdb, sequencesHolding_withRow, insertById_sequences_waypoints_first ha hid, putTable_sequences,
        Nat.zero_max]
    · rw [if_neg hid, show max 0 id.toNat = 0 by omega, Run.with_db_self hdb]
      exact runs_pure r ()
  · rw [find?_sequenceRows_waypoints a b hb]
    dsimp only
    rw [show ((sequenceRow 2 "obstacle_waypoints" b).get 1).intValue = b from rfl]
    by_cases hid : id > (b : Int)
    · rw [if_pos hid]
      apply storeTable_runs
      rw [hdb, sequencesHolding_withRow, insertById_sequences_waypoints hb hid, putTable_sequences,
        show max b id.toNat = id.toNat by omega]
    · rw [if_neg hid, show max b id.toNat = b by omega, Run.with_db_self hdb]
      exact runs_pure r ()

end Bump

/-! ## New row ids -/

section NewRowId

variable {r : Run} {t : Table} {seq : Int}

/-- A table with growing ids whose remembered id is `seq`, with no row past it, gives a new row
the id after `seq`. -/
theorem newRowId_runs (hauto : t.autoincrement = true) (hseq : r.db.sequenceOf t.name = seq)
    (hlast : t.lastId ≤ seq) (hfit : seq < largestInt) : Runs (newRowId t) r (seq + 1) r := by
  unfold newRowId
  simp only [ge_iff_le, hauto, if_true]
  rw [if_neg (by omega)]
  refine Runs.bind (runs_get r) ?_
  rw [hseq, if_neg (by omega), show max (t.lastId + 1) (seq + 1) = seq + 1 by omega]
  exact runs_pure r _

/-- Once the remembered id is the largest 64-bit integer, a table with growing ids has no new id:
the database is full. -/
theorem newRowId_fails (hauto : t.autoincrement = true) (hseq : r.db.sequenceOf t.name = seq)
    (hfull : largestInt ≤ seq) : Fails (newRowId t) r .full r := by
  unfold newRowId
  simp only [ge_iff_le, hauto, if_true]
  by_cases hl : largestInt ≤ t.lastId
  · rw [if_pos hl]
    exact Fails.bind (fails_throw r _)
  · rw [if_neg hl]
    refine Fails.bind_of_runs (runs_get r) ?_
    rw [hseq, if_pos hfull]
    exact Fails.bind (fails_throw r _)

end NewRowId

/-! ## Storing a new row -/

section Store

variable {r : Run} {t : Table} {os ws : List Row} {a b : Nat}

/-- A row with a value in every column that refuses null is kept as it is. -/
theorem fillNotNull_runs (r : Run) (t : Table) (res : Resolution) (cells : List Cell)
    (h : ∀ p ∈ t.columns.zipIdx, (p.1.notNull && !p.1.isRowId && (cells.getD p.2 .null).isNull) = false) :
    Runs (fillNotNull t res cells) r (some cells) r := by
  unfold fillNotNull
  refine Runs.bind (runs_forIn_of_fixed fun p hp => ?_) (runs_pure r _)
  obtain ⟨c, i⟩ := p
  dsimp only
  rw [h (c, i) hp]
  exact runs_pure r _

theorem keepTypes_runs {cells : List Cell} (h : t.strictFault? cells = none) : Runs (keepTypes t cells) r () r := by
  unfold keepTypes
  rw [h]
  exact runs_pure r ()

/-- A new row whose every reference has its parent counts no reference without one. -/
theorem checkParents_runs {row : Row}
    (h : ∀ fk ∈ t.foreignKeys,
      (!(t.valuesOf row fk.columns).any Cell.isNull && !r.db.parentHas fk (t.valuesOf row fk.columns)) = false) :
    Runs (checkParents t row) r () r := by
  unfold checkParents
  refine Runs.bind (runs_get r) ?_
  split
  · refine Runs.bind (runs_forIn_of_fixed fun fk hfk => ?_) (runs_pure r ())
    dsimp only
    rw [h fk hfk]
    exact runs_pure r _
  · exact runs_pure r ()

/-- The state once a statement of the store has inserted a row: the store's rows replaced, the row
counted as changed, its id noted as the last inserted and reported as one the statement
inserted. -/
def Run.added (r : Run) (os ss ws : List Row) (id : Int) : Run :=
  { r with db := Database.storeOf os ss ws, changes := r.changes + 1,
           counters := { r.counters with lastRowId := id }, inserted := r.inserted ++ [id] }

theorem Run.OnStore.added (h : r.OnStore os ss ws) (os' ss' ws' : List Row) (id : Int) :
    (r.added os' ss' ws' id).OnStore os' ss' ws' :=
  ⟨rfl, h.temporary, h.enforceKeys, h.pendingKeys⟩

@[simp] theorem Run.added_inserted (r : Run) (os ss ws : List Row) (id : Int) :
    (r.added os ss ws id).inserted = r.inserted ++ [id] := rfl

/-- An obstacle's row goes into the obstacle table in its place by id, and raises the id the
table remembers. -/
theorem storeNewRow_obstacle (h : r.OnStore os (sequenceRows a b) ws) (hab : b ≠ 0 → a ≠ 0) (row : Row) :
    Runs (storeNewRow (obstaclesHolding os) true row) r ()
      (r.added (insertById row os) (sequenceRows (max a row.id.toNat) b) ws row.id) := by
  unfold storeNewRow
  refine Runs.bind (keepTypes_runs (obstaclesHolding_strictFault? os _)) ?_
  refine Runs.bind (checkParents_runs (by simp)) ?_
  have hput : r.db.putTable ((obstaclesHolding os).withRow row) =
      Database.storeOf (insertById row os) (sequenceRows a b) ws := by
    rw [h.db]
    exact putTable_obstacles os _ ws _
  refine Runs.bind (storeTable_runs hput) ?_
  refine Runs.bind countChange_runs (Runs.bind (runs_modify _ _) ?_)
  refine Runs.bind (runs_modify _ _) ?_
  exact bumpSequence_obstacles rfl hab row.id

/-- A waypoint's owner is a parent when the obstacle table has a row with its id. -/
theorem parentHas_ownerKey (os ss ws : List Row) (owner : Int) :
    (Database.storeOf os ss ws).parentHas ownerKey [.integer owner] = ((obstaclesHolding os).row? owner).isSome := by
  have hkey : (obstaclesHolding os).keyIsRowId ownerKey.parentKey = true := rfl
  simp only [Database.parentHas, show ownerKey.parent = "moving_obstacles" from rfl, table?_obstacles, hkey,
    if_true]
  rfl

/-- A waypoint's row whose obstacle is stored goes into the waypoint table in its place by id, and
raises the id the table remembers. -/
theorem storeNewRow_waypoint (h : r.OnStore os (sequenceRows a b) ws) (ha : a ≠ 0) (p : StoredPoint)
    (hparent : ((obstaclesHolding os).row? p.owner).isSome) :
    Runs (storeNewRow (waypointsHolding ws) true p.row) r ()
      (r.added os (sequenceRows a (max b p.id.toNat)) (insertById p.row ws) p.id) := by
  have hvalues : (waypointsHolding ws).valuesOf p.row ownerKey.columns = [.integer p.owner] := rfl
  have hput : r.db.putTable ((waypointsHolding ws).withRow p.row) =
      Database.storeOf os (sequenceRows a b) (insertById p.row ws) := by
    rw [h.db]
    exact putTable_waypoints os _ ws _
  unfold storeNewRow
  refine Runs.bind (keepTypes_runs (waypointsHolding_strictFault? ws _)) ?_
  refine Runs.bind (checkParents_runs ?_) ?_
  · simp [hvalues, h.db, parentHas_ownerKey, hparent, Cell.isNull]
  refine Runs.bind (storeTable_runs hput) ?_
  refine Runs.bind countChange_runs (Runs.bind (runs_modify _ _) ?_)
  refine Runs.bind (runs_modify _ _) ?_
  exact bumpSequence_waypoints rfl ha p.id

end Store

/-! ## One row through the engine -/

section InsertRow

variable {r : Run} {os ss ws : List Row} {t : Table}

theorem passesChecks_runs (hchecks : t.checks = []) (scope : Scope) (res : Resolution) (row : Row) :
    Runs (passesChecks t scope res row) r true r := by
  unfold passesChecks
  rw [hchecks]
  exact runs_pure r true

/-- A row goes into a table of the store's layout when nothing the engine tries on the way stops
it: no trigger fires, no column is generated, the new row fills the columns that refuse null, the
table has no checks, and no stored row has the new id. The only uniqueness to check is the row id's,
and no row has the new id. -/
theorem insertRow_runs {os' ss' ws' : List Row} {t' : Table} {cells filled : List Cell} {id : Int} {r' : Run}
    (h : r.OnStore os ss ws) (fuel : Nat) (active : List String) (scope : Scope) (into : Target)
    (given : List (Option Slot × Cell))
    (ht : r.db.table? into.name = some t) (hcells : t.newCells given = .ok cells)
    (hgen : t.generatedOrder = .ok [])
    (hid : Runs (rowIdFor t (t.givenKey given)) r id r)
    (hfill : Runs (fillNotNull t .abort (t.withIdCell cells id)) r (some filled) r)
    (hchecks : t.checks = []) (hfree : t.row? id = none)
    (hstore : Runs (storeNewRow t true ⟨id, filled⟩) r () r')
    (h' : r'.OnStore os' ss' ws') (ht' : r'.db.table? into.name = some t') :
    Runs (insertRow (fuel + 3) active scope true into given .abort []) r () r' := by
  rw [insertRow]
  refine Runs.bind (currentTable_runs ht) ?_
  rw [hcells]
  refine Runs.bind (runs_liftFault r cells) ?_
  rw [hgen]
  refine Runs.bind (runs_liftFault r []) ?_
  refine Runs.bind (runs_get r) ?_
  rw [firing_eq_nil h.temporary h.triggers]
  simp only [List.isEmpty_nil, Bool.not_true, Bool.false_eq_true, if_false]
  refine Runs.bind (currentTable_runs ht) (Runs.bind hid ?_)
  refine Runs.bind hfill ?_
  refine Runs.bind (passesChecks_runs hchecks scope .abort _) ?_
  simp only [if_true]
  refine Runs.bind (runs_get r) ?_
  rw [h.db, checkOrder_storeOf]
  have habort : (Resolution.abort == Resolution.replace) = false := rfl
  simp only [habort, Bool.false_and, Bool.false_eq_true, if_false]
  refine Runs.bind (runs_forIn_of_fixed fun c hc => ?_) ?_
  · obtain rfl : c = .rowId := List.mem_singleton.mp hc
    refine Runs.bind (currentTable_runs ht) ?_
    simp only [Table.clash?, hfree]
    exact Runs.bind (runs_liftFault r none) (runs_pure r _)
  · refine Runs.bind (currentTable_runs ht) (Runs.bind hstore ?_)
    exact Runs.bind (fireTriggers_runs ht' h'.temporary h'.triggers fuel _ _ _ _) (runs_pure r' ())

/-- An insert whose new row gets no id fails as getting the id does, before anything changes. -/
theorem insertRow_fails_of_rowIdFor {cells : List Cell} {f : Fault}
    (h : r.OnStore os ss ws) (fuel : Nat) (active : List String) (scope : Scope) (into : Target)
    (given : List (Option Slot × Cell))
    (ht : r.db.table? into.name = some t) (hcells : t.newCells given = .ok cells)
    (hgen : t.generatedOrder = .ok []) (hid : Fails (rowIdFor t (t.givenKey given)) r f r) :
    Fails (insertRow (fuel + 3) active scope true into given .abort []) r f r := by
  rw [insertRow]
  refine Fails.bind_of_runs (currentTable_runs ht) ?_
  rw [hcells]
  refine Fails.bind_of_runs (runs_liftFault r cells) ?_
  rw [hgen]
  refine Fails.bind_of_runs (runs_liftFault r []) ?_
  refine Fails.bind_of_runs (runs_get r) ?_
  rw [firing_eq_nil h.temporary h.triggers]
  simp only [List.isEmpty_nil, Bool.not_true, Bool.false_eq_true, if_false]
  exact Fails.bind_of_runs (currentTable_runs ht) (Fails.bind hid)

end InsertRow

/-! ## The rows the store inserts -/

section Rows

variable {r : Run} {os ws : List Row} {a b : Nat}

/-- A real column keeps a float as the store hands it over. The zero kept is the positive one,
which is no NaN and equals zero. -/
theorem keep_real_ofReal (x : Float) : Cell.keep .real (Cell.ofReal x) = Cell.ofReal x := by
  unfold Cell.ofReal
  by_cases hn : x.isNaN
  · rw [if_pos hn]
    rfl
  · rw [if_neg hn]
    by_cases hz : (x == 0) = true
    · have h0 : (0 : Float).isNaN = false := rfl
      rw [if_pos hz]
      simp only [Cell.keep, Cell.ofReal, h0, Bool.false_eq_true, if_false, ite_self]
    · rw [if_neg hz]
      simp only [Cell.keep, Cell.ofReal, hn, hz, Bool.false_eq_true, if_false]

/-- A date column keeps the store's time of change as its text: the text is no number. -/
theorem keep_numeric_changeTime : Cell.keep .numeric (.text changeTime) = .text changeTime := rfl

/-- The slots and values of an obstacle's cells after its id, as the store's insert names them. -/
def obstacleGiven (name : List UInt8) (speed radius : Float) : List (Option Slot × Cell) :=
  [(some (.column 1), .text changeTime), (some (.column 2), .text changeTime), (some (.column 3), .text name),
    (some (.column 4), Cell.ofReal speed), (some (.column 5), Cell.ofReal radius)]

/-- The slots and values of a waypoint's cells after its id. -/
def pointGiven (owner : Int) (w : Waypoint Float) : List (Option Slot × Cell) :=
  [(some (.column 1), .integer owner), (some (.column 2), .integer w.order),
    (some (.column 3), Cell.ofReal w.position.latitude), (some (.column 4), Cell.ofReal w.position.longitude),
    (some (.column 5), Cell.ofReal w.position.altitudeMsl)]

section Columns

/-- A column that is not strict keeps values by the affinity its declared type names. -/
theorem affinity_of_lax {c : TableColumn} (h : c.strict = false) : c.affinity = affinityOfType c.type := by
  simp [TableColumn.affinity, h]

@[simp] theorem affinityOfType_datetime : affinityOfType "datetime" = .numeric := by decide
@[simp] theorem affinityOfType_text : affinityOfType "text" = .text := by decide
@[simp] theorem affinityOfType_real : affinityOfType "real" = .real := by decide
@[simp] theorem affinityOfType_integer : affinityOfType "integer" = .integer := by decide

end Columns

@[simp] theorem keep_text_text (bs : List UInt8) : Cell.keep .text (.text bs) = .text bs := rfl

@[simp] theorem keep_integer_integer (n : Int) : Cell.keep .integer (.integer n) = .integer n := rfl

theorem newCells_obstacle_given (os : List Row) (key : Int) (name : List UInt8) (speed radius : Float) :
    (obstaclesHolding os).newCells ((some (.column 0), .integer key) :: obstacleGiven name speed radius) =
      .ok (.integer key :: obstacleCells name speed radius) := by
  simp [Table.newCells, obstaclesHolding, obstacleTable, idColumn, plainColumn, givenFor, List.zipIdx,
    obstacleGiven, obstacleCells, affinity_of_lax, keep_real_ofReal, keep_numeric_changeTime]
  rfl

theorem newCells_obstacle_new (os : List Row) (name : List UInt8) (speed radius : Float) :
    (obstaclesHolding os).newCells (obstacleGiven name speed radius) = .ok (.null :: obstacleCells name speed radius) := by
  simp [Table.newCells, obstaclesHolding, obstacleTable, idColumn, plainColumn, givenFor, List.zipIdx,
    obstacleGiven, obstacleCells, affinity_of_lax, keep_real_ofReal, keep_numeric_changeTime,
    TableColumn.defaultValue]

theorem newCells_point (ws : List Row) (owner : Int) (w : Waypoint Float) :
    (waypointsHolding ws).newCells (pointGiven owner w) = .ok (.null :: pointCells owner w) := by
  simp [Table.newCells, waypointsHolding, waypointTable, idColumn, plainColumn, givenFor, List.zipIdx,
    pointGiven, pointCells, affinity_of_lax, keep_real_ofReal, TableColumn.defaultValue]

theorem table?_obstacles_of (h : r.OnStore os ss ws) :
    r.db.table? (storeTarget "moving_obstacles").name = some (obstaclesHolding os) := by
  rw [h.db]
  exact table?_obstacles os ss ws

theorem table?_waypoints_of (h : r.OnStore os ss ws) :
    r.db.table? (storeTarget "obstacle_waypoints").name = some (waypointsHolding ws) := by
  rw [h.db]
  exact table?_waypoints os ss ws

/-- An obstacle's row under an id the statement gives, which no row has: it goes in with that id,
which the obstacle table remembers if it is the largest yet. -/
theorem insertRow_obstacle_given (h : r.OnStore os (sequenceRows a b) ws) (hab : b ≠ 0 → a ≠ 0) {key : Int}
    (hfree : (obstaclesHolding os).row? key = none) (fuel : Nat) (active : List String) (scope : Scope)
    (name : List UInt8) (speed radius : Float) :
    Runs (insertRow (fuel + 3) active scope true (storeTarget "moving_obstacles")
        ((some (.column 0), .integer key) :: obstacleGiven name speed radius) .abort [])
      r () (r.added (insertById (obstacleRow key name speed radius) os) (sequenceRows (max a key.toNat) b) ws key) := by
  refine insertRow_runs h fuel active scope _ _ (table?_obstacles_of h) (newCells_obstacle_given os key name speed radius)
    (obstaclesHolding_generatedOrder os) (runs_liftFault r key) ?_ rfl hfree (storeNewRow_obstacle h hab _)
    (h.added _ _ _ _) (table?_obstacles _ _ _)
  exact fillNotNull_runs r _ _ _ (by simp [obstaclesHolding, obstacleTable, idColumn, plainColumn, List.zipIdx])

@[simp] theorem obstacleRow_id (id : Int) (name : List UInt8) (speed radius : Float) :
    (obstacleRow id name speed radius).id = id := rfl

theorem Table.lastId_le {t : Table} {n : Int} (h : ∀ row ∈ t.rows, row.id ≤ n) (hn : 0 ≤ n) : t.lastId ≤ n := by
  unfold Table.lastId
  cases hl : t.rows.getLast? with
  | none => exact hn
  | some row => exact h row (List.mem_of_getLast? hl)

theorem Table.row?_eq_none {t : Table} {id : Int} (h : ∀ row ∈ t.rows, row.id ≠ id) : t.row? id = none := by
  unfold Table.row?
  rw [List.find?_eq_none]
  intro row hrow
  simpa using h row hrow

/-- An obstacle's row with no id given takes the one after the largest the table has used. -/
theorem insertRow_obstacle_new (h : r.OnStore os (sequenceRows a b) ws) (hab : b ≠ 0 → a ≠ 0)
    (hbelow : ∀ row ∈ os, row.id ≤ a) (hfit : (a : Int) < largestInt) (fuel : Nat)
    (active : List String) (scope : Scope) (name : List UInt8) (speed radius : Float) :
    Runs (insertRow (fuel + 3) active scope true (storeTarget "moving_obstacles") (obstacleGiven name speed radius)
        .abort [])
      r () (r.added (insertById (obstacleRow (a + 1) name speed radius) os) (sequenceRows (a + 1) b) ws (a + 1)) := by
  have hid : Runs (newRowId (obstaclesHolding os)) r ((a : Int) + 1) r :=
    newRowId_runs rfl (by rw [h.db]; exact sequenceOf_obstacles os ws a b) (Table.lastId_le hbelow (by omega)) hfit
  have hfree : (obstaclesHolding os).row? ((a : Int) + 1) = none :=
    Table.row?_eq_none fun row hrow => by have := hbelow row hrow; omega
  have hstore := storeNewRow_obstacle h hab (obstacleRow (a + 1) name speed radius)
  rw [obstacleRow_id, show max a (((a : Int) + 1).toNat) = a + 1 by omega] at hstore
  refine insertRow_runs h fuel active scope _ _ (table?_obstacles_of h) (newCells_obstacle_new os name speed radius)
    (obstaclesHolding_generatedOrder os) hid ?_ rfl hfree hstore (h.added _ _ _ _) (table?_obstacles _ _ _)
  exact fillNotNull_runs r _ _ _ (by simp [obstaclesHolding, obstacleTable, idColumn, plainColumn, List.zipIdx])

/-- Once the obstacle table has used the largest 64-bit id, an obstacle's row with no id given
finds the database full. -/
theorem insertRow_obstacle_full (h : r.OnStore os (sequenceRows a b) ws) (hfull : largestInt ≤ (a : Int))
    (fuel : Nat) (active : List String) (scope : Scope) (name : List UInt8) (speed radius : Float) :
    Fails (insertRow (fuel + 3) active scope true (storeTarget "moving_obstacles") (obstacleGiven name speed radius)
      .abort []) r .full r :=
  insertRow_fails_of_rowIdFor h fuel active scope _ _ (table?_obstacles_of h)
    (newCells_obstacle_new os name speed radius) (obstaclesHolding_generatedOrder os)
    (newRowId_fails rfl (by rw [h.db]; exact sequenceOf_obstacles os ws a b) hfull)

/-- A waypoint's row, whose obstacle is stored, takes the id after the largest the waypoint table
has used. The owner and the order, the columns that refuse null, are integers. -/
theorem insertRow_point (h : r.OnStore os (sequenceRows a b) ws) (ha : a ≠ 0) (hbelow : ∀ row ∈ ws, row.id ≤ b)
    (hfit : (b : Int) < largestInt) {owner : Int} (hparent : ((obstaclesHolding os).row? owner).isSome)
    (w : Waypoint Float) (fuel : Nat) (active : List String) (scope : Scope) :
    Runs (insertRow (fuel + 3) active scope true (storeTarget "obstacle_waypoints") (pointGiven owner w) .abort [])
      r () (r.added os (sequenceRows a (b + 1)) (insertById (StoredPoint.row ⟨b + 1, owner, w⟩) ws) (b + 1)) := by
  have hid : Runs (newRowId (waypointsHolding ws)) r ((b : Int) + 1) r :=
    newRowId_runs rfl (by rw [h.db]; exact sequenceOf_waypoints os ws a b) (Table.lastId_le hbelow (by omega)) hfit
  have hfree : (waypointsHolding ws).row? ((b : Int) + 1) = none :=
    Table.row?_eq_none fun row hrow => by have := hbelow row hrow; omega
  have hstore := storeNewRow_waypoint h ha ⟨b + 1, owner, w⟩ hparent
  rw [show max b (((b : Int) + 1).toNat) = b + 1 by omega] at hstore
  have hcells : (waypointsHolding ws).withIdCell (.null :: pointCells owner w) ((b : Int) + 1) =
      .integer ((b : Int) + 1) :: pointCells owner w := by
    rw [Table.withIdCell, waypointsHolding_rowIdColumn?]
    rfl
  refine insertRow_runs h fuel active scope _ _ (table?_waypoints_of h) (newCells_point ws owner w)
    (waypointsHolding_generatedOrder ws) hid ?_ rfl hfree hstore (h.added _ _ _ _) (table?_waypoints _ _ _)
  rw [hcells]
  exact fillNotNull_runs r _ _ _ (by simp [waypointsHolding, waypointTable, idColumn, plainColumn, List.zipIdx,
    pointCells, Cell.isNull])

/-- Once the waypoint table has used the largest 64-bit id, a waypoint's row finds the database
full. -/
theorem insertRow_point_full (h : r.OnStore os (sequenceRows a b) ws) (hfull : largestInt ≤ (b : Int))
    (owner : Int) (w : Waypoint Float) (fuel : Nat) (active : List String) (scope : Scope) :
    Fails (insertRow (fuel + 3) active scope true (storeTarget "obstacle_waypoints") (pointGiven owner w) .abort [])
      r .full r :=
  insertRow_fails_of_rowIdFor h fuel active scope _ _ (table?_waypoints_of h) (newCells_point ws owner w)
    (waypointsHolding_generatedOrder ws)
    (newRowId_fails rfl (by rw [h.db]; exact sequenceOf_waypoints os ws a b) hfull)

end Rows

/-! ## The store's two inserts -/

section Statements

variable {r : Run} {os : List Row} {a b : Nat}

theorem evalAll_constants (s : Scope) (cells : List Cell) : s.evalAll (cells.map .constant) = .ok cells := by
  induction cells with
  | nil => rfl
  | cons c cs ih => simp only [List.map_cons, Scope.evalAll, eval_constant, ih]; rfl

theorem runs_evalAll_constants (r : Run) (s : Scope) (cells : List Cell) :
    Runs (liftFault (s.evalAll (cells.map .constant))) r cells r := by
  rw [evalAll_constants]
  exact runs_liftFault r cells

/-- A row with an id past every stored one goes at the end. -/
theorem insertById_of_lt {row : Row} {rows : List Row} (h : ∀ s ∈ rows, s.id < row.id) :
    insertById row rows = rows ++ [row] := by
  induction rows with
  | nil => rfl
  | cons s rest ih =>
    have hs := h s List.mem_cons_self
    rw [insertById, if_neg (by omega), if_neg (by simp; omega), ih fun x hx => h x (List.mem_cons_of_mem s hx)]
    rfl

theorem mem_insertById_self (r : Row) (rows : List Row) : r ∈ insertById r rows := by
  induction rows with
  | nil => simp [insertById]
  | cons s rows ih =>
    unfold insertById
    split
    · simp
    · split <;> simp [ih]

/-- A row just stored is there to be a parent. -/
theorem row?_insertById_self (os : List Row) (r : Row) : ((obstaclesHolding (insertById r os)).row? r.id).isSome := by
  unfold Table.row?
  rw [List.find?_isSome]
  exact ⟨r, mem_insertById_self r os, by simp⟩

/-- The waypoints of one obstacle as the store numbers their rows, on from the last id used. -/
def numbered (b : Nat) (owner : Int) : List (Waypoint Float) → List StoredPoint
  | [] => []
  | w :: ws => ⟨b + 1, owner, w⟩ :: numbered (b + 1) owner ws

section Numbered

variable {owner : Int}

/-- The waypoint rows a save numbers are its owner's, with ids past the last one used. -/
theorem mem_numbered {b : Nat} {ws : List (Waypoint Float)} {p : StoredPoint} (h : p ∈ numbered b owner ws) :
    p.owner = owner ∧ (b : Int) < p.id ∧ p.id ≤ ((b + ws.length : Nat) : Int) := by
  induction ws generalizing b with
  | nil => simp [numbered] at h
  | cons w ws ih =>
    rcases List.mem_cons.mp h with rfl | h
    · refine ⟨rfl, ?_, ?_⟩ <;> dsimp only [List.length_cons] <;> omega
    · have := ih h
      simp only [List.length_cons] at *
      omega

theorem numbered_sorted (b : Nat) (ws : List (Waypoint Float)) :
    (numbered b owner ws).Pairwise (·.id < ·.id) := by
  induction ws generalizing b with
  | nil => simp [numbered]
  | cons w ws ih =>
    refine List.pairwise_cons.mpr ⟨fun p hp => ?_, ih (b + 1)⟩
    have := (mem_numbered hp).2.1
    simp only at this ⊢
    omega

theorem numbered_points (b : Nat) (ws : List (Waypoint Float)) : (numbered b owner ws).map (·.point) = ws := by
  induction ws generalizing b with
  | nil => rfl
  | cons w ws ih => simp [numbered, ih]

end Numbered

/-- The columns the store's waypoint insert names. -/
def pointColumns : List String := ["obstacle_id", "order", "latitude", "longitude", "altitude_msl"]

theorem map_zip_fst {α β γ : Type} (f : α → γ) (names : List α) (cells : List β) :
    (names.zip cells).map (fun (n, c) => (f n, c)) = (names.map f).zip cells := by
  induction names generalizing cells with
  | nil => rfl
  | cons n ns ih =>
    cases cells with
    | nil => rfl
    | cons c cs => simp [ih]

/-- The slots of the columns the store's waypoint insert names. -/
theorem slots_pointColumns (ws : List Row) :
    pointColumns.map (waypointsHolding ws).slot? =
      [some (.column 1), some (.column 2), some (.column 3), some (.column 4), some (.column 5)] := by
  show pointColumns.map waypointTable.slot? = _
  decide

/-- The slots the waypoint table gives the store's columns, with a waypoint's values. -/
theorem pointGiven_eq (ws : List Row) (owner : Int) (w : Waypoint Float) :
    (pointColumns.zip (pointCells owner w)).map (fun (n, v) => ((waypointsHolding ws).slot? n, v)) =
      pointGiven owner w := by
  rw [map_zip_fst, slots_pointColumns]
  rfl

theorem fails_forM_cons {γ : Type} {g : γ → Exec PUnit} {y : γ} {l : List γ} {f : Fault} {r₁ : Run}
    (hy : Fails (g y) r f r₁) : Fails ((y :: l).forM g) r f r₁ := by
  unfold List.forM
  exact Fails.bind hy

theorem fails_forM_cons_of_runs {γ : Type} {g : γ → Exec PUnit} {y : γ} {l : List γ} {f : Fault} {r₁ r₂ : Run}
    (hy : Runs (g y) r PUnit.unit r₁) (hl : Fails (l.forM g) r₁ f r₂) : Fails ((y :: l).forM g) r f r₂ := by
  unfold List.forM
  exact Fails.bind_of_runs hy hl

section Each

variable {into : Target} {t : Table} {cols : List String} {cells : List Cell} {rows : List (List Expr)}
  {fuel : Nat} {active : List String} {scope : Scope} {f : Fault} {r₁ r₂ : Run}

/-- The first row of values of an insert goes in as the row the table's slots for the named columns
give, and the rows after it follow. -/
theorem insertEach_cons_runs (ht : r.db.table? into.name = some t)
    (hrow : Runs (insertRow fuel active scope true into ((cols.zip cells).map fun (n, v) => (t.slot? n, v)) .abort [])
      r () r₁)
    (hrest : Runs (insertEach (fuel + 1) active scope true into (some cols) .abort [] rows) r₁ () r₂) :
    Runs (insertEach (fuel + 1) active scope true into (some cols) .abort [] (cells.map .constant :: rows)) r () r₂ := by
  rw [insertEach] at hrest ⊢
  refine runs_forM_cons ?_ hrest
  exact Runs.bind (refreshed_runs scope) (Runs.bind (runs_evalAll_constants r _ _)
    (Runs.bind (currentTable_runs ht) hrow))

/-- An insert whose first row fails fails there. -/
theorem insertEach_cons_fails (ht : r.db.table? into.name = some t)
    (hrow : Fails (insertRow fuel active scope true into ((cols.zip cells).map fun (n, v) => (t.slot? n, v)) .abort [])
      r f r₁) :
    Fails (insertEach (fuel + 1) active scope true into (some cols) .abort [] (cells.map .constant :: rows)) r f r₁ := by
  rw [insertEach]
  refine fails_forM_cons ?_
  exact Fails.bind_of_runs (refreshed_runs scope) (Fails.bind_of_runs (runs_evalAll_constants r _ _)
    (Fails.bind_of_runs (currentTable_runs ht) hrow))

/-- An insert whose first row goes in and one of whose later rows fails fails there. -/
theorem insertEach_cons_fails_of_runs (ht : r.db.table? into.name = some t)
    (hrow : Runs (insertRow fuel active scope true into ((cols.zip cells).map fun (n, v) => (t.slot? n, v)) .abort [])
      r () r₁)
    (hrest : Fails (insertEach (fuel + 1) active scope true into (some cols) .abort [] rows) r₁ f r₂) :
    Fails (insertEach (fuel + 1) active scope true into (some cols) .abort [] (cells.map .constant :: rows)) r f r₂ := by
  rw [insertEach] at hrest ⊢
  refine fails_forM_cons_of_runs ?_ hrest
  exact Runs.bind (refreshed_runs scope) (Runs.bind (runs_evalAll_constants r _ _)
    (Runs.bind (currentTable_runs ht) hrow))

end Each

theorem points_below_next {pts : List StoredPoint} (hbelow : ∀ p ∈ pts, p.id ≤ b) (owner : Int) (w : Waypoint Float) :
    ∀ p ∈ pts ++ [(⟨b + 1, owner, w⟩ : StoredPoint)], p.id ≤ ((b + 1 : Nat) : Int) := by
  intro p hp
  rcases List.mem_append.mp hp with hp | hp
  · have := hbelow p hp
    omega
  · rw [List.mem_singleton.mp hp]
    simp

/-- The first of some waypoints goes in as the row after the largest the waypoint table has used,
at the end of the table. -/
theorem insertRow_point_next {pts : List StoredPoint} (h : r.OnStore os (sequenceRows a b) (pts.map StoredPoint.row))
    (ha : a ≠ 0) (hbelow : ∀ p ∈ pts, p.id ≤ b) (hfit : (b : Int) < largestInt) {owner : Int}
    (hparent : ((obstaclesHolding os).row? owner).isSome) (w : Waypoint Float) (fuel : Nat) (active : List String)
    (scope : Scope) :
    Runs (insertRow (fuel + 3) active scope true (storeTarget "obstacle_waypoints")
        ((pointColumns.zip (pointCells owner w)).map fun (n, v) => ((waypointsHolding (pts.map StoredPoint.row)).slot? n, v))
        .abort [])
      r () (r.added os (sequenceRows a (b + 1)) ((pts ++ [(⟨b + 1, owner, w⟩ : StoredPoint)]).map StoredPoint.row)
        (b + 1)) := by
  have hrows : ∀ row ∈ pts.map StoredPoint.row, row.id ≤ b := by
    simpa using hbelow
  have hrow := insertRow_point h ha hrows hfit hparent w fuel active scope
  have hlt : ∀ s ∈ pts.map StoredPoint.row, s.id < (StoredPoint.row ⟨b + 1, owner, w⟩).id := by
    intro s hs
    have := hrows s hs
    simp only [StoredPoint.row_id]
    omega
  rw [insertById_of_lt hlt] at hrow
  rw [pointGiven_eq]
  simpa using hrow

/-- Inserting the waypoints of a stored obstacle, one row after another: each takes the next id,
and the waypoint table remembers the last. The induction runs over the waypoints still to go in,
from the state the rows before them left. -/
theorem insertEach_points (fuel : Nat) (active : List String) (scope : Scope) {owner : Int}
    (hparent : ((obstaclesHolding os).row? owner).isSome) (ha : a ≠ 0) (wps : List (Waypoint Float)) :
    ∀ {r : Run} {b : Nat} {pts : List StoredPoint},
      r.OnStore os (sequenceRows a b) (pts.map StoredPoint.row) → (∀ p ∈ pts, p.id ≤ b) →
      ((b + wps.length : Nat) : Int) ≤ largestInt →
      ∃ r', Runs (insertEach (fuel + 4) active scope true (storeTarget "obstacle_waypoints") (some pointColumns)
          .abort [] (wps.map fun w => (pointCells owner w).map .constant)) r () r' ∧
        r'.OnStore os (sequenceRows a (b + wps.length)) ((pts ++ numbered b owner wps).map StoredPoint.row) := by
  induction wps with
  | nil =>
    intro r b pts h _ _
    refine ⟨r, ?_, by simpa [numbered] using h⟩
    rw [insertEach]
    exact runs_forM_nil r
  | cons w wps ih =>
    intro r b pts h hbelow hfit
    have hrow := insertRow_point_next h ha hbelow (by simp at hfit; omega) hparent w fuel active scope
    obtain ⟨r', hrun, hon'⟩ := ih (h.added os _ _ ((b : Int) + 1)) (points_below_next hbelow owner w) (by simp at hfit ⊢; omega)
    refine ⟨r', insertEach_cons_runs (table?_waypoints_of h) hrow hrun, ?_⟩
    simpa [numbered, Nat.add_assoc, Nat.add_comm 1] using hon'

/-- Waypoints that would take ids past the largest 64-bit integer find the database full, at the
first that would: either the first waypoint finds no id left, or it goes in and one of the rest
finds the database full. -/
theorem insertEach_points_full (fuel : Nat) (active : List String) (scope : Scope) {owner : Int}
    (hparent : ((obstaclesHolding os).row? owner).isSome) (ha : a ≠ 0) (wps : List (Waypoint Float)) :
    ∀ {r : Run} {b : Nat} {pts : List StoredPoint},
      r.OnStore os (sequenceRows a b) (pts.map StoredPoint.row) → (∀ p ∈ pts, p.id ≤ b) →
      (b : Int) ≤ largestInt → largestInt < ((b + wps.length : Nat) : Int) →
      ∃ r', Fails (insertEach (fuel + 4) active scope true (storeTarget "obstacle_waypoints") (some pointColumns)
          .abort [] (wps.map fun w => (pointCells owner w).map .constant)) r .full r' := by
  induction wps with
  | nil =>
    intro r b pts h hbelow hfit hfull
    simp at hfull
    omega
  | cons w wps ih =>
    intro r b pts h hbelow hfit hfull
    by_cases hlast : largestInt ≤ (b : Int)
    · refine ⟨r, insertEach_cons_fails (table?_waypoints_of h) ?_⟩
      rw [pointGiven_eq]
      exact insertRow_point_full h hlast owner w fuel active scope
    · have hrow := insertRow_point_next h ha hbelow (by omega) hparent w fuel active scope
      obtain ⟨r', hfails⟩ := ih (h.added os _ _ ((b : Int) + 1)) (points_below_next hbelow owner w) (by omega)
        (by simp at hfull ⊢; omega)
      exact ⟨r', insertEach_cons_fails_of_runs (table?_waypoints_of h) hrow hfails⟩

end Statements

/-! ## An insert of values, as a statement -/

section Change

variable {r r' : Run} {os ss ws : List Row}

/-- The store's insert of rows of values into one of its tables. -/
def valuesInsert (table : String) (cols : List String) (rows : List (List Cell)) : Change :=
  .insert .abort (storeTarget table) (some cols) (.values (rows.map (·.map .constant))) []

theorem any_false {α : Type} (l : List α) : l.any (fun _ => false) = false := by
  simp

theorem readsAny_constants (name : String) (cells : List Cell) : Expr.readsAny name (cells.map .constant) = false := by
  induction cells with
  | nil => rfl
  | cons c cs ih => simpa [Expr.readsAny, Expr.reads] using ih

/-- An insert of values into a stored table runs as inserting its rows one by one: with no
trigger on the table and no value that reads it, no value is taken before its row goes in. -/
theorem runChange_insert (h : r.OnStore os ss ws) {table : String} {t : Table} (ht : r.db.table? table = some t)
    (hname : t.name = table) (fuel : Nat) (cols : List String) (rows : List (List Cell))
    (hrun : Runs (insertEach fuel [] {} true (storeTarget table) (some cols) .abort [] (rows.map (·.map .constant)))
      r () r') :
    Runs (runChange (fuel + 2) [] {} true (valuesInsert table cols rows)) r () r' := by
  rw [valuesInsert, runChange]
  refine Runs.bind (runs_get r) ?_
  simp only [storeTarget, h.db, viewTarget?_storeOf]
  rw [insertInto]
  refine Runs.bind (currentTable_runs ht) (Runs.bind (runs_get r) ?_)
  simp only [h.temporary, h.db, Database.storeOf_triggers, List.append_nil, List.any_nil, Bool.false_or, List.any_map,
    Function.comp_def, readsAny_constants, any_false, Bool.and_false, Bool.false_eq_true, ↓reduceIte, hname]
  refine Runs.bind (runs_pure r _) ?_
  exact hrun

/-- An insert whose rows do not all go in fails as the first that does not. -/
theorem runChange_insert_fails (h : r.OnStore os ss ws) {table : String} {t : Table} (ht : r.db.table? table = some t)
    (hname : t.name = table) (fuel : Nat) (cols : List String) (rows : List (List Cell)) {f : Fault}
    (hrun : Fails (insertEach fuel [] {} true (storeTarget table) (some cols) .abort [] (rows.map (·.map .constant)))
      r f r') :
    Fails (runChange (fuel + 2) [] {} true (valuesInsert table cols rows)) r f r' := by
  rw [valuesInsert, runChange]
  refine Fails.bind_of_runs (runs_get r) ?_
  simp only [storeTarget, h.db, viewTarget?_storeOf]
  rw [insertInto]
  refine Fails.bind_of_runs (currentTable_runs ht) (Fails.bind_of_runs (runs_get r) ?_)
  simp only [h.temporary, h.db, Database.storeOf_triggers, List.append_nil, List.any_nil, Bool.false_or, List.any_map,
    Function.comp_def, readsAny_constants, any_false, Bool.and_false, Bool.false_eq_true, ↓reduceIte, hname]
  exact Fails.bind_of_runs (runs_pure r _) hrun

/-- With no trigger in the database, a change on the store's layout fires none to check. -/
theorem checkTriggers_storeOf (fuel : Nat) (seen : List String) (c : Change) :
    (Database.storeOf os ss ws).checkTriggers [] fuel seen c = .ok () := by
  cases fuel with
  | zero => rfl
  | succ fuel =>
    rw [Database.checkTriggers]
    split
    · rfl
    · split
      · rfl
      · simp only [Database.storeOf_triggers, List.reverse_nil, List.append_nil, List.filter_nil, List.forIn_nil]
        rfl

theorem placeAliasesAll_constants (db : Database) (cells : List Cell) :
    Expr.placeAliasesAll db (cells.map .constant) = cells.map .constant := by
  induction cells with
  | nil => rfl
  | cons c cs ih => simp only [List.map_cons, Expr.placeAliasesAll, ih]; rfl

theorem prepare_valuesInsert (table : String) (cols : List String) (rows : List (List Cell)) :
    (Database.storeOf os ss ws).prepare (valuesInsert table cols rows) = valuesInsert table cols rows := by
  simp [Database.prepare, Database.inlineViews, valuesInsert, Change.placeAliases, placeAliasesAll_constants]

theorem compileFaults_constants (cells : List Cell) : compileFaults? false (cells.map .constant) = none := by
  induction cells with
  | nil => rfl
  | cons c cs ih => simp only [List.map_cons, compileFaults?, ih]; rfl

theorem compileFault?_valuesInsert (table : String) (cols : List String) (rows : List (List Cell)) :
    (valuesInsert table cols rows).compileFault? false = none := by
  simp only [valuesInsert, Change.compileFault?, ← List.map_flatten, compileFaults_constants]
  rfl

theorem checkAll_constants (s : Scope) (cells : List Cell) : s.checkAll (cells.map .constant) = .ok () := by
  induction cells with
  | nil => rfl
  | cons c cs ih => simp only [List.map_cons, Scope.checkAll, check_constant, ih]; rfl

theorem except_ok_bind {ε α β : Type} (a : α) (f : α → Except ε β) : (Except.ok a >>= f) = f a := rfl

theorem forIn_except_ok {ε α : Type} {l : List α} {f : α → PUnit → Except ε (ForInStep PUnit)}
    (h : ∀ x ∈ l, f x PUnit.unit = .ok (.yield PUnit.unit)) : forIn l PUnit.unit f = .ok PUnit.unit := by
  induction l with
  | nil => rfl
  | cons x xs ih =>
    rw [List.forIn_cons, h x List.mem_cons_self]
    exact ih fun y hy => h y (List.mem_cons_of_mem x hy)

theorem foldlM_except_ok {ε α : Type} {l : List α} {f : PUnit → α → Except ε PUnit}
    (h : ∀ x ∈ l, f PUnit.unit x = .ok PUnit.unit) : l.foldlM f PUnit.unit = .ok PUnit.unit := by
  induction l with
  | nil => rfl
  | cons x xs ih =>
    rw [List.foldlM_cons, h x List.mem_cons_self]
    exact ih fun y hy => h y (List.mem_cons_of_mem x hy)

/-- The slots the obstacle table gives the columns the store's obstacle insert names. -/
theorem slots_obstacleColumns (os : List Row) :
    ["id", "created_at", "updated_at", "name", "speed_avg", "sphere_radius"].map (obstaclesHolding os).slot? =
      [some (.column 0), some (.column 1), some (.column 2), some (.column 3), some (.column 4), some (.column 5)] := by
  show List.map obstacleTable.slot? _ = _
  decide

/-- The store's waypoint insert names columns of the waypoint table, with a value for each. -/
theorem checkChange_points (rows : List (List Cell)) (hlen : ∀ row ∈ rows, row.length = pointColumns.length) :
    (Database.storeOf os ss ws).checkChange [] {} false (valuesInsert "obstacle_waypoints" pointColumns rows) = .ok () := by
  simp [Database.checkChange, valuesInsert, Database.writable, viewTarget?_storeOf, Database.findTable, storeTarget,
    table?_waypoints, pointColumns, except_ok_bind]
  simp [waypointTable, idColumn, plainColumn, TableColumn.isGenerated]
  rw [foldlM_except_ok (by simp [checkAll_constants]), except_ok_bind, forIn_except_ok (by intro x hx; simp [hlen x hx, pointColumns]; rfl),
    except_ok_bind, waypointsHolding_generatedOrder]
  rfl

/-- The columns the store's obstacle insert names: the id's only when it gives one. -/
def obstacleColumns (key : Int) : List String :=
  (if key = 0 then [] else ["id"]) ++ ["created_at", "updated_at", "name", "speed_avg", "sphere_radius"]

/-- The values of the store's obstacle insert. -/
def obstacleValues (key : Int) (name : List UInt8) (speed radius : Float) : List Cell :=
  (if key = 0 then [] else [.integer key]) ++ obstacleCells name speed radius

/-- The store's obstacle insert names columns of the obstacle table, with a value for each. -/
theorem checkChange_obstacle (key : Int) (name : List UInt8) (speed radius : Float) :
    (Database.storeOf os ss ws).checkChange [] {} false
      (valuesInsert "moving_obstacles" (obstacleColumns key) [obstacleValues key name speed radius]) = .ok () := by
  by_cases hk : key = 0 <;>
  · simp [Database.checkChange, valuesInsert, Database.writable, viewTarget?_storeOf, Database.findTable, storeTarget,
      table?_obstacles, obstacleColumns, obstacleValues, obstacleCells, hk, except_ok_bind]
    simp [obstacleTable, idColumn, plainColumn, TableColumn.isGenerated]
    rw [obstaclesHolding_generatedOrder]
    rfl

/-- A delete by `column = key` from a table of the store names a column it has. -/
theorem checkChange_delete_columnIs {table column : String} {t : Table} {i : Nat}
    (ht : (Database.storeOf os ss ws).table? table = some t) (hidx : t.columnIndex? column = some i) (key : Int) :
    (Database.storeOf os ss ws).checkChange [] {} false
      (.delete (storeTarget table) (some (columnIs column key))) = .ok () := by
  simp only [Database.checkChange, Database.writable, viewTarget?_storeOf, Database.findTable, storeTarget, ht]
  exact check_columnIs rfl hidx key

/-- A delete by `column = key` is ready to check as it is written. -/
theorem prepare_delete_columnIs (table column : String) (key : Int) :
    (Database.storeOf os ss ws).prepare (.delete (storeTarget table) (some (columnIs column key))) =
      .delete (storeTarget table) (some (columnIs column key)) := rfl

theorem compileFault?_delete_columnIs (table column : String) (key : Int) :
    (Change.delete (storeTarget table) (some (columnIs column key))).compileFault? false = none := rfl

end Change

/-! ## The store's statements on its connection -/

section Session

variable {s : Session} {os ss : List Row} {pts : List StoredPoint} {a b : Nat}

@[simp] theorem Session.startRun_changes (s : Session) : s.startRun.changes = 0 := rfl
@[simp] theorem Session.startRun_inserted (s : Session) : s.startRun.inserted = [] := rfl
@[simp] theorem Run.stored_changes (r : Run) (os ss ws : List Row) (n : Nat) :
    (r.stored os ss ws n).changes = r.changes + n := rfl
@[simp] theorem Run.stored_inserted (r : Run) (os ss ws : List Row) (n : Nat) :
    (r.stored os ss ws n).inserted = r.inserted := rfl
@[simp] theorem Run.added_changes (r : Run) (os ss ws : List Row) (id : Int) :
    (r.added os ss ws id).changes = r.changes + 1 := rfl

/-- A statement on the store's connection that passes its checks and whose run fails reports its
fault's cause. -/
theorem Session.OnStore.storeChange_of_fails {c : Change} {r : Run} {f : Fault} {ws : List Row}
    (h : s.OnStore os ss ws) (hprep : (Database.storeOf os ss ws).prepare c = c)
    (hcheck : (Database.storeOf os ss ws).checkChange [] {} false c = .ok ())
    (hcompile : c.compileFault? false = none)
    (htrig : (Database.storeOf os ss ws).checkTriggers [] 64 [] c = .ok ())
    (hrun : Fails (runChange runFuel [] {} true c) s.startRun f r) : s.storeChange c = .error f.cause := by
  rw [← h.db] at hprep hcheck htrig
  rw [← h.temporary] at hcheck htrig
  exact storeChange_error_of_change (change_of_fails hprep hcheck hcompile htrig hrun)

/-- `DELETE FROM obstacle_waypoints WHERE obstacle_id = key` on the store's connection: the
waypoints of that owner go, and each counts as a change. -/
theorem Session.OnStore.deletePoints (h : s.OnStore os ss (pts.map StoredPoint.row))
    (hord : (pts.map StoredPoint.row).Pairwise (·.id < ·.id)) (key : Int) :
    ∃ s', s.storeChange (.delete (storeTarget "obstacle_waypoints") (some (columnIs "obstacle_id" key))) =
        .ok (s', ⟨(pts.filter (·.owner == key)).length, []⟩) ∧
      s'.OnStore os ss ((pts.filter (·.owner != key)).map StoredPoint.row) := by
  have hrun : Runs (runChange runFuel [] {} true
      (.delete (storeTarget "obstacle_waypoints") (some (columnIs "obstacle_id" key)))) s.startRun ()
      (s.startRun.stored os ss ((pts.filter (·.owner != key)).map StoredPoint.row)
        (pts.filter (·.owner == key)).length) :=
    runChange_delete _ (by rw [h.start.db]; exact viewTarget?_storeOf _ _ _ _) (deleteFrom_waypoints h.start hord _ key)
  obtain ⟨s', hs, h'⟩ := h.storeChange_of_runs (prepare_delete_columnIs _ _ key)
    (checkChange_delete_columnIs (table?_waypoints _ _ _) (waypointsHolding_columnIndex_owner _) key)
    (compileFault?_delete_columnIs _ _ key) (checkTriggers_storeOf _ _ _) hrun (h.start.stored _ _ _ _) rfl
  simp only [Run.stored_changes, Session.startRun_changes, Nat.zero_add, Run.stored_inserted,
    Session.startRun_inserted] at hs
  exact ⟨s', hs, h'⟩

/-- `DELETE FROM moving_obstacles WHERE id = key` on the store's connection, once no waypoint
refers to `key`: the obstacle of that id goes, if there is one, and counts as a change. -/
theorem Session.OnStore.deleteObstacle (h : s.OnStore os ss (pts.map StoredPoint.row))
    (hord : os.Pairwise (·.id < ·.id)) (hkey : ∀ row ∈ os, row.get 0 = .integer row.id) {key : Int}
    (hfree : ∀ p ∈ pts, p.owner ≠ key) :
    ∃ s', s.storeChange (.delete (storeTarget "moving_obstacles") (some (columnIs "id" key))) =
        .ok (s', ⟨(os.filter (·.id == key)).length, []⟩) ∧
      s'.OnStore (os.filter (·.id != key)) ss (pts.map StoredPoint.row) := by
  have hrun : Runs (runChange runFuel [] {} true
      (.delete (storeTarget "moving_obstacles") (some (columnIs "id" key)))) s.startRun ()
      (s.startRun.stored (os.filter (·.id != key)) ss (pts.map StoredPoint.row) (os.filter (·.id == key)).length) :=
    runChange_delete _ (by rw [h.start.db]; exact viewTarget?_storeOf _ _ _ _)
      (deleteFrom_obstacles h.start hord hkey hfree _)
  obtain ⟨s', hs, h'⟩ := h.storeChange_of_runs (prepare_delete_columnIs _ _ key)
    (checkChange_delete_columnIs (table?_obstacles _ _ _) (obstaclesHolding_columnIndex_id _) key)
    (compileFault?_delete_columnIs _ _ key) (checkTriggers_storeOf _ _ _) hrun (h.start.stored _ _ _ _) rfl
  simp only [Run.stored_changes, Session.startRun_changes, Nat.zero_add, Run.stored_inserted,
    Session.startRun_inserted] at hs
  exact ⟨s', hs, h'⟩

/-- The slots the obstacle table gives the columns of the store's obstacle insert under an id,
with its values. -/
theorem obstacleGiven_key (os : List Row) {key : Int} (hk : key ≠ 0) (name : List UInt8) (speed radius : Float) :
    ((obstacleColumns key).zip (obstacleValues key name speed radius)).map
        (fun (n, v) => ((obstaclesHolding os).slot? n, v)) =
      (some (.column 0), .integer key) :: obstacleGiven name speed radius := by
  rw [map_zip_fst]
  simp only [obstacleColumns, obstacleValues, hk, if_false, List.cons_append, List.nil_append]
  rw [slots_obstacleColumns]
  rfl

/-- The same with no id given. -/
theorem obstacleGiven_new (os : List Row) (name : List UInt8) (speed radius : Float) :
    ((obstacleColumns 0).zip (obstacleValues 0 name speed radius)).map
        (fun (n, v) => ((obstaclesHolding os).slot? n, v)) = obstacleGiven name speed radius := by
  have hslots := slots_obstacleColumns os
  rw [List.map_cons, List.cons.injEq] at hslots
  rw [map_zip_fst]
  simp only [obstacleColumns, obstacleValues, if_true, List.nil_append]
  rw [hslots.2]
  rfl

/-- The store's obstacle insert under an id, which no obstacle has: the row goes in under that
id, which the sequence table remembers if it is the largest yet. -/
theorem Session.OnStore.insertObstacle {ws : List Row} (h : s.OnStore os (sequenceRows a b) ws)
    (hab : b ≠ 0 → a ≠ 0) {key : Int} (hk : key ≠ 0) (hfree : (obstaclesHolding os).row? key = none)
    (name : List UInt8) (speed radius : Float) :
    ∃ s', s.storeChange (valuesInsert "moving_obstacles" (obstacleColumns key) [obstacleValues key name speed radius]) =
        .ok (s', ⟨1, [key]⟩) ∧
      s'.OnStore (insertById (obstacleRow key name speed radius) os) (sequenceRows (max a key.toNat) b) ws := by
  have hrow := insertRow_obstacle_given h.start hab hfree 999994 [] {} name speed radius
  rw [← obstacleGiven_key os hk] at hrow
  have hrun := runChange_insert h.start (table?_obstacles_of h.start) rfl 999998 _ [obstacleValues key name speed radius]
    (insertEach_cons_runs (table?_obstacles_of h.start) hrow (by rw [insertEach]; exact runs_forM_nil _))
  obtain ⟨s', hs, h'⟩ := h.storeChange_of_runs (prepare_valuesInsert _ _ _) (checkChange_obstacle key name speed radius)
    (compileFault?_valuesInsert _ _ _) (checkTriggers_storeOf _ _ _) hrun (h.start.added _ _ _ _) rfl
  simp only [Run.added_changes, Session.startRun_changes, Run.added_inserted, Session.startRun_inserted,
    List.nil_append] at hs
  exact ⟨s', hs, h'⟩

/-- The store's obstacle insert with no id: the row goes in under the id after the largest the
obstacle table has used. -/
theorem Session.OnStore.insertObstacleNew {ws : List Row} (h : s.OnStore os (sequenceRows a b) ws)
    (hab : b ≠ 0 → a ≠ 0) (hbelow : ∀ row ∈ os, row.id ≤ a) (hfit : (a : Int) < largestInt)
    (name : List UInt8) (speed radius : Float) :
    ∃ s', s.storeChange (valuesInsert "moving_obstacles" (obstacleColumns 0) [obstacleValues 0 name speed radius]) =
        .ok (s', ⟨1, [(a : Int) + 1]⟩) ∧
      s'.OnStore (insertById (obstacleRow (a + 1) name speed radius) os) (sequenceRows (a + 1) b) ws := by
  have hrow := insertRow_obstacle_new h.start hab hbelow hfit 999994 [] {} name speed radius
  rw [← obstacleGiven_new os] at hrow
  have hrun := runChange_insert h.start (table?_obstacles_of h.start) rfl 999998 _ [obstacleValues 0 name speed radius]
    (insertEach_cons_runs (table?_obstacles_of h.start) hrow (by rw [insertEach]; exact runs_forM_nil _))
  obtain ⟨s', hs, h'⟩ := h.storeChange_of_runs (prepare_valuesInsert _ _ _) (checkChange_obstacle 0 name speed radius)
    (compileFault?_valuesInsert _ _ _) (checkTriggers_storeOf _ _ _) hrun (h.start.added _ _ _ _) rfl
  simp only [Run.added_changes, Session.startRun_changes, Run.added_inserted, Session.startRun_inserted,
    List.nil_append] at hs
  exact ⟨s', hs, h'⟩

/-- Once the obstacle table has used the largest 64-bit id, the store's obstacle insert with no
id finds the database full. -/
theorem Session.OnStore.insertObstacleFull {ws : List Row} (h : s.OnStore os (sequenceRows a b) ws)
    (hfull : largestInt ≤ (a : Int)) (name : List UInt8) (speed radius : Float) :
    s.storeChange (valuesInsert "moving_obstacles" (obstacleColumns 0) [obstacleValues 0 name speed radius]) =
      .error Fault.full.cause := by
  have hrow := insertRow_obstacle_full h.start hfull 999994 [] {} name speed radius
  rw [← obstacleGiven_new os] at hrow
  exact h.storeChange_of_fails (prepare_valuesInsert _ _ _) (checkChange_obstacle 0 name speed radius)
    (compileFault?_valuesInsert _ _ _) (checkTriggers_storeOf _ _ _)
    (runChange_insert_fails h.start (table?_obstacles_of h.start) rfl 999998 _ [obstacleValues 0 name speed radius]
      (insertEach_cons_fails (table?_obstacles_of h.start) hrow))

theorem pointCells_length (owner : Int) :
    ∀ row ∈ (wps : List (Waypoint Float)).map (pointCells owner), row.length = pointColumns.length := by
  simp [pointCells, pointColumns]

/-- The store's insert of the waypoints of a stored obstacle: each takes the next id. -/
theorem Session.OnStore.insertPoints (h : s.OnStore os (sequenceRows a b) (pts.map StoredPoint.row)) (ha : a ≠ 0)
    (hbelow : ∀ p ∈ pts, p.id ≤ b) {owner : Int} (hparent : ((obstaclesHolding os).row? owner).isSome)
    (wps : List (Waypoint Float)) (hfit : ((b + wps.length : Nat) : Int) ≤ largestInt) :
    ∃ s' o, s.storeChange (valuesInsert "obstacle_waypoints" pointColumns (wps.map (pointCells owner))) = .ok (s', o) ∧
      s'.OnStore os (sequenceRows a (b + wps.length)) ((pts ++ numbered b owner wps).map StoredPoint.row) := by
  obtain ⟨r', hins, hr'⟩ := insertEach_points 999994 [] {} hparent ha wps h.start hbelow hfit
  have hrun := runChange_insert h.start (table?_waypoints_of h.start) rfl 999998 pointColumns (wps.map (pointCells owner))
    (by rw [List.map_map]; exact hins)
  obtain ⟨s', hs, h'⟩ := h.storeChange_of_runs (prepare_valuesInsert _ _ _) (checkChange_points _ (pointCells_length owner))
    (compileFault?_valuesInsert _ _ _) (checkTriggers_storeOf _ _ _) hrun hr' rfl
  exact ⟨s', _, hs, h'⟩

/-- Waypoints that would take ids past the largest 64-bit integer find the database full. -/
theorem Session.OnStore.insertPointsFull (h : s.OnStore os (sequenceRows a b) (pts.map StoredPoint.row))
    (ha : a ≠ 0) (hbelow : ∀ p ∈ pts, p.id ≤ b) {owner : Int} (hparent : ((obstaclesHolding os).row? owner).isSome)
    (wps : List (Waypoint Float)) (hlast : (b : Int) ≤ largestInt)
    (hfull : largestInt < ((b + wps.length : Nat) : Int)) :
    s.storeChange (valuesInsert "obstacle_waypoints" pointColumns (wps.map (pointCells owner))) =
      .error Fault.full.cause := by
  obtain ⟨r', hins⟩ := insertEach_points_full 999994 [] {} hparent ha wps h.start hbelow hlast hfull
  exact h.storeChange_of_fails (prepare_valuesInsert _ _ _) (checkChange_points _ (pointCells_length owner))
    (compileFault?_valuesInsert _ _ _) (checkTriggers_storeOf _ _ _)
    (runChange_insert_fails h.start (table?_waypoints_of h.start) rfl 999998 pointColumns (wps.map (pointCells owner))
      (by rw [List.map_map]; exact hins))

end Session

end Airspace.Store
