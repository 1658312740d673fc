import Airspace.Store.Value
import Airspace.Text.Case

/-!
# Stored tables

A database holds tables of rows, indexes and triggers. Every row has a 64-bit
row id, and rows are kept in row-id order; a column declared `INTEGER PRIMARY
KEY` is the row id under its own name. A column's affinity comes from its
declared type (`affinityOfType`). Names of tables, columns, indexes and
triggers are compared without regard to ASCII case.

The tracker's store starts with its two tables: `moving_obstacles` and
`obstacle_waypoints`, whose `obstacle_id` refers to an obstacle and goes with
it when it is deleted. Both take row ids that only grow (`AUTOINCREMENT`),
remembered in `sqlite_sequence`.
-/

namespace Airspace.Store

/-- Whether two names are the same, ASCII case aside. -/
def sameName (a b : String) : Bool := Text.lowerAscii a == Text.lowerAscii b

/-- Whether a name stands for the row id when no column has it. -/
def isRowIdName (n : String) : Bool := ["rowid", "oid", "_rowid_"].contains (Text.lowerAscii n)

/-- A column of a stored table: its name, its declared type, whether it
refuses null, its default, whether it is the row id, the collation its
texts compare under, the expression that computes it if it is generated, and
whether its table holds it to its declared type (a strict table). -/
structure TableColumn where
  name : String
  type : String
  notNull : Bool := false
  default : Option Expr := none
  isRowId : Bool := false
  collation : Collation := .binary
  generated : Option Generated := none
  strict : Bool := false

/-- A column's affinity; in a strict table a column of type `ANY` keeps every
value as it is given. -/
def TableColumn.affinity (c : TableColumn) : Affinity :=
  if c.strict && upperAscii c.type == "ANY" then .blob else affinityOfType c.type

/-- A stored row: its row id and one value per column. -/
structure Row where
  id : Int
  cells : List Cell

/-- A row's value in a column. -/
def Row.get (r : Row) (i : Nat) : Cell := r.cells.getD i .null

/-- A row with a column set. -/
def Row.set (r : Row) (i : Nat) (v : Cell) : Row := { r with cells := r.cells.set i v }

/-- A foreign key: columns of a table that refer to columns of a parent
table (its row id when none are named), and what deleting or changing a
parent row does to them. -/
structure ForeignKey where
  columns : List String
  parent : String
  parentColumns : List String
  onDelete : KeyAction
  onUpdate : KeyAction

/-- A stored table. -/
structure Table where
  name : String
  columns : List TableColumn
  /-- In row-id order. -/
  rows : List Row := []
  autoincrement : Bool := false
  foreignKeys : List ForeignKey := []
  /-- The conditions every row meets, with their names. -/
  checks : List Check := []

/-- An index: its name, its table and its terms, each maybe with a collation of
its own, and for a partial index the condition of the rows it holds; a unique
index refuses two of its rows whose values in its terms are all equal and not
null. An index made for a constraint of its table's definition cannot be
dropped on its own. -/
structure Index where
  name : String
  table : String
  terms : List IndexTerm
  unique : Bool
  primaryKey : Bool := false
  automatic : Bool := false
  collations : List (Option Collation) := []
  condition : Option Expr := none

/-- An index of plain columns. -/
def Index.ofColumns (name table : String) (columns : List String) (unique : Bool) : Index :=
  { name, table, terms := columns.map IndexTerm.column, unique }

/-- The columns of an index whose terms are all columns. -/
def Index.columns? (ix : Index) : Option (List String) :=
  ix.terms.mapM fun
    | .column n => some n
    | .expression _ => none

/-- Whether an index has a term that is an expression. -/
def Index.hasExpression (ix : Index) : Bool := ix.columns?.isNone

/-- A view: its name, the names it gives the columns of its query (none to
keep the query's own), and the query. -/
structure View where
  name : String
  columns : List String
  query : Query

/-- A database: its tables, indexes, triggers and views, each kind in the order made. -/
structure Database where
  tables : List Table := []
  indexes : List Index := []
  triggers : List Trigger := []
  views : List View := []

/-- The table of a name. -/
def Database.table? (db : Database) (name : String) : Option Table :=
  db.tables.find? fun t => sameName t.name name

/-- The view of a name. -/
def Database.view? (db : Database) (name : String) : Option View :=
  db.views.find? fun v => sameName v.name name

/-- The database with a table replaced by its new state. -/
def Database.putTable (db : Database) (t : Table) : Database :=
  { db with tables := db.tables.map fun u => if sameName u.name t.name then t else u }

/-- The place of a column in a table. -/
def Table.columnIndex? (t : Table) (name : String) : Option Nat :=
  t.columns.findIdx? fun c => sameName c.name name

/-- The place of the column that is the row id, if one is. -/
def Table.rowIdColumn? (t : Table) : Option Nat := t.columns.findIdx? (·.isRowId)

/-- The collation of a column of a table by name: its declared one, binary for
a name that is no column. -/
def Table.collationOf (t : Table) (name : String) : Collation :=
  match t.columnIndex? name with
  | some i => (t.columns[i]?.map (·.collation)).getD .binary
  | none => .binary

/-- The collations under which an index compares its terms: its own for a term
that has one, otherwise the column's for a column and binary for an expression. -/
def Index.collationsIn (ix : Index) (t : Table) : List Collation :=
  ix.terms.mapIdx fun i term =>
    let inherited := match term with
      | .column c => t.collationOf c
      | .expression _ => .binary
    ((ix.collations[i]?).bind id).getD inherited

mutual

/-- The names of the columns an expression reads, outside the queries inside it. -/
def Expr.columnNames : Expr → List String
  | .column _ n _ => [n]
  | .unary _ e => e.columnNames
  | .binary _ l r => l.columnNames ++ r.columnNames
  | .between e lo hi _ => e.columnNames ++ lo.columnNames ++ hi.columnNames
  | .within e items _ => e.columnNames ++ Expr.columnNamesAll items
  | .isNull e _ => e.columnNames
  | .call _ args _ => Expr.columnNamesAll args
  | .filtered _ args _ condition => Expr.columnNamesAll args ++ condition.columnNames
  | .cast e _ => e.columnNames
  | .search branches otherwise => Expr.columnNamesAll branches ++ otherwise.columnNames
  | .collate e _ => e.columnNames
  | .vector items => Expr.columnNamesAll items
  | .withinQuery e _ _ => e.columnNames
  | _ => []

/-- The names of the columns some expressions read. -/
def Expr.columnNamesAll : List Expr → List String
  | [] => []
  | e :: es => e.columnNames ++ Expr.columnNamesAll es

end

mutual

/-- An expression with a column renamed where it reads it, outside the queries inside it. -/
def Expr.renameColumn (old new : String) : Expr → Expr
  | .column q n quote => .column q (if sameName n old then new else n) quote
  | .unary op e => .unary op (e.renameColumn old new)
  | .binary op l r => .binary op (l.renameColumn old new) (r.renameColumn old new)
  | .between e lo hi negated =>
    .between (e.renameColumn old new) (lo.renameColumn old new) (hi.renameColumn old new) negated
  | .within e items negated => .within (e.renameColumn old new) (Expr.renameColumnAll old new items) negated
  | .isNull e negated => .isNull (e.renameColumn old new) negated
  | .call name args form => .call name (Expr.renameColumnAll old new args) form
  | .cast e type => .cast (e.renameColumn old new) type
  | .search branches otherwise =>
    .search (Expr.renameColumnAll old new branches) (otherwise.renameColumn old new)
  | .collate e name => .collate (e.renameColumn old new) name
  | .vector items => .vector (Expr.renameColumnAll old new items)
  | e => e

/-- Expressions with a column renamed. -/
def Expr.renameColumnAll (old new : String) : List Expr → List Expr
  | [] => []
  | e :: es => e.renameColumn old new :: Expr.renameColumnAll old new es

end

/-- The names of the functions whose value may differ from call to call with
the same arguments; an index may not call them. -/
def volatileFunctionNames : List String := ["random", "randomblob", "changes", "total_changes", "last_insert_rowid"]

mutual

/-- The first thing an expression kept in a table's definition holds that it
may not: a query, a parameter, or (when `deterministic` asks for the same value from
the same row, as an index or a generated column does) a function whose value
may change from call to call; `place` names the part of the definition, as
the fault says it. -/
def Expr.indexFault? (place : String) (deterministic : Bool) : Expr → Option String
  | .subquery _ => some ("subqueries prohibited in " ++ place)
  | .someRow _ => some ("subqueries prohibited in " ++ place)
  | .pick _ _ _ => some ("subqueries prohibited in " ++ place)
  | .withinQuery _ _ _ => some ("subqueries prohibited in " ++ place)
  | .parameter => some ("parameters prohibited in " ++ place)
  | .call name args _ =>
    if deterministic && volatileFunctionNames.contains (Text.lowerAscii name) then
      some ("non-deterministic functions prohibited in " ++ place)
    else Expr.indexFaultAll? place deterministic args
  | .unary _ e => e.indexFault? place deterministic
  | .binary _ l r => (l.indexFault? place deterministic).orElse fun _ => r.indexFault? place deterministic
  | .between e lo hi _ =>
    ((e.indexFault? place deterministic).orElse fun _ => lo.indexFault? place deterministic).orElse fun _ => hi.indexFault? place deterministic
  | .within e items _ => (e.indexFault? place deterministic).orElse fun _ => Expr.indexFaultAll? place deterministic items
  | .isNull e _ => e.indexFault? place deterministic
  | .cast e _ => e.indexFault? place deterministic
  | .search branches otherwise =>
    (Expr.indexFaultAll? place deterministic branches).orElse fun _ => otherwise.indexFault? place deterministic
  | .collate e _ => e.indexFault? place deterministic
  | .vector items => Expr.indexFaultAll? place deterministic items
  | _ => none

/-- The first thing some expressions kept in a table's definition hold that they may not. -/
def Expr.indexFaultAll? (place : String) (deterministic : Bool) : List Expr → Option String
  | [] => none
  | e :: es => (e.indexFault? place deterministic).orElse fun _ => Expr.indexFaultAll? place deterministic es

end

/-- The value of an integer literal when it is a 32-bit integer: decimal
digits, or `0x` and at most eight hexadecimal digits below `2^31`. -/
def int32Literal? (t : String) : Option Int :=
  match t.toList with
  | '0' :: x :: rest =>
    if (x == 'x' || x == 'X') && !rest.isEmpty then
      let ds := rest.dropWhile (· == '0')
      if ds.length ≤ 8 && ds.all isHexChar then
        let v := ds.foldl (fun v c => 16 * v + (Char.toNat c - (if c.isDigit then 48 else if c.isUpper then 55 else 87))) 0
        if v < 2147483648 then some (Int.ofNat v) else none
      else none
    else decimal32 t
  | _ => decimal32 t
where
  decimal32 (t : String) : Option Int :=
    match t.toNat? with
    | some n => if n < 2147483648 then some (Int.ofNat n) else none
    | none => none

/-- The output column a term of `ORDER BY` or `GROUP BY` names by number: a
32-bit integer literal, maybe under signs. -/
def Expr.ordinal? : Expr → Option Int
  | .integer t => int32Literal? t
  | .unary .negate e => e.ordinal?.map (- ·)
  | .unary .plus e => e.ordinal?
  | _ => none

/-- An expression without the `COLLATE` clauses around it. -/
def Expr.skipCollate : Expr → Expr
  | .collate e _ => e.skipCollate
  | e => e

/-- An index with a column of its table renamed. -/
def Index.renameColumn (ix : Index) (old new : String) : Index :=
  { ix with
    terms := ix.terms.map fun
      | .column c => .column (if sameName c old then new else c)
      | .expression e => .expression (e.renameColumn old new)
    condition := ix.condition.map (Expr.renameColumn old new) }

/-- Whether an index reads a column: as a term, in an expression or in its condition. -/
def Index.reads (ix : Index) (name : String) : Bool :=
  let inTerms := ix.terms.any fun
    | .column c => sameName c name
    | .expression e => e.columnNames.any (sameName · name)
  inTerms || (ix.condition.map fun c => c.columnNames.any (sameName · name)).getD false

/-- Whether two lists of values are equal under some collations, in turn. -/
def equalUnder (colls : List Collation) (a b : List Cell) : Bool :=
  a.length == b.length && ((a.zip b).zip colls).all fun ((x, y), c) => x.compareWith c y == .eq

/-- The row with an id. -/
def Table.row? (t : Table) (id : Int) : Option Row := t.rows.find? (·.id == id)

/-- The largest row id, or 0 for an empty table. -/
def Table.lastId (t : Table) : Int := (t.rows.getLast?.map (·.id)).getD 0

/-- Puts a row in its place by row id, replacing a row with the same id. -/
def insertById (r : Row) : List Row → List Row
  | [] => [r]
  | s :: rest =>
    if r.id < s.id then r :: s :: rest
    else if r.id == s.id then r :: rest
    else s :: insertById r rest

/-- The table with a row stored. -/
def Table.withRow (t : Table) (r : Row) : Table := { t with rows := insertById r t.rows }

/-- The table without the row of an id. -/
def Table.withoutRow (t : Table) (id : Int) : Table := { t with rows := t.rows.filter (·.id != id) }

/-- The name of the table that remembers the largest row id of each table with growing ids. -/
def sequenceTableName : String := "sqlite_sequence"

/-- A column of the store's tables. -/
def plainColumn (name type : String) : TableColumn := { name, type }

/-- The table that remembers the largest row ids. -/
def sequenceTable : Table := { name := sequenceTableName, columns := [plainColumn "name" "", plainColumn "seq" ""] }

/-- The row id column of the store's tables. -/
def idColumn : TableColumn := { name := "id", type := "integer", isRowId := true }

/-- The obstacle table. -/
def obstacleTable : Table :=
  { name := "moving_obstacles"
    columns := [idColumn, plainColumn "created_at" "datetime", plainColumn "updated_at" "datetime",
      plainColumn "name" "text", plainColumn "speed_avg" "real", plainColumn "sphere_radius" "real"]
    autoincrement := true }

/-- The waypoint table. -/
def waypointTable : Table :=
  { name := "obstacle_waypoints"
    columns := [idColumn, { name := "obstacle_id", type := "integer", notNull := true },
      { name := "order", type := "integer", notNull := true }, plainColumn "latitude" "real",
      plainColumn "longitude" "real", plainColumn "altitude_msl" "real"]
    autoincrement := true
    foreignKeys := [⟨["obstacle_id"], "moving_obstacles", ["id"], .cascade, .none⟩] }

/-- The index of waypoints by their obstacle. -/
def waypointOwnerIndex : Index :=
  Index.ofColumns "idx_obstacle_waypoints_obstacle_id" "obstacle_waypoints" ["obstacle_id"] false

/-- The store's database when it is made. -/
def Database.tracker : Database :=
  { tables := [obstacleTable, sequenceTable, waypointTable]
    indexes := [waypointOwnerIndex] }

end Airspace.Store
