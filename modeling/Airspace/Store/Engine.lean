import Airspace.Store.Alias
import Airspace.Store.Constraint

/-!
# Changing rows

A change runs row by row. For each row:

* **insert**: the values are kept by their columns' affinities; `BEFORE INSERT`
  triggers see the new row with row id -1 when it is still to be chosen; the
  row id is then the one given (which must read as an integer) or one past the
  largest (past the largest ever used, for a table with growing ids, and a
  table that reached the largest possible id is full); then `NOT NULL`, the
  row id and unique indexes are checked, foreign keys counted, the row stored,
  and `AFTER INSERT` triggers fire.
* **delete**: `BEFORE DELETE` triggers; the row, if still there, is deleted;
  the rows that refer to it by a foreign key are counted and, for `ON DELETE
  CASCADE`, deleted in turn; `AFTER DELETE` triggers.
* **update**: the new values are computed from the old row; `BEFORE UPDATE`
  triggers; the columns not assigned are read again; `NOT NULL` of the
  assigned columns, the row id and unique indexes are checked; the row is
  stored; `AFTER UPDATE` triggers. A trigger `UPDATE OF` some columns fires
  only when one of them is assigned.

Triggers fire newest first, temporary ones before the others; a trigger
does not fire again while it runs. `RAISE(IGNORE)` in a trigger skips the rest
of its row, and the statement goes on with the next one.

While foreign keys are enforced, every reference left without its parent row
counts one, and deleting a child of a missing parent takes one back; a count
above zero when the statement ends fails it.

Trigger programs nest through `fuel`; the rows of one statement are changed
one after another at the statement's own depth.
-/

namespace Airspace.Store

/-- The state of a running statement: the database, the temporary triggers,
whether foreign keys are enforced, whether `LIKE` tells case apart, whether a
trigger may fire again while it runs, the count of references without a
parent, the rows the running statement changed (the trigger program's own
statement while one runs), what the connection counts of its changes, the
ids the statement itself inserted, and the resolution of the constraint that
failed it, if one did. -/
structure Run where
  db : Database
  temporary : List Trigger := []
  enforceKeys : Bool := false
  exactLike : Bool := false
  recursive : Bool := false
  pendingKeys : Nat := 0
  changes : Nat := 0
  counters : Counters := {}
  inserted : List Int := []
  broken : Option Resolution := none

/-- Running a statement: a fault stops it, and the state reached stays visible. -/
abbrev Exec := ExceptT Fault (StateM Run)

/-- A result or fault of a pure computation, in a running statement. -/
def liftFault {α : Type} (r : Except Fault α) : Exec α :=
  match r with
  | .ok a => pure a
  | .error e => throw e

/-- A view as a table with no rows: its columns, under the names the view
gives them. -/
def Database.viewShape (db : Database) (v : View) : Table :=
  { name := v.name, columns := namedColumns v.columns (({ db } : Scope).outputColumns (db.inlineQuery v.query)) }

/-- The view a change writes to, when its target is a view rather than a table. -/
def Database.viewTarget? (db : Database) (name : String) : Option View :=
  if (db.table? name).isSome then none else db.view? name

/-- The current state of a table, or the columns of a view. -/
def currentTable (name : String) : Exec Table := do
  let db := (← get).db
  match db.table? name with
  | some t => return t
  | none =>
    match db.view? name with
    | some v => return db.viewShape v
    | none => throw (.logic ("no such table: " ++ name))

/-- Stores the new state of a table. -/
def storeTable (t : Table) : Exec Unit := modify fun r => { r with db := r.db.putTable t }

/-- Counts a row the running statement changed. -/
def countChange : Exec Unit := modify fun r => { r with changes := r.changes + 1 }

/-- Notes the row id of a row just inserted. -/
def noteRowId (id : Int) : Exec Unit := modify fun r => { r with counters := { r.counters with lastRowId := id } }

/-- Ends a statement of a trigger program: the rows it changed become the
connection's count of changes and add to its total. -/
def settleChanges : Exec Unit := modify fun r =>
  { r with changes := 0, counters := { r.counters with changes := r.changes, total := r.counters.total + r.changes } }

/-- Runs a trigger program: its statements count their own rows, and the count
of changes and the last inserted row id the connection shows are put back when
it ends. -/
def inProgram {α : Type} (body : Exec α) : Exec α := do
  let r ← get
  let (changes, shown, rowId) := (r.changes, r.counters.changes, r.counters.lastRowId)
  modify fun r => { r with changes := 0 }
  let x ← body
  modify fun r => { r with changes, counters := { r.counters with changes := shown, lastRowId := rowId } }
  return x

/-- Fails the statement for a broken constraint under a resolution: `FAIL`
keeps the rows it changed before, `ROLLBACK` ends the open transaction, and
any other undoes the statement. -/
def violate {α : Type} (res : Resolution) (f : Fault) : Exec α := do
  modify fun r => { r with broken := some res }
  throw f

/-- Fails when a value of a row of a strict table is not of its column's
type; the statement is undone whatever its resolution. -/
def keepTypes (t : Table) (cells : List Cell) : Exec Unit :=
  match t.strictFault? cells with
  | some f => violate .abort f
  | none => pure ()

/-- Counts references left without a parent. -/
def addPending (n : Nat) : Exec Unit := modify fun r => { r with pendingKeys := r.pendingKeys + n }

/-- Takes back one reference without a parent, if any is counted. -/
def settlePending : Exec Unit := modify fun r => { r with pendingKeys := r.pendingKeys - 1 }

/-- The bindings of a trigger's old and new rows. -/
def rowBindings (t : Table) (old new : Option Row) : List Binding :=
  (new.map fun r => ({ names := ["new"], columns := t.columns, row := some r, qualifiedOnly := true } : Binding)).toList ++
  (old.map fun r => ({ names := ["old"], columns := t.columns, row := some r, qualifiedOnly := true } : Binding)).toList

/-- A row's values in some columns of its table; a row-id name gives the row id. -/
def Table.valuesOf (t : Table) (r : Row) (cols : List String) : List Cell :=
  cols.map fun c => match t.columnIndex? c with
    | some i => r.get i
    | none => if isRowIdName c then .integer r.id else .null

/-- The name of a table's row id in messages: its column's name, or `rowid`. -/
def Table.rowIdName (t : Table) : String :=
  match t.rowIdColumn? with
  | some i => (t.columns[i]?.map (·.name)).getD "rowid"
  | none => "rowid"

/-- The columns of a foreign key's parent: its row id when it names none. -/
def ForeignKey.parentKey (fk : ForeignKey) : List String :=
  if fk.parentColumns.isEmpty then ["rowid"] else fk.parentColumns

/-- Whether some parent key columns are the parent's row id. -/
def Table.keyIsRowId (t : Table) (cols : List String) : Bool :=
  match cols with
  | [c] => isRowIdName c || (match t.columnIndex? c with
    | some i => (t.columns[i]?.map (·.isRowId)).getD false
    | none => false)
  | _ => false

/-- Whether the parent of a foreign key has a row with these key values. -/
def Database.parentHas (db : Database) (fk : ForeignKey) (values : List Cell) : Bool :=
  match db.table? fk.parent with
  | none => false
  | some p =>
    if p.keyIsRowId fk.parentKey then
      match values with
      | [v] => match v.keep .numeric with
        | .integer n => (p.row? n).isSome
        | _ => false
      | _ => false
    else
      p.rows.any fun r => ((p.valuesOf r fk.parentKey).zip values).all fun (a, b) => a.compare b == .eq

/-- The rows of a child table whose foreign key refers to a parent row. -/
def childRows (child : Table) (fk : ForeignKey) (parent : Table) (row : Row) : List Row :=
  let key := parent.valuesOf row fk.parentKey
  if key.any Cell.isNull then []
  else child.rows.filter fun r =>
    let vs := child.valuesOf r fk.columns
    !vs.any Cell.isNull && (vs.zip key).all fun (a, b) => compareUnder (some .numeric) .binary a b == .eq

/-- Every foreign key that refers to a table, with its child table. -/
def Database.referencesTo (db : Database) (parent : String) : List (Table × ForeignKey) :=
  db.tables.flatMap fun t => (t.foreignKeys.filter fun fk => sameName fk.parent parent).map fun fk => (t, fk)

/-- The number of rows of other tables that refer to a row. -/
def Database.childCount (db : Database) (parent : Table) (row : Row) : Nat :=
  (db.referencesTo parent.name).foldl (fun n (t, fk) => n + (childRows t fk parent row).length) 0

/-- Counts the foreign keys of a new row that have no parent. -/
def checkParents (t : Table) (row : Row) : Exec Unit := do
  let r ← get
  if r.enforceKeys then
    for fk in t.foreignKeys do
      let vs := t.valuesOf row fk.columns
      if !vs.any Cell.isNull && !r.db.parentHas fk vs then addPending 1

/-- Takes back the foreign keys of a deleted row whose parent is missing. -/
def releaseParents (t : Table) (row : Row) : Exec Unit := do
  let r ← get
  if r.enforceKeys then
    for fk in t.foreignKeys do
      let vs := t.valuesOf row fk.columns
      if !vs.any Cell.isNull && !r.db.parentHas fk vs then settlePending

/-- A uniqueness constraint of a table: its row id, or a unique index. -/
inductive Uniqueness where
  | rowId
  | index (ix : Index)

/-- Whether two uniqueness constraints are the same one. -/
def Uniqueness.same : Uniqueness → Uniqueness → Bool
  | .rowId, .rowId => true
  | .index a, .index b => sameName a.name b.name
  | _, _ => false

/-- The unique indexes of a table, newest first, as the engine checks them. -/
def Database.uniqueIndexes (db : Database) (t : Table) : List Index :=
  db.indexes.reverse.filter fun ix => ix.unique && sameName ix.table t.name

/-- A term of an `ON CONFLICT` clause as a column, with the collation it
names if any. -/
def upsertTerm? : Expr → Option (String × Option String)
  | .column _ n _ => some (n, none)
  | .collate (.column _ n _) c => some (n, some c)
  | _ => none

/-- The uniqueness constraint the terms of an `ON CONFLICT` clause name: the
row id for one bare term that is the row id, else the first unique index whose
columns the terms are, each a column that names no collation or the index's. -/
def Database.upsertConstraint? (db : Database) (t : Table) (terms : List Expr) : Option Uniqueness :=
  let columns := terms.filterMap upsertTerm?
  let isRowId := match columns with
    | [(n, none)] => match t.columnIndex? n with
      | some i => (t.columns[i]?.map TableColumn.isRowId).getD false
      | none => isRowIdName n
    | _ => false
  if columns.length != terms.length then none
  else if isRowId then some .rowId
  else
    (db.uniqueIndexes t).find? (fun (ix : Index) =>
      match ix.columns?, ix.condition with
      | some cols, none =>
        cols.length == terms.length &&
          (cols.zip (ix.collationsIn t)).all fun (c, coll) =>
            columns.any fun (n, named) => sameName n c && named.all fun m => Collation.ofName? m == some coll
      | _, _ => false)
      |>.map Uniqueness.index

/-- The constraint an `ON CONFLICT` clause handles; none for every one. -/
def Database.upsertTarget? (db : Database) (t : Table) (u : Upsert) : Option Uniqueness :=
  u.target.bind (db.upsertConstraint? t)

/-- The order a new row's uniqueness constraints are checked in: the
constraints the `ON CONFLICT` clauses name, in the order of the clauses, then
the row id if no clause names it, then the other unique indexes. -/
def Database.checkOrder (db : Database) (t : Table) (upserts : List Upsert) : List Uniqueness :=
  let named := (upserts.filterMap (db.upsertTarget? t)).foldl
    (fun acc c => if acc.any (·.same c) then acc else acc ++ [c]) []
  let named := if named.any (·.same .rowId) then named else named ++ [.rowId]
  named ++ ((db.uniqueIndexes t).map Uniqueness.index).filter fun c => !named.any (·.same c)

/-- The `ON CONFLICT` clause that handles a clash on a constraint: the first
that names it, else the one that names none. -/
def Database.upsertFor? (db : Database) (t : Table) (upserts : List Upsert) (c : Uniqueness) : Option Upsert :=
  upserts.find? fun u => match db.upsertTarget? t u with
    | some d => d.same c
    | none => u.target.isNone

/-- The values a row has in an index's terms, an expression evaluated on the
row; none when the index is partial and the row is not one of its rows. -/
def Table.indexKey? (t : Table) (ix : Index) (row : Row) : Except Fault (Option (List Cell)) := do
  let s : Scope := { current := [tableBinding t none (some row)] }
  if let some c := ix.condition then
    if !(← s.eval c).holds then return none
  let key ← ix.terms.mapM fun
    | .column c => pure ((t.valuesOf row [c]).headD .null)
    | .expression e => s.eval e
  return some key

/-- The stored row that a new row clashes with on a constraint, if any. -/
def Table.clash? (t : Table) (c : Uniqueness) (row : Row) : Except Fault (Option Row) :=
  match c with
  | .rowId => .ok (t.row? row.id)
  | .index ix => do
    match ← t.indexKey? ix row with
    | none => return none
    | some key =>
      if key.any Cell.isNull then return none
      let colls := ix.collationsIn t
      t.rows.findM? fun r => do
        match ← t.indexKey? ix r with
        | some k => pure (equalUnder colls k key)
        | none => pure false

/-- The fault of a broken unique index: its columns, or its name when it has an expression. -/
def Table.uniqueFault (t : Table) (ix : Index) : Fault :=
  let names := match ix.columns? with
    | some cols => ", ".intercalate (cols.map fun c => match t.columnIndex? c with
      | some i => t.name ++ "." ++ ((t.columns[i]?.map (·.name)).getD c)
      | none => t.name ++ "." ++ c)
    | none => "index '" ++ ix.name ++ "'"
  .constraint (if ix.primaryKey then 1555 else 2067) ("UNIQUE constraint failed: " ++ names)

/-- Whether a value is the text of some bytes. -/
def Cell.isText (c : Cell) (bs : List UInt8) : Bool :=
  match c with
  | .text s => s == bs
  | _ => false

/-- The largest row id a table with growing ids has used, as `sqlite_sequence` remembers it. -/
def Database.sequenceOf (db : Database) (name : String) : Int :=
  match db.table? sequenceTableName with
  | some s => match s.rows.find? fun r => (r.get 0).isText (bytesOf name) with
    | some r => (r.get 1).intValue
    | none => 0
  | none => 0

/-- Remembers a row id of a table with growing ids if it is the largest yet. -/
def bumpSequence (name : String) (id : Int) : Exec Unit := do
  match (← get).db.table? sequenceTableName with
  | none => pure ()
  | some s =>
    match s.rows.find? fun r => (r.get 0).isText (bytesOf name) with
    | some r => if id > (r.get 1).intValue then storeTable (s.withRow (r.set 1 (.integer id)))
    | none => if id > 0 then storeTable (s.withRow ⟨s.lastId + 1, [.text (bytesOf name), .integer id]⟩)

/-- The row id for a new row. -/
def newRowId (t : Table) : Exec Int := do
  let last := t.lastId
  if last ≥ largestInt then throw .full
  if t.autoincrement then
    let seq := (← get).db.sequenceOf t.name
    if seq ≥ largestInt then throw .full
    return max (last + 1) (seq + 1)
  return last + 1

/-- The triggers that fire on a change of a table: temporary ones first,
newest first, leaving out those running unless triggers may recurse. -/
def Run.firing (r : Run) (active : List String) (table : String) (timing : Timing) (event : Event) : List Trigger :=
  let fires := fun (t : Trigger) =>
    sameName t.table table && t.timing == timing && (r.recursive || !active.any (sameName · t.name)) &&
      match t.event, event with
      | .insert, .insert => true
      | .delete, .delete => true
      | .update cols, .update assigned => cols.isEmpty || cols.any fun c => assigned.any (sameName c ·)
      | _, _ => false
  r.temporary.reverse.filter fires ++ r.db.triggers.reverse.filter fires

/-- How many trigger programs may run one inside another. -/
def triggerDepth : Nat := 1000

/-- The scope with the database as the statement has left it so far. -/
def Scope.refreshed (scope : Scope) : Exec Scope := do
  let r ← get
  return { scope with db := r.db, exactLike := r.exactLike, counters := r.counters }

/-- A view as a table of the rows its query gives now, numbered from 1. -/
def viewRows (scope : Scope) (v : View) : Exec Table := do
  let scope ← scope.refreshed
  let q := scope.db.prepareQuery v.query
  let rows ← liftFault (scope.select none q)
  return derivedTable v.name (scope.db.viewShape v).columns rows

/-- A query's value in place of the query, when the query reads nothing of
the rows at hand (it checks in `s`, which has none) and its value is had. -/
def Scope.settleQuery (s : Scope) (e : Expr) : Expr :=
  if (s.check e).toBool then
    match s.eval e with
    | .ok v => .constant v
    | .error _ => e
  else e

mutual

/-- An expression with each query inside it that reads nothing of the rows at
hand replaced by its value. The engine computes such a query once for a whole
statement, the first time it needs it, so the rows the statement changes
after that do not change its value; a query whose value fails stays, to fail
where it is needed. -/
def Scope.settle (s : Scope) : Expr → Expr
  | .subquery q => s.settleQuery (.subquery q)
  | .someRow q => s.settleQuery (.someRow q)
  | .pick q j width => s.settleQuery (.pick q j width)
  | .unary op e => .unary op (s.settle e)
  | .binary op l r => .binary op (s.settle l) (s.settle r)
  | .between e lo hi negated => .between (s.settle e) (s.settle lo) (s.settle hi) negated
  | .within e items negated => .within (s.settle e) (s.settleAll items) negated
  | .isNull e negated => .isNull (s.settle e) negated
  | .call name args form => .call name (s.settleAll args) form
  | .cast e type => .cast (s.settle e) type
  | .search branches otherwise => .search (s.settleAll branches) (s.settle otherwise)
  | .collate e name => .collate (s.settle e) name
  | .vector items => .vector (s.settleAll items)
  | .withinQuery e q negated => .withinQuery (s.settle e) q negated
  | e => e

/-- Expressions with the queries that read nothing of the rows at hand replaced by their values. -/
def Scope.settleAll (s : Scope) : List Expr → List Expr
  | [] => []
  | e :: es => s.settle e :: s.settleAll es

end

/-- The value given last for a slot of a new row. -/
def givenFor (given : List (Option Slot × Cell)) (s : Slot) : Option Cell :=
  (given.reverse.find? fun (s', _) => s' == some s).map (·.2)

/-- The row id given for a new row, unless it is null: the value of its row id column, or else
of the row id itself. -/
def Table.givenKey (t : Table) (given : List (Option Slot × Cell)) : Option Cell :=
  let key := match t.rowIdColumn? with
    | some i => (givenFor given (.column i)).orElse fun _ => givenFor given .rowId
    | none => givenFor given .rowId
  key.filter (!·.isNull)

/-- The cells of a new row before its row id is set: each column takes the value given for it,
or else its default, kept as its affinity keeps it unless it is the row id. -/
def Table.newCells (t : Table) (given : List (Option Slot × Cell)) : Except Fault (List Cell) := do
  let raw ← t.columns.zipIdx.mapM fun (c, i) => match givenFor given (.column i) with
    | some v => pure v
    | none => c.defaultValue
  return (t.columns.zip raw).map fun (c, v) => if c.isRowId then v else v.keep c.affinity

/-- The row id of a new row: the one given, which must read as an integer, or else a new one. -/
def rowIdFor (t : Table) : Option Cell → Exec Int
  | some v => liftFault (mustBeInt v)
  | none => newRowId t

/-- Fills or refuses the nulls of a new row in the columns that refuse null, as the resolution
says: the cells to store, or none when the row is skipped. -/
def fillNotNull (t : Table) (res : Resolution) (cells : List Cell) : Exec (Option (List Cell)) := do
  let mut cells := cells
  for (c, i) in t.columns.zipIdx do
    if c.notNull && !c.isRowId && (cells.getD i .null).isNull then
      match res with
      | .ignore => return none
      | .replace =>
        match c.default with
        | some _ => cells := cells.set i (← liftFault c.defaultValue)
        | none => violate .abort (.constraint 1299 ("NOT NULL constraint failed: " ++ t.name ++ "." ++ c.name))
      | _ => violate res (.constraint 1299 ("NOT NULL constraint failed: " ++ t.name ++ "." ++ c.name))
  return some cells

/-- Whether a new row passes its table's checks: a failed check skips the row under `IGNORE`
and fails the statement otherwise. -/
def passesChecks (t : Table) (scope : Scope) (res : Resolution) (row : Row) : Exec Bool := do
  if t.checks.isEmpty then return true
  keepTypes t row.cells
  match ← liftFault (t.failedCheck? (← scope.refreshed) row none) with
  | some name =>
    if res == .ignore then return false
    violate (if res == .replace then .abort else res) (.constraint 275 ("CHECK constraint failed: " ++ name))
  | none => return true

/-- Stores a new row that met its table's constraints: the references it makes are counted, it
is counted as changed, its id is noted (and reported, for a statement's own rows), and a table
with growing ids remembers the id. -/
def storeNewRow (t : Table) (top : Bool) (row : Row) : Exec Unit := do
  keepTypes t row.cells
  checkParents t row
  storeTable (t.withRow row)
  countChange
  noteRowId row.id
  if top then modify fun r => { r with inserted := r.inserted ++ [row.id] }
  if t.autoincrement then bumpSequence t.name row.id

/-- The ids of a table's rows that satisfy a condition, in order. -/
def selectIds (scope : Scope) (t : Table) (asName : Option String) (condition : Option Expr) : Exec (List Int) := do
  match condition with
  | none => pure (t.rows.map (·.id))
  | some c =>
    let scope ← scope.refreshed
    liftFault (t.rows.filterMapM fun r => do
      let v ← ({ scope with current := [tableBinding t asName (some r)] } : Scope).eval c
      pure (if v.holds then some r.id else none))

/-- The rows an `UPDATE` with `FROM` changes, by id, with their new values:
each row of the target joins the rows of the sources, and the last joined row
that meets the condition gives the values, all before any row changes. -/
def joinedUpdates (scope : Scope) (t : Table) (asName : Option String) (sources : List Joined)
    (condition : Option Expr) (values : List Expr) : Exec (List (Int × List Cell)) := do
  let scope ← scope.refreshed
  let found ← liftFault (t.rows.filterMapM fun r => do
    let frames ← scope.joinRows [[tableBinding t asName (some r)]] sources
    let hits ← frames.filterM fun f => match condition with
      | some c => Cell.holds <$> ({ scope with current := f } : Scope).eval c
      | none => pure true
    match hits.getLast? with
    | some f => do
      let vs ← ({ scope with current := f } : Scope).evalAll values
      pure (some (r.id, vs))
    | none => pure none)
  return found.mergeSort fun a b => a.1 ≤ b.1

/-- The output rows of a query, at most `want` of them when it can stop early. -/
def queryRows (scope : Scope) (want : Option Nat) (q : Query) : Exec (List (List Cell)) := do
  let scope ← scope.refreshed
  liftFault (scope.select want q)

/-- Runs a query for its faults: the statement itself stops at its first row,
a trigger's query reads them all. -/
def runQuery (scope : Scope) (top : Bool) (q : Query) : Exec Unit := do
  let _ ← queryRows scope (if top then some 1 else none) q

mutual

/-- Fires the triggers of a change of one row; false when one of them skips the row. -/
def fireTriggers : Nat → List String → String → Timing → Event → Option Row → Option Row → Exec Bool
  | 0, _, _, _, _, _, _ => throw (.logic "too many levels of trigger recursion")
  | fuel + 1, active, table, timing, event, old, new => do
    let t ← currentTable table
    let triggers := (← get).firing active table timing event
    runTriggers fuel active t triggers old new

/-- Runs triggers in turn while none skips the row. -/
def runTriggers : Nat → List String → Table → List Trigger → Option Row → Option Row → Exec Bool
  | 0, _, _, _, _, _ => throw (.logic "too many levels of trigger recursion")
  | _ + 1, _, _, [], _, _ => return true
  | fuel + 1, active, t, trigger :: rest, old, new => do
    let scope : Scope := { bindings := rowBindings t old new, inTrigger := true }
    let body : Exec Bool := do
      if active.length ≥ triggerDepth then throw (.logic "too many levels of trigger recursion")
      let go ← match trigger.condition with
        | some c => do
          let v ← liftFault ((← scope.refreshed).eval c)
          pure v.holds
        | none => pure true
      if go then runBody fuel (active ++ [trigger.name]) scope (trigger.body.map (← get).db.prepare)
      return true
    let kept ← inProgram (tryCatch body fun e => match e with
      | .ignored => pure false
      | e => throw e)
    if kept then runTriggers fuel active t rest old new else return false

/-- Runs the statements of a trigger's body. -/
def runBody : Nat → List String → Scope → List Change → Exec Unit
  | 0, _, _, _ => throw (.logic "too many levels of trigger recursion")
  | _ + 1, _, _, [] => pure ()
  | fuel + 1, active, scope, c :: rest => do
    runChange fuel active scope false c
    match c with
    | .select _ => pure ()
    | _ => settleChanges
    runBody fuel active scope rest

/-- Runs a query or a change; `top` for the statement itself rather than a trigger's. -/
def runChange : Nat → List String → Scope → Bool → Change → Exec Unit
  | 0, _, _, _, _ => throw (.logic "too many levels of trigger recursion")
  | fuel + 1, active, scope, top, c =>
    match c with
    | .select q => runQuery scope top q
    | .insert _ target cols source _ => do
      match (← get).db.viewTarget? target.name with
      | some v => do
        let shape := (← get).db.viewShape v
        match source with
        | .values rows => insteadInserts fuel active scope shape cols rows
        | .defaults => insteadInserts fuel active scope shape (some []) [[]]
        | .query q => do
          let rows ← queryRows scope none q
          insteadInserts fuel active scope shape cols (rows.map fun vs => vs.map Expr.constant)
      | none => insertInto fuel active scope top c
    | .update _ target sets sources condition => do
      match (← get).db.viewTarget? target.name with
      | some v => do
        let t ← viewRows scope v
        let slots := sets.filterMap fun (n, e) => (t.slot? n).map fun s => (n, s, e)
        let targets ← if sources.isEmpty then do
            let ids ← selectIds scope t target.asName condition
            pure (ids.map (·, none))
          else do
            let found ← joinedUpdates scope t target.asName sources condition (slots.map fun (_, _, e) => e)
            pure (found.map fun (id, vs) => (id, some vs))
        let slots ← if targets.isEmpty then pure slots else do
          let s ← scope.refreshed
          pure (slots.map fun (n, slot, e) => (n, slot, s.settle e))
        insteadUpdates fuel active scope t target.asName slots targets
      | none => updateIn fuel active scope c
    | .delete target condition => do
      match (← get).db.viewTarget? target.name with
      | some v => do
        let t ← viewRows scope v
        let ids ← selectIds scope t target.asName condition
        insteadDeletes fuel active t ids
      | none => deleteFrom fuel active scope c

/-- Runs an `INSERT` into a table. Rows of values are evaluated one by one as
they go in, but all of them first when the table has `INSERT` triggers or the
values read the table. -/
def insertInto : Nat → List String → Scope → Bool → Change → Exec Unit
  | 0, _, _, _, _ => throw (.logic "too many levels of trigger recursion")
  | fuel + 1, active, scope, top, c =>
    match c with
    | .insert res target cols source upserts => do
      let t ← currentTable target.name
      let into : Target := { target with name := t.name }
      match source with
      | .values rows => do
        let r ← get
        let triggered := (r.temporary ++ r.db.triggers).any fun tr =>
          sameName tr.table t.name && match tr.event with
            | .insert => true
            | _ => false
        let rows ← if rows.length > 1 && (triggered || rows.any (Expr.readsAny t.name)) then do
            let s ← scope.refreshed
            let values ← liftFault (rows.mapM s.evalAll)
            pure (values.map fun vs => vs.map Expr.constant)
          else pure rows
        insertEach fuel active scope top into cols res upserts rows
      | .defaults => insertEach fuel active scope top into (some []) res upserts [[]]
      | .query q => do
        let rows ← queryRows scope none q
        insertEach fuel active scope top into cols res upserts (rows.map fun vs => vs.map Expr.constant)
    | _ => pure ()

/-- Runs an `UPDATE` of a table. -/
def updateIn : Nat → List String → Scope → Change → Exec Unit
  | 0, _, _, _ => throw (.logic "too many levels of trigger recursion")
  | fuel + 1, active, scope, c =>
    match c with
    | .update res target sets sources condition => do
      let t ← currentTable target.name
      let slots := sets.filterMap fun (n, e) => (t.slot? n).map fun s => (n, s, e)
      let targets ← if sources.isEmpty then do
          let ids ← selectIds scope t target.asName condition
          pure (ids.map (·, none))
        else do
          let found ← joinedUpdates scope t target.asName sources condition (slots.map (·.2.2))
          pure (found.map fun (id, vs) => (id, some vs))
      let slots ← if targets.isEmpty then pure slots else do
        let s ← scope.refreshed
        pure (slots.map fun (n, slot, e) => (n, slot, s.settle e))
      updateEach fuel active scope t.name target.asName slots res targets
    | _ => pure ()

/-- Runs a `DELETE` from a table. -/
def deleteFrom : Nat → List String → Scope → Change → Exec Unit
  | 0, _, _, _ => throw (.logic "too many levels of trigger recursion")
  | fuel + 1, active, scope, c =>
    match c with
    | .delete target condition => do
      let t ← currentTable target.name
      let ids ← selectIds scope t target.asName condition
      deleteEach fuel active t.name ids
    | _ => pure ()

/-- Inserts rows of values into a view: each row, evaluated when its turn
comes, is the new row of the view's `INSTEAD OF INSERT` triggers, with null
for the columns not given and no affinity applied. -/
def insteadInserts : Nat → List String → Scope → Table → Option (List String) → List (List Expr) → Exec Unit
  | 0, _, _, _, _, _ => throw (.logic "too many levels of trigger recursion")
  | fuel + 1, active, scope, v, cols, rows => rows.forM fun row => do
    let values ← liftFault ((← scope.refreshed).evalAll row)
    let names := cols.getD (v.columns.map (·.name))
    let given := names.zip values
    let cells := v.columns.map fun c => ((given.reverse.find? fun (n, _) => sameName n c.name).map (·.2)).getD .null
    let done ← fireTriggers fuel active v.name .instead .insert none (some ⟨-1, cells⟩)
    if done then countChange

/-- Updates rows of a view by id: each row's new values are the values given
for it or else those its assignments give, and the old and new rows go to the
view's `INSTEAD OF UPDATE` triggers. -/
def insteadUpdates : Nat → List String → Scope → Table → Option String → List (String × Slot × Expr) →
    List (Int × Option (List Cell)) → Exec Unit
  | 0, _, _, _, _, _, _ => throw (.logic "too many levels of trigger recursion")
  | fuel + 1, active, scope, t, asName, slots, targets => targets.forM fun (id, given) => do
    match t.row? id with
    | none => pure ()
    | some old =>
      let s : Scope := { (← scope.refreshed) with current := [tableBinding t asName (some old)] }
      let values ← match given with
        | some vs => pure (slots.zipWith (fun (_, slot, _) v => (slot, v)) vs)
        | none => slots.mapM fun (_, slot, e) => do
          let v ← liftFault (s.eval e)
          pure (slot, v)
      let cells := values.foldl (fun cells (slot, v) => match slot with
        | .column i => cells.set i v
        | .rowId => cells) old.cells
      let done ← fireTriggers fuel active t.name .instead (.update (slots.map (·.1))) (some old) (some ⟨old.id, cells⟩)
      if done then countChange

/-- Deletes rows of a view by id: each row is the old row of the view's
`INSTEAD OF DELETE` triggers. -/
def insteadDeletes : Nat → List String → Table → List Int → Exec Unit
  | 0, _, _, _ => throw (.logic "too many levels of trigger recursion")
  | fuel + 1, active, t, ids => ids.forM fun id => do
    match t.row? id with
    | none => pure ()
    | some old =>
      let done ← fireTriggers fuel active t.name .instead .delete (some old) none
      if done then countChange

/-- Inserts rows of values, each evaluated when its turn comes. -/
def insertEach : Nat → List String → Scope → Bool → Target → Option (List String) → Resolution → List Upsert →
    List (List Expr) → Exec Unit
  | 0, _, _, _, _, _, _, _, _ => throw (.logic "too many levels of trigger recursion")
  | fuel + 1, active, scope, top, into, cols, res, upserts, rows => rows.forM fun row => do
    let values ← liftFault ((← scope.refreshed).evalAll row)
    let t ← currentTable into.name
    let names := cols.getD (t.givenColumns.map (·.name))
    let given : List (Option Slot × Cell) := (names.zip values).map fun (n, v) => (t.slot? n, v)
    insertRow fuel active scope top into given res upserts

/-- Inserts one row from the values given for some of its slots. A clash with
a stored row on a uniqueness constraint goes to the `ON CONFLICT` clause that
handles the constraint — which skips the row, or updates the stored row with
`excluded` naming the new one — and else to the resolution. -/
def insertRow : Nat → List String → Scope → Bool → Target → List (Option Slot × Cell) → Resolution →
    List Upsert → Exec Unit
  | 0, _, _, _, _, _, _, _ => throw (.logic "too many levels of trigger recursion")
  | fuel + 1, active, scope, top, into, given, res, upserts => do
    let table := into.name
    let t ← currentTable table
    let cells ← liftFault (t.newCells given)
    let key := t.givenKey given
    let order ← liftFault t.generatedOrder
    let generates := !order.isEmpty
    if !((← get).firing active table .before .insert).isEmpty then
      let triggerId ← match key with
        | some v => liftFault (mustBeInt v)
        | none => pure (-1)
      let cells ← liftFault (t.generate (← scope.refreshed) order triggerId (t.withIdCell cells triggerId))
      keepTypes t cells
      let proceed ← fireTriggers fuel active table .before .insert none (some ⟨triggerId, cells⟩)
      if !proceed then return
    let t ← currentTable table
    let id ← rowIdFor t key
    let mut cells := t.withIdCell cells id
    if generates then
      keepTypes t cells
      cells ← liftFault (t.generate (← scope.refreshed) order id cells)
    let some filled ← fillNotNull t res cells | return
    let row : Row := ⟨id, filled⟩
    unless (← passesChecks t scope res row) do return
    let db := (← get).db
    let order := db.checkOrder t upserts
    let order := if res == .replace && (db.upsertFor? t upserts .rowId).isNone
      then order.filter (!·.same .rowId) ++ [.rowId] else order
    for c in order do
      let t ← currentTable table
      match ← liftFault (t.clash? c row) with
      | none => pure ()
      | some other =>
        match db.upsertFor? t upserts c with
        | some ⟨_, _, .nothing⟩ => return
        | some ⟨_, _, .update sets condition⟩ =>
          let excluded : Binding := { names := ["excluded"], columns := t.columns, row := some row, qualifiedOnly := true }
          let withExcluded : Scope := { scope with bindings := excluded :: scope.bindings }
          let go ← match condition with
            | some e => do
              let s ← withExcluded.refreshed
              let v ← liftFault (({ s with current := [tableBinding t into.asName (some other)] } : Scope).eval e)
              pure v.holds
            | none => pure true
          if go then
            let slots := sets.filterMap fun (n, e) => (t.slot? n).map fun s => (n, s, e)
            updateRow fuel active withExcluded table into.asName slots .abort other.id none
          return
        | none =>
          match res with
          | .ignore => return
          | .replace => removeRow fuel active table other.id
          | _ =>
            match c with
            | .rowId => violate res (.constraint 1555 ("UNIQUE constraint failed: " ++ t.name ++ "." ++ t.rowIdName))
            | .index ix => violate res (t.uniqueFault ix)
    let t ← currentTable table
    storeNewRow t top row
    let _ ← fireTriggers fuel active table .after .insert none (some row)

/-- Deletes a row that another takes the place of: no triggers fire, but
foreign keys are counted and their actions taken. -/
def removeRow : Nat → List String → String → Int → Exec Unit
  | 0, _, _, _ => throw (.logic "too many levels of trigger recursion")
  | fuel + 1, active, table, id => do
    let t ← currentTable table
    match t.row? id with
    | none => pure ()
    | some row => dropRow fuel active t row

/-- Deletes a stored row: foreign keys are counted, the row goes, and the
actions of the keys that refer to it are taken. -/
def dropRow : Nat → List String → Table → Row → Exec Unit
  | 0, _, _, _ => throw (.logic "too many levels of trigger recursion")
  | fuel + 1, active, t, row => do
    let enforce := (← get).enforceKeys
    if enforce then
      releaseParents t row
      addPending ((← get).db.childCount t row)
    storeTable (t.withoutRow row.id)
    if enforce then cascade fuel active t row

/-- Takes the `ON DELETE` actions of the foreign keys that refer to a deleted row. -/
def cascade : Nat → List String → Table → Row → Exec Unit
  | 0, _, _, _ => throw (.logic "too many levels of trigger recursion")
  | fuel + 1, active, parent, row => do
    for (child, fk) in (← get).db.referencesTo parent.name do
      let ids := (childRows child fk parent row).map (·.id)
      match fk.onDelete with
      | .cascade => inProgram do
        deleteEach fuel active child.name ids
        settleChanges
      | .setNull => inProgram do
        let slots := fk.columns.filterMap fun n => (child.slot? n).map fun s => (n, s, Expr.null)
        updateEach fuel active {} child.name none slots .abort (ids.map (·, none))
        settleChanges
      | .restrict =>
        if !ids.isEmpty then throw (.raised .abort "FOREIGN KEY constraint failed")
      | _ => pure ()

/-- Deletes rows by id, each one if it is still there. -/
def deleteEach : Nat → List String → String → List Int → Exec Unit
  | 0, _, _, _ => throw (.logic "too many levels of trigger recursion")
  | fuel + 1, active, table, ids => ids.forM fun id => deleteRow fuel active table id

/-- Deletes one row, with its triggers. -/
def deleteRow : Nat → List String → String → Int → Exec Unit
  | 0, _, _, _ => throw (.logic "too many levels of trigger recursion")
  | fuel + 1, active, table, id => do
    let t ← currentTable table
    match t.row? id with
    | none => pure ()
    | some row =>
      let proceed ← fireTriggers fuel active table .before .delete (some row) none
      if proceed then
        let t ← currentTable table
        match t.row? id with
        | none => pure ()
        | some row =>
          dropRow fuel active t row
          countChange
          let _ ← fireTriggers fuel active table .after .delete (some row) none

/-- Updates rows by id, each one if it is still there, with the values given
for it or else those its assignments give. -/
def updateEach : Nat → List String → Scope → String → Option String → List (String × Slot × Expr) →
    Resolution → List (Int × Option (List Cell)) → Exec Unit
  | 0, _, _, _, _, _, _, _ => throw (.logic "too many levels of trigger recursion")
  | fuel + 1, active, scope, table, asName, slots, res, targets => targets.forM fun (id, given) =>
    updateRow fuel active scope table asName slots res id given

/-- Updates one row, with its triggers: the assignments take the values given,
or else are evaluated on the row. -/
def updateRow : Nat → List String → Scope → String → Option String → List (String × Slot × Expr) →
    Resolution → Int → Option (List Cell) → Exec Unit
  | 0, _, _, _, _, _, _, _, _ => throw (.logic "too many levels of trigger recursion")
  | fuel + 1, active, scope, table, asName, slots, res, id, given => do
    let t ← currentTable table
    match t.row? id with
    | none => pure ()
    | some old =>
      let s : Scope := { (← scope.refreshed) with current := [tableBinding t asName (some old)] }
      let values ← match given with
        | some vs => pure (slots.zipWith (fun (_, slot, _) v => (slot, v)) vs)
        | none => slots.mapM fun (_, slot, e) => do
          let v ← liftFault (s.eval e)
          pure (slot, v)
      let newKey := (values.filter fun (slot, _) => t.slotIsRowId slot).getLast?.map (·.2)
      let newId ← match newKey with
        | some v => liftFault (mustBeInt v)
        | none => pure old.id
      let changed := values.filterMap fun (slot, _) => match slot with
        | .column i => some i
        | .rowId => none
      let assign := fun (cells : List Cell) => values.foldl (fun cells (slot, v) => match slot with
        | .column i =>
          match t.columns[i]? with
          | some c => if c.isRowId then cells else cells.set i (v.keep c.affinity)
          | none => cells
        | .rowId => cells) cells
      let order ← liftFault t.generatedOrder
      let new : Row := ⟨newId, ← liftFault (t.generate s order newId (t.withIdCell (assign old.cells) newId))⟩
      let names := slots.map (·.1)
      let proceed ← if ((← get).firing active table .before (.update names)).isEmpty then pure true else do
        keepTypes t new.cells
        fireTriggers fuel active table .before (.update names) (some old) (some new)
      if proceed then
        let t ← currentTable table
        match t.row? id with
        | none => pure ()
        | some current =>
          let cells := t.withIdCell (current.cells.zipIdx.map fun (c, i) =>
            if changed.contains i then new.get i else c) newId
          let cells ← if order.isEmpty then pure cells else do
            keepTypes t cells
            liftFault (t.generate (← scope.refreshed) order newId cells)
          updateStored fuel active scope t old current ⟨newId, cells⟩ names res

/-- Checks and stores an updated row, then fires the `AFTER UPDATE` triggers. -/
def updateStored : Nat → List String → Scope → Table → Row → Row → Row → List String → Resolution → Exec Unit
  | 0, _, _, _, _, _, _, _, _ => throw (.logic "too many levels of trigger recursion")
  | fuel + 1, active, scope, t, old, current, new, names, res => do
    let changedNames := t.changedNames names
    for (c, i) in t.columns.zipIdx do
      if changedNames.any (sameName · c.name) && c.notNull && !c.isRowId && (new.get i).isNull then
        if res == .ignore then return
        violate (if res == .replace then .abort else res)
          (.constraint 1299 ("NOT NULL constraint failed: " ++ t.name ++ "." ++ c.name))
    if t.checks.any fun c => t.readsSlot changedNames c.condition then
      keepTypes t new.cells
      match ← liftFault (t.failedCheck? (← scope.refreshed) new (some changedNames)) with
      | some name =>
        if res == .ignore then return
        violate (if res == .replace then .abort else res) (.constraint 275 ("CHECK constraint failed: " ++ name))
      | none => pure ()
    if new.id != current.id && (t.row? new.id).isSome then
      if res == .ignore then return
      else if res == .replace then removeRow fuel active t.name new.id
      else violate res (.constraint 1555 ("UNIQUE constraint failed: " ++ t.name ++ "." ++ t.rowIdName))
    for ix in (← get).db.uniqueIndexes t do
      let t ← currentTable t.name
      let touched := new.id != current.id || changedNames.any ix.reads
      if touched then
        match ← liftFault ((t.withoutRow current.id).clash? (.index ix) new) with
        | some other =>
          if res == .ignore then return
          else if res == .replace then removeRow fuel active t.name other.id
          else violate res (t.uniqueFault ix)
        | none => pure ()
    let t ← currentTable t.name
    let r ← get
    if r.enforceKeys then
      for fk in t.foreignKeys do
        let touched := fk.columns.any fun c => changedNames.any (sameName · c)
        if touched then
          let before := t.valuesOf current fk.columns
          if !before.any Cell.isNull && !r.db.parentHas fk before then settlePending
          let after := t.valuesOf new fk.columns
          if !after.any Cell.isNull && !r.db.parentHas fk after then addPending 1
      if new.id != current.id then addPending (r.db.childCount t current)
    keepTypes t new.cells
    storeTable ((t.withoutRow current.id).withRow new)
    countChange
    let _ ← fireTriggers fuel active t.name .after (.update names) (some old) (some new)

end

end Airspace.Store
