import Airspace.Store.Engine
import Airspace.Store.Parse

/-!
# Running statements

A session is a connection to a database: whether it enforces foreign keys,
its temporary triggers, and its open transaction. SQL text runs statement by
statement, each read only after the one before it has run, and the first
failure stops the text; the statements before it keep their changes.

A statement is checked before it runs, the way the engine prepares it: its
table must exist, and its columns, functions and the triggers it may fire
must make sense. A failing change leaves the database as it was before the
change; `RAISE(FAIL)` keeps the rows changed before it, and `RAISE(ROLLBACK)`
also undoes the open transaction.

Tables, indexes and triggers are made and dropped with the engine's checks
and messages. A transaction begins with `BEGIN` or a first `SAVEPOINT` and
ends with `COMMIT` (or the release of that savepoint) or `ROLLBACK`; one left
open when the session closes is rolled back.
-/

namespace Airspace.Store

/-- Whether a name is reserved for the engine's own objects. -/
def isReservedName (n : String) : Bool := (Text.lowerAscii n).startsWith "sqlite_"

/-- The check-time bindings of a trigger's rows for a change of a kind. -/
def eventBindings (t : Table) (event : Event) : List Binding :=
  let row := fun (n : String) => ({ names := [n], columns := t.columns, row := none, qualifiedOnly := true } : Binding)
  match event with
  | .insert => [row "new"]
  | .delete => [row "old"]
  | .update _ => [row "new", row "old"]

/-- Whether a trigger may fire on a change of a kind. -/
def Trigger.firesOn (t : Trigger) (table : String) (event : Event) : Bool :=
  sameName t.table table &&
    match t.event, event with
    | .insert, .insert => true
    | .delete, .delete => true
    | .update cols, .update assigned => cols.isEmpty || cols.any fun c => assigned.any (sameName c ·)
    | _, _ => false

/-- The table a change of a kind writes to: a stored table, or a view with an
`INSTEAD OF` trigger for the change (among `temporary` and the database's),
as a table of its columns; any other view cannot be written to. -/
def Database.writable (db : Database) (temporary : List Trigger) (target : Target) (inTrigger : Bool)
    (event : Event) : Except Fault Table :=
  match db.viewTarget? target.name with
  | some v =>
    if (temporary ++ db.triggers).any fun tr => tr.timing == .instead && tr.firesOn v.name event then
      .ok (db.viewShape v)
    else .error (.logic ("cannot modify " ++ target.name ++ " because it is a view"))
  | none => db.findTable target inTrigger

/-- Checks a name an assignment writes to: a column not generated, or the row id. -/
def Table.checkAssigned (t : Table) (n : String) : Except Fault Unit :=
  match t.slot? n with
  | none => .error (.logic ("no such column: " ++ n))
  | some (.column i) =>
    match t.columns[i]? with
    | some c => if c.isGenerated then .error (.logic ("cannot UPDATE generated column \"" ++ c.name ++ "\"")) else .ok ()
    | none => .ok ()
  | some .rowId => .ok ()

/-- Checks a change: its table, its columns, its values. -/
def Database.checkChange (db : Database) (temporary : List Trigger) (outer : Scope) (inTrigger : Bool) :
    Change → Except Fault Unit
  | .select q => do let _ ← ({ outer with db } : Scope).checkQuery q
  | .insert _ target cols source upserts => do
    let outer : Scope := { outer with db }
    let t ← db.writable temporary target inTrigger .insert
    match cols with
    | some names =>
      for n in names do
        match t.slot? n with
        | none => throw (.logic ("table " ++ target.shown inTrigger ++ " has no column named " ++ n))
        | some (.column i) =>
          if let some c := t.columns[i]? then
            if c.isGenerated then throw (.logic ("cannot INSERT into generated column \"" ++ c.name ++ "\""))
        | some .rowId => pure ()
    | none => pure ()
    let width := t.givenColumns.length
    match source with
    | .values rows =>
      for row in rows do
        outer.checkAll row
      for row in rows do
        match cols with
        | none =>
          if row.length != width then
            throw (.logic ("table " ++ target.shown inTrigger ++ " has " ++ toString width ++
              " columns but " ++ toString row.length ++ " values were supplied"))
        | some names =>
          if row.length != names.length then
            throw (.logic (toString row.length ++ " values for " ++ toString names.length ++ " columns"))
    | .query q =>
      let given ← outer.checkQuery q
      let expected := (cols.map List.length).getD width
      if given != expected then
        match cols with
        | none =>
          throw (.logic ("table " ++ target.shown inTrigger ++ " has " ++ toString width ++
            " columns but " ++ toString given ++ " values were supplied"))
        | some names => throw (.logic (toString given ++ " values for " ++ toString names.length ++ " columns"))
    | .defaults => pure ()
    let here : Scope := { outer with current := [tableBinding t target.asName none] }
    for (u, k) in upserts.zipIdx do
      match u.target with
      | none => pure ()
      | some terms =>
        here.checkAll terms
        match u.targetCondition with
        | some c => here.check c
        | none => pure ()
        if (db.upsertConstraint? t terms).isNone then
          let which := if upserts.length == 1 then "" else ordinalText (k + 1) ++ " "
          throw (.logic (which ++ "ON CONFLICT clause does not match any PRIMARY KEY or UNIQUE constraint"))
    let excluded : Binding := { names := ["excluded"], columns := t.columns, row := none, qualifiedOnly := true }
    let withExcluded : Scope := { here with bindings := excluded :: here.bindings }
    for u in upserts do
      match u.action with
      | .update sets condition =>
        for (n, e) in sets do
          withExcluded.check e
          t.checkAssigned n
        match condition with
        | some c => withExcluded.check c
        | none => pure ()
      | .nothing => pure ()
    let _ ← t.generatedOrder
  | .update _ target sets sources condition => do
    let t ← db.writable temporary target inTrigger (.update (sets.map (·.1)))
    let outer : Scope := { outer with db }
    outer.checkSources sources
    let s : Scope := { outer with current := tableBinding t target.asName none :: outer.frameOf sources }
    for (n, e) in sets do
      s.check e
      t.checkAssigned n
    match condition with
    | some c => s.check c
    | none => pure ()
    s.checkJoins sources
    let _ ← t.generatedOrder
  | .delete target condition => do
    let t ← db.writable temporary target inTrigger .delete
    let s : Scope := { outer with db, current := [tableBinding t target.asName none] }
    match condition with
    | some c => s.check c
    | none => pure ()

/-- The first fault a change meets when it is compiled. -/
def Change.compileFault? (inTrigger : Bool) : Change → Option Fault
  | .select q => queryFault? inTrigger q
  | .insert _ _ _ source upserts =>
    let inSource := match source with
      | .values rows => compileFaults? inTrigger rows.flatten
      | .query q => queryFault? inTrigger q
      | .defaults => none
    inSource.orElse fun _ => compileFaults? inTrigger (upserts.flatMap fun u =>
      u.target.getD [] ++ u.targetCondition.toList ++ match u.action with
        | .update sets c => sets.map (·.2) ++ c.toList
        | .nothing => [])
  | .update _ _ sets sources condition =>
    (compileFaults? inTrigger (sets.map (·.2) ++ condition.toList)).orElse fun _ => joinFaults? inTrigger sources
  | .delete _ condition => compileFaults? inTrigger condition.toList

/-- The table a change writes to, and the kind of change. -/
def Change.event? : Change → Option (String × Event)
  | .insert _ target _ _ _ => some (target.name, .insert)
  | .update _ target sets _ _ => some (target.name, .update (sets.map (·.1)))
  | .delete target _ => some (target.name, .delete)
  | .select _ => none

/-- Checks the triggers a change may fire, and the triggers their bodies may
fire in turn, each trigger once. -/
def Database.checkTriggers (db : Database) (temporary : List Trigger) : Nat → List String → Change → Except Fault Unit
  | 0, _, _ => .ok ()
  | fuel + 1, seen, c =>
    match c.event? with
    | none => .ok ()
    | some (table, event) =>
      match (db.table? table).orElse fun _ => (db.view? table).map db.viewShape with
      | none => .ok ()
      | some t => do
        let triggers := (temporary.reverse ++ db.triggers.reverse).filter fun tr =>
          tr.firesOn table event && !seen.any (sameName · tr.name)
        for tr in triggers do
          let scope : Scope := { bindings := eventBindings t tr.event, inTrigger := true, db }
          match tr.condition with
          | some e => scope.check e
          | none => pure ()
          for step in tr.body.map db.prepare do
            db.checkChange temporary scope true step
            match step.compileFault? true with
            | some f => throw f
            | none => pure ()
            db.checkTriggers temporary fuel (seen ++ [tr.name]) step

/-- A connection to a database: whether it enforces foreign keys, whether
`LIKE` tells case apart, whether triggers may fire again while they run, its
temporary triggers, and its open transaction (the database as it was when the
transaction began, its savepoints, and whether a savepoint began it), and
what it counts of its changes. -/
structure Session where
  db : Database
  enforceKeys : Bool := false
  exactLike : Bool := false
  recursiveTriggers : Bool := false
  temporary : List Trigger := []
  transaction : Option Database := none
  savepoints : List (String × Database) := []
  byRelease : Bool := false
  counters : Counters := {}

/-- How deep statements and trigger programs may nest; the rows one statement
changes are each changed at the statement's own depth. -/
def runFuel : Nat := 1000000

/-- What a change did: the rows it changed itself and the ids it inserted. -/
structure Outcome where
  changes : Nat := 0
  inserted : List Int := []

/-- Runs a change after checking it; a failure undoes it. -/
def Session.change (s : Session) (c : Change) : Session × Except Fault Outcome :=
  let c := s.db.prepare c
  let checked : Except Fault Unit := do
    s.db.checkChange s.temporary {} false c
    match c.compileFault? false with
    | some f => throw f
    | none => pure ()
    s.db.checkTriggers s.temporary 64 [] c
  match checked with
  | .error f => (s, .error f)
  | .ok () =>
    let start : Run :=
      { db := s.db, temporary := s.temporary, enforceKeys := s.enforceKeys, exactLike := s.exactLike,
        recursive := s.recursiveTriggers, counters := s.counters }
    let (result, r) := Id.run ((runChange runFuel [] {} true c).run.run start)
    let result : Except Fault Unit := match result with
      | .ok () => if r.pendingKeys > 0 then .error (.constraint 787 "FOREIGN KEY constraint failed") else .ok ()
      | .error e => .error e
    let counters := match c with
      | .select _ => r.counters
      | _ => { r.counters with changes := r.changes, total := r.counters.total + r.changes }
    match result with
    | .ok () => ({ s with db := r.db, counters }, .ok ⟨r.changes, r.inserted⟩)
    | .error f@(.raised .fail _) => ({ s with db := r.db }, .error f)
    | .error f@(.constraint _ _) =>
      match r.broken with
      | some .fail => ({ s with db := r.db }, .error f)
      | some .rollback =>
        ({ s with db := s.transaction.getD s.db, transaction := none, savepoints := [], byRelease := false }, .error f)
      | _ => (s, .error f)
    | .error f@(.raised .rollback _) =>
      ({ s with db := s.transaction.getD s.db, transaction := none, savepoints := [], byRelease := false }, .error f)
    | .error f => (s, .error f)

/-- Makes a trigger. -/
def Session.createTrigger (s : Session) (temporary ifNotExists : Bool) (trigger : Trigger) : Except Fault Session := do
  let t ← match s.db.table? trigger.table, s.db.view? trigger.table with
    | some t, _ => pure t
    | none, some v => pure (s.db.viewShape v)
    | none, none => throw (.logic ("no such table: " ++ (if temporary then "" else "main.") ++ trigger.table))
  if isReservedName trigger.name then throw (.logic ("object name reserved for internal use: " ++ trigger.name))
  let existing := if temporary then s.temporary else s.db.triggers
  if existing.any fun tr => sameName tr.name trigger.name then
    if ifNotExists then return s
    throw (.logic ("trigger " ++ trigger.name ++ " already exists"))
  if isReservedName t.name then throw (.logic "cannot create trigger on system table")
  let onView := (s.db.viewTarget? t.name).isSome
  if onView && trigger.timing != .instead then
    let timing := if trigger.timing == .before then "BEFORE" else "AFTER"
    throw (.logic ("cannot create " ++ timing ++ " trigger on view: " ++ trigger.table))
  if !onView && trigger.timing == .instead then
    throw (.logic ("cannot create INSTEAD OF trigger on table: " ++ trigger.table))
  if temporary then return { s with temporary := s.temporary ++ [trigger] }
  return { s with db := { s.db with triggers := s.db.triggers ++ [trigger] } }

/-- Drops a trigger, a temporary one first. -/
def Session.dropTrigger (s : Session) (ifExists : Bool) (target : Target) : Except Fault Session := do
  if s.temporary.any fun tr => sameName tr.name target.name then
    return { s with temporary := s.temporary.filter fun tr => !sameName tr.name target.name }
  if s.db.triggers.any fun tr => sameName tr.name target.name then
    return { s with db := { s.db with triggers := s.db.triggers.filter fun tr => !sameName tr.name target.name } }
  if ifExists then return s
  throw (.logic ("no such trigger: " ++ target.shown false))

/-- The indexes a table's constraints make, numbered after the table. -/
def automaticIndexes (table : String) (keys : List (List String × Bool)) : List Index :=
  keys.zipIdx.map fun ((cols, primary), i) =>
    { Index.ofColumns ("sqlite_autoindex_" ++ table ++ "_" ++ toString (i + 1)) table cols true with
      primaryKey := primary, automatic := true }

/-- The collation a definition names, binary when it names none; a name that
is no collation fails. -/
def collationNamed : Option String → Except Fault Collation
  | none => .ok .binary
  | some n => match Collation.ofName? n with
    | some c => .ok c
    | none => .error (.logic ("no such collation sequence: " ++ n))

/-- Checks the name of a new table or view: it must not be reserved, nor name
a table, a view (unless `ifNotExists`, when nothing is made) or an index. -/
def Database.checkNewName (db : Database) (ifNotExists : Bool) (name : String) : Except Fault Unit := do
  if isReservedName name then throw (.logic ("object name reserved for internal use: " ++ name))
  if (db.table? name).isSome then
    if !ifNotExists then throw (.logic ("table " ++ name ++ " already exists"))
  else if (db.view? name).isSome then
    if !ifNotExists then throw (.logic ("view " ++ name ++ " already exists"))
  else if db.indexes.any fun ix => sameName ix.name name then
    throw (.logic ("there is already an index named " ++ name))

/-- Whether a table or a view has a name. -/
def Database.holds (db : Database) (name : String) : Bool :=
  (db.table? name).isSome || (db.view? name).isSome

/-- Column names made distinct: a name met before (in any case) loses a
trailing colon and digits and takes `:1`, `:2`, … until it is new. -/
def distinctNames (names : List String) : List String :=
  names.foldl (fun acc n =>
    let stem := match n.toList.reverse.dropWhile Char.isDigit with
      | ':' :: rest => if rest.isEmpty then n else String.ofList rest.reverse
      | _ => n
    let fresh := ((List.range (acc.length + 1)).map fun k => if k == 0 then n else stem ++ ":" ++ toString k).find?
      fun c => !acc.any (sameName · c)
    acc ++ [fresh.getD n]) []

/-- Makes a table with the columns and rows of a query: each column has the
name, declared type and collation of its output column, and the values go in
as they are. -/
def Session.createTableAs (s : Session) (ifNotExists : Bool) (target : Target) (q : Query) :
    Except Fault Session := do
  let name := target.name
  s.db.checkNewName ifNotExists name
  if s.db.holds name then return s
  let q := s.db.prepareQuery q
  let scope : Scope := { db := s.db, exactLike := s.exactLike }
  let _ ← scope.checkQuery q
  match queryFault? false q with
  | some f => throw f
  | none => pure ()
  let rows ← scope.select none q
  let output := scope.outputColumns q
  let columns := (output.zip (distinctNames (output.map (·.name)))).map fun (c, n) =>
    ({ name := n, type := c.type, collation := c.collation } : TableColumn)
  let table := derivedTable name columns rows
  return { s with db := { s.db with tables := s.db.tables ++ [table] } }

/-- Makes a view. -/
def Session.createView (s : Session) (ifNotExists : Bool) (target : Target) (columns : List String) (q : Query) :
    Except Fault Session := do
  s.db.checkNewName ifNotExists target.name
  if s.db.holds target.name then return s
  return { s with db := { s.db with views := s.db.views ++ [{ name := target.name, columns, query := q }] } }

/-- Drops a view with its triggers. -/
def Session.dropView (s : Session) (ifExists : Bool) (target : Target) : Except Fault Session := do
  match s.db.view? target.name with
  | some v =>
    let db := { s.db with
      views := s.db.views.filter fun u => !sameName u.name v.name
      triggers := s.db.triggers.filter fun tr => !sameName tr.table v.name }
    return { s with db, temporary := s.temporary.filter fun tr => !sameName tr.table v.name }
  | none =>
    match s.db.table? target.name with
    | some t => throw (.logic ("use DROP TABLE to delete table " ++ t.name))
    | none =>
      if ifExists then return s
      throw (.logic ("no such view: " ++ target.shown false))

/-- Checks an expression kept in a table's definition: the names it reads,
then what such an expression may not hold (`place` names the part of the
definition, `deterministic` whether it must give one value for one row). -/
def Table.checkDefinitionExpr (t : Table) (place : String) (deterministic : Bool) (e : Expr) :
    Except Fault Unit := do
  ({ current := [tableBinding t none none] } : Scope).check e
  match e.indexFault? place deterministic with
  | some m => throw (.logic m)
  | none => pure ()

/-- Checks an expression of an index on its table. -/
def Table.checkIndexExpr (t : Table) (place : String) (e : Expr) : Except Fault Unit :=
  t.checkDefinitionExpr place true e

/-- Makes a table. The definition is checked in the order it is read: each
column's name, default, key and collation, then the table's key; then, for a
strict table, every column's type, for a table without row ids its key, and
last the expressions of its `CHECK` conditions and generated columns, where
the fault found last is the one reported. -/
def Session.createTable (s : Session) (ifNotExists : Bool) (target : Target) (spec : TableSpec) :
    Except Fault Session := do
  let name := target.name
  s.db.checkNewName ifNotExists name
  if s.db.holds name then return s
  let columnKeys := spec.columns.filter (·.primaryKey)
  let keyColumns : List String := match columnKeys with
    | c :: _ => [c.name]
    | [] => spec.primaryKey
  let isKey := fun (n : String) => keyColumns.any (sameName · n)
  let integerKey := fun (c : ColumnSpec) =>
    upperAscii c.type == "INTEGER" && !c.descending && keyColumns.length == 1 && isKey c.name
  let isAlias := fun (c : ColumnSpec) => !spec.withoutRowId && integerKey c
  let mut seen : List String := []
  let mut keys := 0
  for c in spec.columns do
    if seen.any (sameName · c.name) then throw (.logic ("duplicate column name: " ++ c.name))
    seen := seen ++ [c.name]
    if let some e := c.default then
      if !e.isConstant true then throw (.logic ("default value of column [" ++ c.name ++ "] is not constant"))
    if let some g := c.generated then
      if !g.wellMade then throw (.logic ("error in generated column \"" ++ c.name ++ "\""))
      if c.default.isSome then throw (.logic "cannot use DEFAULT on a generated column")
    if c.primaryKey then
      keys := keys + 1
      if keys > 1 then throw (.logic ("table \"" ++ name ++ "\" has more than one primary key"))
      if c.generated.isSome then throw (.logic "generated columns cannot be part of the PRIMARY KEY")
      if c.autoincrement && !integerKey c then
        throw (.logic "AUTOINCREMENT is only allowed on an INTEGER PRIMARY KEY")
    let _ ← collationNamed c.collation
  if !spec.primaryKey.isEmpty then
    if keys > 0 then throw (.logic ("table \"" ++ name ++ "\" has more than one primary key"))
    if spec.columns.any fun c => c.generated.isSome && isKey c.name then
      throw (.logic "generated columns cannot be part of the PRIMARY KEY")
  if spec.columns.any fun c => c.autoincrement && !integerKey c then
    throw (.logic "AUTOINCREMENT is only allowed on an INTEGER PRIMARY KEY")
  if spec.strict then
    for c in spec.columns do
      if (strictType? c.type).isNone then
        if c.type.isEmpty then throw (.logic ("missing datatype for " ++ name ++ "." ++ c.name))
        throw (.logic ("unknown datatype for " ++ name ++ "." ++ c.name ++ ": \"" ++ c.type ++ "\""))
  if spec.withoutRowId then
    if spec.columns.any (·.autoincrement) then throw (.logic "AUTOINCREMENT not allowed on WITHOUT ROWID tables")
    if keyColumns.isEmpty then throw (.logic ("PRIMARY KEY missing on table " ++ name))
  let autoincrement := spec.columns.any (·.autoincrement)
  let columns ← spec.columns.mapM fun c => do
    let collation ← collationNamed c.collation
    let keyNotNull := isKey c.name && !isAlias c && (spec.strict || spec.withoutRowId)
    let column : TableColumn :=
      { name := c.name, type := c.type, notNull := c.notNull || keyNotNull, default := c.default,
        isRowId := isAlias c, collation, generated := c.generated, strict := spec.strict }
    pure column
  let foreignKeys :=
    (spec.columns.filterMap fun c => c.reference.map fun r => (⟨[c.name], r.table, r.columns, r.onDelete, r.onUpdate⟩ : ForeignKey)) ++
    spec.foreignKeys.map fun (cols, r) => (⟨cols, r.table, r.columns, r.onDelete, r.onUpdate⟩ : ForeignKey)
  let keyIndex : List (List String × Bool) :=
    if keyColumns.isEmpty || spec.columns.any isAlias then [] else [(keyColumns, true)]
  let uniques := (spec.columns.filter (·.unique)).map (fun c => ([c.name], false)) ++ spec.uniques.map (·, false)
  let checks := spec.columns.flatMap (·.checks) ++ spec.checks
  let table : Table := { name, columns, autoincrement, foreignKeys, checks }
  let checkFault := (checks.findSome? fun c =>
    match table.checkDefinitionExpr "CHECK constraints" false c.condition with
    | .error f => some f
    | .ok () => none)
  let generatedFaults := columns.filterMap fun c => c.generated.bind fun g =>
    match table.checkDefinitionExpr "generated columns" true g.expression with
    | .error f => some f
    | .ok () =>
      match g.expression.columnNames.find? fun n => isRowIdName n && (table.columnIndex? n).isNone with
      | some n => some (.logic ("no such column: " ++ n))
      | none => none
  let lastFault := generatedFaults.getLast?.orElse fun _ => checkFault
  let lastFault := if columns.any (·.isGenerated) && columns.all (·.isGenerated) then
      some (.logic "must have at least one non-generated column")
    else lastFault
  if let some f := lastFault then throw f
  let db := { s.db with
    tables := s.db.tables ++ [table]
    indexes := s.db.indexes ++ automaticIndexes name (keyIndex ++ uniques) }
  let db := if autoincrement && (db.table? sequenceTableName).isNone then { db with tables := db.tables ++ [sequenceTable] }
    else db
  return { s with db }

/-- Drops a table with its indexes, its triggers and its remembered row id. -/
def Session.dropTable (s : Session) (ifExists : Bool) (target : Target) : Except Fault Session := do
  match s.db.table? target.name with
  | none =>
    match s.db.view? target.name with
    | some v => throw (.logic ("use DROP VIEW to delete view " ++ v.name))
    | none =>
      if ifExists then return s
      throw (.logic ("no such table: " ++ target.shown false))
  | some t =>
    if isReservedName t.name then throw (.logic ("table " ++ t.name ++ " may not be dropped"))
    let db := { s.db with
      tables := s.db.tables.filter fun u => !sameName u.name t.name
      indexes := s.db.indexes.filter fun ix => !sameName ix.table t.name
      triggers := s.db.triggers.filter fun tr => !sameName tr.table t.name }
    let db := match db.table? sequenceTableName with
      | some q => db.putTable { q with rows := q.rows.filter fun r => !(r.get 0).isText (bytesOf t.name) }
      | none => db
    return { s with db, temporary := s.temporary.filter fun tr => !sameName tr.table t.name }

/-- Whether some keys have two that are equal under some collations, none of
their values null. -/
def keysClash (colls : List Collation) : List (List Cell) → Bool
  | [] => false
  | k :: rest => (!k.any Cell.isNull && rest.any (equalUnder colls k)) || keysClash colls rest

/-- Makes an index; each stored row's key is computed, and a unique one must
hold of the rows already stored. -/
def Session.createIndex (s : Session) (unique ifNotExists : Bool) (target : Target) (table : String)
    (terms : List (IndexTerm × Option String)) (condition : Option Expr) : Except Fault Session := do
  let t ← match s.db.table? table with
    | some t => pure t
    | none => throw (.logic ("no such table: main." ++ table))
  if isReservedName target.name then throw (.logic ("object name reserved for internal use: " ++ target.name))
  if s.db.indexes.any fun ix => sameName ix.name target.name then
    if ifNotExists then return s
    throw (.logic ("index " ++ target.name ++ " already exists"))
  if (s.db.table? target.name).isSome then throw (.logic ("there is already a table named " ++ target.name))
  if let some c := condition then t.checkIndexExpr "partial index WHERE clauses" c
  let collations ← terms.mapM fun (term, c) => do
    match term with
    | .column n => if (t.slot? n).isNone then throw (.logic ("no such column: " ++ n))
    | .expression e => t.checkIndexExpr "index expressions" e
    match c with
    | some n => some <$> collationNamed (some n)
    | none => pure none
  let ix : Index :=
    { name := target.name, table := t.name, terms := terms.map (·.1), unique, collations, condition }
  let keys ← t.rows.filterMapM (t.indexKey? ix)
  if unique && keysClash (ix.collationsIn t) keys then throw (t.uniqueFault ix)
  return { s with db := { s.db with indexes := s.db.indexes ++ [ix] } }

/-- Drops an index. -/
def Session.dropIndex (s : Session) (ifExists : Bool) (target : Target) : Except Fault Session := do
  match s.db.indexes.find? fun ix => sameName ix.name target.name with
  | none =>
    if ifExists then return s
    throw (.logic ("no such index: " ++ target.shown false))
  | some ix =>
    if ix.automatic then throw (.logic "index associated with UNIQUE or PRIMARY KEY constraint cannot be dropped")
    return { s with db := { s.db with indexes := s.db.indexes.filter fun i => !sameName i.name ix.name } }

/-- Whether an expression is a value as written: a literal, maybe under signs
or a `CAST`. Only such a default can be given to the rows a table already
holds when a column is added. -/
def Expr.isLiteral : Expr → Bool
  | .integer _ | .real _ | .constant _ => true
  | .column none n .bare => sameName n "true" || sameName n "false"
  | .unary .negate e | .unary .plus e | .cast e _ => e.isLiteral
  | _ => false

/-- Adds a column to a table, every row taking its default, or its value if
it is generated. What a column cannot give the rows already there (a null
where null is refused, a default that is not a literal, a stored generated
value, a value a `CHECK` refuses) fails only when there are rows. -/
def Session.addColumn (s : Session) (target : Target) (c : ColumnSpec) : Except Fault Session := do
  let t ← s.db.findTable target false
  if isReservedName t.name then throw (.logic ("table " ++ t.name ++ " may not be altered"))
  if t.columns.any fun d => sameName d.name c.name then throw (.logic ("duplicate column name: " ++ c.name))
  if let some e := c.default then
    if !e.isConstant true then throw (.logic ("default value of column [" ++ c.name ++ "] is not constant"))
  if let some g := c.generated then
    if !g.wellMade then throw (.logic ("error in generated column \"" ++ c.name ++ "\""))
    if c.default.isSome then throw (.logic "cannot use DEFAULT on a generated column")
  if c.primaryKey then throw (.logic "Cannot add a PRIMARY KEY column")
  if c.unique then throw (.logic "Cannot add a UNIQUE column")
  let collation ← collationNamed c.collation
  let strict := t.columns.any (·.strict)
  let column : TableColumn :=
    { name := c.name, type := c.type, notNull := c.notNull, default := c.default, collation,
      generated := c.generated, strict }
  let occupied := !t.rows.isEmpty
  let refuse := fun (m : String) => if occupied then throw (.raised .abort m) else pure ()
  let value ← match c.generated with
    | some g => do
      if g.stored then refuse "cannot add a STORED column"
      pure Cell.null
    | none => do
      let given := c.default.filter fun e => match e with
        | .constant .null => false
        | _ => true
      if s.enforceKeys && c.reference.isSome && given.isSome then
        refuse "Cannot add a REFERENCES column with non-NULL default value"
      if c.notNull && given.isNone then refuse "Cannot add a NOT NULL column with default value NULL"
      if given.any (!·.isLiteral) then refuse "Cannot add a column with non-constant default"
      column.defaultValue
  let checks := t.checks ++ c.checks
  let t := { t with
    columns := t.columns ++ [column]
    rows := t.rows.map fun r => { r with cells := r.cells ++ [value.keep column.affinity] }
    foreignKeys := t.foreignKeys ++ (c.reference.map fun r => (⟨[c.name], r.table, r.columns, r.onDelete, r.onUpdate⟩ : ForeignKey)).toList
    checks }
  let t ← match c.generated with
    | some g => do
      t.checkDefinitionExpr "generated columns" true g.expression
      let order ← t.generatedOrder
      let rows ← t.rows.mapM fun r => do
        let cells ← t.generate { db := s.db } order r.id r.cells
        pure { r with cells }
      pure { t with rows }
    | none => pure t
  for ch in c.checks do
    t.checkDefinitionExpr "CHECK constraints" false ch.condition
  if !c.checks.isEmpty || (c.notNull && c.generated.isSome) then
    for r in t.rows do
      if (← t.failedCheck? { db := s.db } r none).isSome then throw (.raised .abort "CHECK constraint failed")
      if c.notNull && (r.cells.getLast?.getD .null).isNull then throw (.raised .abort "NOT NULL constraint failed")
  return { s with db := s.db.putTable t }

/-- Renames a table, with what refers to it. -/
def Session.renameTable (s : Session) (target : Target) (name : String) : Except Fault Session := do
  let t ← s.db.findTable target false
  if isReservedName t.name then throw (.logic ("table " ++ t.name ++ " may not be altered"))
  if (s.db.table? name).isSome || s.db.indexes.any (sameName ·.name name) then
    throw (.logic ("there is already another table or index with this name: " ++ name))
  let rename := fun (n : String) => if sameName n t.name then name else n
  let renameTable := fun (u : Table) =>
    let u : Table := if sameName u.name t.name then { u with name } else u
    { u with foreignKeys := u.foreignKeys.map fun (fk : ForeignKey) => { fk with parent := rename fk.parent } }
  let db := { s.db with
    tables := s.db.tables.map renameTable
    indexes := s.db.indexes.map fun (ix : Index) => { ix with table := rename ix.table }
    triggers := s.db.triggers.map fun (tr : Trigger) => { tr with table := rename tr.table } }
  let renameRow := fun (r : Row) => if (r.get 0).isText (bytesOf t.name) then r.set 0 (.text (bytesOf name)) else r
  let db := match db.table? sequenceTableName with
    | some q => db.putTable { q with rows := q.rows.map renameRow }
    | none => db
  return { s with db, temporary := s.temporary.map fun (tr : Trigger) => { tr with table := rename tr.table } }

/-- Renames a column of a table, with the indexes and foreign keys that name it. -/
def Session.renameColumn (s : Session) (target : Target) (old new : String) : Except Fault Session := do
  let t ← s.db.findTable target false
  if isReservedName t.name then throw (.logic ("table " ++ t.name ++ " may not be altered"))
  match t.columnIndex? old with
  | none => throw (.logic ("no such column: \"" ++ old ++ "\""))
  | some i =>
    if t.columns.any fun c => sameName c.name new && !sameName c.name old then
      throw (.logic ("duplicate column name: " ++ new))
    let rename := fun (n : String) => if sameName n old then new else n
    let columns := t.columns.mapIdx fun j (c : TableColumn) => if j == i then { c with name := new } else c
    let ownKeys := t.foreignKeys.map fun (fk : ForeignKey) => { fk with columns := fk.columns.map rename }
    let db := s.db.putTable { t with columns, foreignKeys := ownKeys }
    let childKeys := fun (fk : ForeignKey) =>
      if sameName fk.parent t.name then { fk with parentColumns := fk.parentColumns.map rename } else fk
    let db := { db with
      tables := db.tables.map fun (u : Table) => { u with foreignKeys := u.foreignKeys.map childKeys }
      indexes := db.indexes.map fun (ix : Index) =>
        if sameName ix.table t.name then ix.renameColumn old new else ix }
    return { s with db }

/-- Drops a column of a table: not one of its key or a unique constraint, nor
one that an index or a foreign key of the table names, nor its last. -/
def Session.dropColumn (s : Session) (target : Target) (name : String) : Except Fault Session := do
  let t ← s.db.findTable target false
  if isReservedName t.name then throw (.logic ("table " ++ t.name ++ " may not be altered"))
  match t.columnIndex? name, t.columns.find? fun c => sameName c.name name with
  | some i, some c =>
    let ownIndexes := s.db.indexes.filter fun ix => sameName ix.table t.name && ix.reads c.name
    if c.isRowId || ownIndexes.any (·.primaryKey) then
      throw (.logic ("cannot drop PRIMARY KEY column: \"" ++ c.name ++ "\""))
    if ownIndexes.any (·.automatic) then throw (.logic ("cannot drop UNIQUE column: \"" ++ c.name ++ "\""))
    if t.columns.length ≤ 1 then
      throw (.logic ("cannot drop column \"" ++ c.name ++ "\": no other columns exist"))
    if t.foreignKeys.any fun fk => fk.columns.any (sameName · c.name) then
      throw (.logic ("error in table " ++ t.name ++ " after drop column: unknown column \"" ++ c.name ++
        "\" in foreign key definition"))
    match ownIndexes.head? with
    | some ix => throw (.logic ("error in index " ++ ix.name ++ " after drop column: no such column: " ++ c.name))
    | none => pure ()
    let t := { t with
      columns := t.columns.eraseIdx i
      rows := t.rows.map fun r => { r with cells := r.cells.eraseIdx i } }
    return { s with db := s.db.putTable t }
  | _, _ => throw (.logic ("no such column: \"" ++ name ++ "\""))

/-- The value of the digits at the head of a pragma's value as a 32-bit
integer, in decimal or after 0x in hexadecimal; 0 when there are none or it
does not fit. -/
def pragmaNumber (v : String) : Nat :=
  let cs := v.toList
  match cs with
  | '0' :: x :: rest =>
    if (x == 'x' || x == 'X') && (rest.head?.any isHexChar) then
      let ds := (rest.dropWhile (· == '0'))
      let taken := (ds.takeWhile isHexChar).take 8
      let n := taken.foldl (fun n c => 16 * n + hexCharValue c) 0
      if n < 2147483648 && !((ds.drop taken.length).head?.any isHexChar) then n else 0
    else decimal cs
  | _ => decimal cs
where
  /-- Whether a character is a hexadecimal digit. -/
  isHexChar (c : Char) : Bool := c.isDigit || ('a' ≤ c && c ≤ 'f') || ('A' ≤ c && c ≤ 'F')
  /-- The value of a hexadecimal digit. -/
  hexCharValue (c : Char) : Nat :=
    if c.isDigit then c.toNat - 48 else if 'a' ≤ c then c.toNat - 87 else c.toNat - 55
  /-- The value of leading decimal digits, 0 past eleven of them or 2147483647. -/
  decimal (cs : List Char) : Nat :=
    let ds := (cs.dropWhile (· == '0')).takeWhile Char.isDigit
    let n := ds.foldl (fun n c => 10 * n + (c.toNat - 48)) 0
    if ds.length > 10 || n > 2147483647 then 0 else n

/-- Whether a pragma's value turns a setting on: a number whose low byte is
not zero, or yes, on or true in any case. -/
def pragmaOn (v : String) : Bool :=
  match v.toList with
  | c :: _ => if c.isDigit then pragmaNumber v % 256 != 0 else ["on", "true", "yes"].contains (Text.lowerAscii v)
  | [] => false

/-- Runs one statement. -/
def Session.execute (s : Session) : Statement → Session × Option Fault
  | .change c =>
    match s.change c with
    | (s, .ok _) => (s, none)
    | (s, .error f) => (s, some f)
  | .createTrigger temporary ifNotExists _ trigger => settle (s.createTrigger temporary ifNotExists trigger)
  | .dropTrigger ifExists target => settle (s.dropTrigger ifExists target)
  | .createTable ifNotExists target spec => settle (s.createTable ifNotExists target spec)
  | .createTableAs ifNotExists target q => settle (s.createTableAs ifNotExists target q)
  | .createView ifNotExists target columns q => settle (s.createView ifNotExists target columns q)
  | .dropView ifExists target => settle (s.dropView ifExists target)
  | .dropTable ifExists target => settle (s.dropTable ifExists target)
  | .createIndex unique ifNotExists target table terms condition =>
    settle (s.createIndex unique ifNotExists target table terms condition)
  | .dropIndex ifExists target => settle (s.dropIndex ifExists target)
  | .addColumn target c => settle (s.addColumn target c)
  | .renameTable target name => settle (s.renameTable target name)
  | .renameColumn target old new => settle (s.renameColumn target old new)
  | .dropColumn target name => settle (s.dropColumn target name)
  | .pragma name value =>
    match value with
    | some v =>
      if sameName name "foreign_keys" && s.transaction.isNone then ({ s with enforceKeys := pragmaOn v }, none)
      else if sameName name "case_sensitive_like" then ({ s with exactLike := pragmaOn v }, none)
      else if sameName name "recursive_triggers" then ({ s with recursiveTriggers := pragmaOn v }, none)
      else (s, none)
    | none => (s, none)
  | .begin =>
    if s.transaction.isSome then (s, some (.logic "cannot start a transaction within a transaction"))
    else ({ s with transaction := some s.db, byRelease := false }, none)
  | .commit =>
    if s.transaction.isNone then (s, some (.logic "cannot commit - no transaction is active"))
    else ({ s with transaction := none, savepoints := [], byRelease := false }, none)
  | .rollback none =>
    match s.transaction with
    | none => (s, some (.logic "cannot rollback - no transaction is active"))
    | some db => ({ s with db, transaction := none, savepoints := [], byRelease := false }, none)
  | .rollback (some name) =>
    match s.savepoints.findIdx? fun (n, _) => sameName n name with
    | none => (s, some (.logic ("no such savepoint: " ++ name)))
    | some i =>
      let kept := s.savepoints.take (i + 1)
      ({ s with db := (kept.getLast?.map (·.2)).getD s.db, savepoints := kept }, none)
  | .savepoint name =>
    if s.transaction.isNone then
      ({ s with transaction := some s.db, savepoints := [(name, s.db)], byRelease := true }, none)
    else ({ s with savepoints := s.savepoints ++ [(name, s.db)] }, none)
  | .release name =>
    match s.savepoints.findIdx? fun (n, _) => sameName n name with
    | none => (s, some (.logic ("no such savepoint: " ++ name)))
    | some i =>
      if i == 0 && s.byRelease then ({ s with transaction := none, savepoints := [], byRelease := false }, none)
      else ({ s with savepoints := s.savepoints.take i }, none)
  | .inert => (s, none)
where
  /-- The session a definition leaves, or the unchanged one with its fault. -/
  settle (r : Except Fault Session) : Session × Option Fault :=
    match r with
    | .ok s' => (s', none)
    | .error f => (s, some f)

/-- Runs the statements of tokens in turn until one fails. -/
def Session.runTokens (s : Session) : Nat → List Token → Session × Option Fault
  | 0, _ => (s, none)
  | fuel + 1, ts =>
    match nextStatement.run ts with
    | .error f => (s, some (.logic f.message))
    | .ok (none, _) => (s, none)
    | .ok (some stmt, rest) =>
      match s.execute stmt with
      | (s, some f) => (s, some f)
      | (s, none) => s.runTokens fuel rest

/-- Runs SQL text: its statements in turn until one fails. -/
def Session.run (s : Session) (sql : String) : Session × Option Fault :=
  let ts := lex sql
  s.runTokens (ts.length + 1) ts

/-- Closes a session: an open transaction is rolled back. -/
def Session.close (s : Session) : Database := s.transaction.getD s.db

end Airspace.Store
