import Airspace.Store.Evaluate

/-!
# Rules a written row keeps

Besides refusing null and repeated keys, a table may hold the rows written to
it to three more rules, each applied when a row is inserted or updated:

* a generated column takes the value of its expression on the row's other
  columns, computed after those it reads (`Table.generatedOrder`,
  `Table.generate`);
* a `CHECK` condition may not be false for the row, though null passes
  (`Table.failedCheck?`); an update tests only the conditions that read a
  column it changes (`Table.changedNames`);
* in a strict table every value, once its column's affinity is applied, has
  the column's declared type (`Table.strictFault?`).

The slots an assignment writes to, a column or the row id, are named here too.
-/

namespace Airspace.Store

/-- A row's cells with the row-id column set to its id. -/
def Table.withIdCell (t : Table) (cells : List Cell) (id : Int) : List Cell :=
  match t.rowIdColumn? with
  | some i => cells.set i (.integer id)
  | none => cells

/-- Where an assignment writes: a column, or the row id itself. -/
inductive Slot where
  | column (i : Nat)
  | rowId
  deriving DecidableEq

/-- The slot of a column name of a table. -/
def Table.slot? (t : Table) (name : String) : Option Slot :=
  match t.columnIndex? name with
  | some i => some (.column i)
  | none => if isRowIdName name then some .rowId else none

/-- Whether a slot is the row id. -/
def Table.slotIsRowId (t : Table) : Slot → Bool
  | .rowId => true
  | .column i => (t.columns[i]?.map (·.isRowId)).getD false

/-- Whether two names of a table's columns are one slot: the same column, or
the row id under two of its names. -/
def Table.sameSlot (t : Table) (a b : String) : Bool :=
  match t.slot? a, t.slot? b with
  | some x, some y => x == y || (t.slotIsRowId x && t.slotIsRowId y)
  | _, _ => false

/-- The value of a column's default. -/
def TableColumn.defaultValue (c : TableColumn) : Except Fault Cell :=
  match c.default with
  | some e => ({} : Scope).eval e
  | none => .ok .null

/-- Whether a column is generated. -/
def TableColumn.isGenerated (c : TableColumn) : Bool := c.generated.isSome

/-- Whether a column is generated and computed when it is read rather than stored. -/
def TableColumn.isVirtual (c : TableColumn) : Bool := c.generated.any (!·.stored)

/-- The columns a row is given values for: those not generated. -/
def Table.givenColumns (t : Table) : List TableColumn := t.columns.filter (!·.isGenerated)

/-- One pass over the generated columns still to be computed, in the table's
order: a column is computed when its expression reads no generated column
still waiting (itself included), and is then no longer waiting for the
columns after it. Gives the columns computed, in order, and those left. -/
def Table.generatedPass (t : Table) (done : List Nat) (waiting : List (Nat × List String)) :
    List Nat × List (Nat × List String) :=
  waiting.foldl (fun (done, left) (i, reads) =>
    let blocked := reads.any fun n => match t.columnIndex? n with
      | some j => (t.columns[j]?.any (·.isGenerated)) && !done.contains j
      | none => false
    if blocked then (done, left ++ [(i, reads)]) else (done ++ [i], left)) (done, [])

/-- Passes over the generated columns until all are computed or a pass
computes none; then the last column that pass left waits for itself. -/
def Table.generatedPasses (t : Table) : Nat → List Nat → List (Nat × List String) → Except Fault (List Nat)
  | 0, done, _ => .ok done
  | fuel + 1, done, waiting =>
    if waiting.isEmpty then .ok done
    else
      let (done', left) := t.generatedPass done waiting
      if done'.length == done.length then
        let name := (left.getLast?.bind fun (i, _) => t.columns[i]?.map (·.name)).getD ""
        .error (.logic ("generated column loop on \"" ++ name ++ "\""))
      else t.generatedPasses fuel done' left

/-- The order a table's generated columns are computed in, each after the
generated columns it reads; a column that reads itself, directly or through
others, cannot be computed. -/
def Table.generatedOrder (t : Table) : Except Fault (List Nat) :=
  let waiting := t.columns.zipIdx.filterMap fun (c, i) => c.generated.map fun g => (i, g.expression.columnNames)
  t.generatedPasses (waiting.length + 1) [] waiting

/-- A row's cells with its generated columns computed in order, each from
the row as computed so far and kept under its column's affinity. -/
def Table.generate (t : Table) (s : Scope) (order : List Nat) (id : Int) (cells : List Cell) :
    Except Fault (List Cell) :=
  order.foldlM (fun cells i =>
    match t.columns[i]? with
    | some c =>
      match c.generated with
      | some g => do
        let v ← ({ s with current := [tableBinding t none (some ⟨id, t.withIdCell cells id⟩)] } : Scope).eval
          g.expression
        pure (cells.set i (v.keep c.affinity))
      | none => pure cells
    | none => pure cells) cells

/-- The names an update changes: those it assigns, then each generated column
that reads one already counted, until no more is added. -/
def Table.changedNames (t : Table) (assigned : List String) : List String :=
  let generated := t.columns.filterMap fun c => c.generated.map fun g => (c.name, g.expression.columnNames)
  (List.range generated.length).foldl (fun acc _ =>
    acc ++ ((generated.filter fun (n, reads) =>
      !acc.any (sameName · n) && reads.any fun r => acc.any (t.sameSlot r ·)).map (·.1))) assigned

/-- Whether an expression on a table's row reads one of some names' slots. -/
def Table.readsSlot (t : Table) (names : List String) (e : Expr) : Bool :=
  e.columnNames.any fun n => names.any (t.sameSlot n ·)

/-- The name of the first `CHECK` condition a row makes false. An update
(`changed` the names it changes) tests only the conditions that read one. -/
def Table.failedCheck? (t : Table) (s : Scope) (row : Row) (changed : Option (List String)) :
    Except Fault (Option String) :=
  let scope : Scope := { s with current := [tableBinding t none (some row)] }
  t.checks.foldlM (fun found c =>
    match found with
    | some _ => pure found
    | none =>
      if changed.all fun names => t.readsSlot names c.condition then do
        let v ← scope.eval c.condition
        pure (if v.truth == some false then some c.name else none)
      else pure none) none

/-- The name under which a strict table knows a declared type: one of `INT`,
`INTEGER`, `REAL`, `TEXT`, `BLOB` and `ANY`, written in any case. -/
def strictType? (type : String) : Option String :=
  let t := upperAscii type
  if ["INT", "INTEGER", "REAL", "TEXT", "BLOB", "ANY"].contains t then some t else none

/-- Whether a strict table's column of a type holds a value, after the
column's affinity is applied; null fits every type. -/
def fitsStrictType (type : String) : Cell → Bool
  | .null => true
  | .integer _ => ["INT", "INTEGER", "REAL", "ANY"].contains type
  | .real _ => ["REAL", "ANY"].contains type
  | .text _ => ["TEXT", "ANY"].contains type
  | .blob _ => ["BLOB", "ANY"].contains type

/-- The kind of a value as a strict table names it. -/
def Cell.strictKind : Cell → String
  | .null => "NULL"
  | .integer _ => "INT"
  | .real _ => "REAL"
  | .text _ => "TEXT"
  | .blob _ => "BLOB"

/-- The first value of a row of a strict table that its column's type does
not hold; a column computed when read is not stored, so not tested. -/
def Table.strictFault? (t : Table) (cells : List Cell) : Option Fault :=
  (t.columns.zip cells).findSome? fun (c, v) =>
    if !c.strict || c.isVirtual then none
    else
      let type := (strictType? c.type).getD "ANY"
      if fitsStrictType type v then none
      else some (.constraint 3091 ("cannot store " ++ v.strictKind ++ " value in " ++ type ++ " column " ++
        t.name ++ "." ++ c.name))

end Airspace.Store
