import Airspace.Store.Schema
import Airspace.Store.Inline
import Airspace.Store.Window
import Airspace.Store.DocumentTable

/-!
# Evaluating expressions and queries

An expression is evaluated against the rows it can see: the rows of the
tables the statement or query reads, then those of the enclosing queries,
and in a trigger the old and new rows, which only a qualified name (`OLD.x`,
`NEW.x`) reaches. A name is looked up among the columns, nearest query first;
two tables of one query with the column make it ambiguous. The row id answers
to `rowid`, `oid` and `_rowid_` when no column has that name. A name that
matches nothing is a text if it was in double quotes, and a bare `true` or
`false` is 1 or 0.

A query joins its tables row by row (a left join keeps a row that nothing
joins, with nulls), keeps the combinations its condition holds for, and gives
one output row for each of them — or, when it groups or calls an aggregate
function, one for each group (all kept rows are one group when it does not
group), where an aggregate function folds its argument over the group's rows
and any other column is read from the group's last row. Repeated rows are
dropped for `DISTINCT`; rows are then ordered (a stable sort, null first),
and the offset and limit applied. Rows are computed only as far as needed:
a query without order or `DISTINCT` stops at the rows it is asked for.

A column's value carries its column's affinity, as does a `CAST`; the two
operands of a comparison are compared under `comparisonAffinity` of theirs.
`AND` and `OR` look at their right operand only when the left one does not
decide.

Before a statement runs, its names and function calls are checked the way
the engine resolves them, so that an unknown name fails the statement even
when no row is ever evaluated.
-/

namespace Airspace.Store

/-- A row that expressions can name: the names that qualify it (in lower
case), its table's columns, its values (none while names are only checked, or
for the missing side of a left join), and whether only a qualified name
reaches it. -/
structure Binding where
  names : List String
  columns : List TableColumn
  row : Option Row
  qualifiedOnly : Bool

/-- What a connection counts of its changes: the rows its last finished
change changed, the rows all its changes changed, and the row id of the last
row it inserted. -/
structure Counters where
  changes : Nat := 0
  total : Nat := 0
  lastRowId : Int := 0

/-- What expressions see: the rows of the query being evaluated, those of the
enclosing queries and of the trigger (nearest first), whether they run in a
trigger, the database that queries read, the rows of the group while an
aggregate query's output is computed, while names are checked whether
aggregate functions may be called, whether `LIKE` tells case apart, the
tables that recursive common tables have so far, by name, and for window
functions the output rows of the query (each its rows and group) with the
place of the one being computed — or, while names are checked, whether window
functions may be called; and what the connection counts of its changes. -/
structure Scope where
  current : List Binding := []
  bindings : List Binding := []
  inTrigger : Bool := false
  db : Database := {}
  group : Option (List (List Binding)) := none
  aggregates : Bool := false
  exactLike : Bool := false
  working : List (String × Table) := []
  window : Option (List (List Binding × Option (List (List Binding))) × Nat) := none
  windowsAllowed : Bool := false
  counters : Counters := {}

/-- The binding of a table's row, under its alias if it has one. -/
def tableBinding (t : Table) (asName : Option String) (row : Option Row) : Binding :=
  { names := [Text.lowerAscii (asName.getD t.name)], columns := t.columns, row, qualifiedOnly := false }

/-- A value where an integer is needed: it must read as one. -/
def mustBeInt (c : Cell) : Except Fault Int :=
  match c.keep .numeric with
  | .integer n => .ok n
  | _ => .error .mismatch

/-- A table as a statement names it in messages. -/
def Target.shown (t : Target) (inTrigger : Bool) : String :=
  match t.schema with
  | some s => s ++ "." ++ t.name
  | none => if inTrigger then "main." ++ t.name else t.name

/-- The table a statement names. -/
def Database.findTable (db : Database) (target : Target) (inTrigger : Bool) : Except Fault Table :=
  match target.schema with
  | some s =>
    if sameName s "main" || sameName s "temp" then
      match db.table? target.name with
      | some t => .ok t
      | none => .error (.logic ("no such table: " ++ target.shown inTrigger))
    else .error (.logic ("unknown database " ++ s))
  | none =>
    match db.table? target.name with
    | some t => .ok t
    | none => .error (.logic ("no such table: " ++ target.shown inTrigger))

/-- The value of a column of a binding and its affinity, if it has the column. -/
def Binding.find? (b : Binding) (name : String) : Option (Cell × Option Affinity) :=
  match b.columns.findIdx? fun c => sameName c.name name with
  | some i =>
    let affinity := (b.columns[i]?.map TableColumn.affinity)
    some ((b.row.map (·.get i)).getD .null, affinity)
  | none =>
    if isRowIdName name then some ((b.row.map fun r => Cell.integer r.id).getD .null, some .integer)
    else none

/-- A binding's values: its row's, or nulls when it has none. -/
def Binding.cells (b : Binding) : List Cell :=
  match b.row with
  | some r => r.cells
  | none => b.columns.map fun _ => .null

/-- What a column reference names: its value and affinity. -/
def Scope.resolve (s : Scope) (table : Option String) (name : String) (quote : NameQuote) :
    Except Fault (Cell × Option Affinity) :=
  match table with
  | some q =>
    let missing := Fault.logic ("no such column: " ++ q ++ "." ++ name)
    match (s.current ++ s.bindings).find? fun b => b.names.contains (Text.lowerAscii q) with
    | some b => match b.find? name with
      | some r => .ok r
      | none => .error missing
    | none => .error missing
  | none =>
    match s.current.filterMap (·.find? name) with
    | [r] => .ok r
    | _ :: _ :: _ => .error (.logic ("ambiguous column name: " ++ name))
    | [] =>
      match (s.bindings.filter (!·.qualifiedOnly)).findSome? (·.find? name) with
      | some r => .ok r
      | none =>
        if quote == .double then .ok (.text (bytesOf name), none)
        else if quote == .bare && Text.lowerAscii name == "true" then .ok (.integer 1, none)
        else if quote == .bare && Text.lowerAscii name == "false" then .ok (.integer 0, none)
        else .error (.logic ("no such column: " ++ name))

/-- The collation of a column of a binding, if it has the column: none for the
row id, which has no collation of its own. -/
def Binding.collation? (b : Binding) (name : String) : Option (Option Collation) :=
  match b.columns.find? fun c => sameName c.name name with
  | some c => some (if c.isRowId then none else some c.collation)
  | none => if isRowIdName name then some none else none

/-- The collation of what a column reference names, found as `resolve` finds it. -/
def Scope.columnCollation (s : Scope) (table : Option String) (name : String) (_ : NameQuote) :
    Option Collation :=
  match table with
  | some q =>
    ((s.current ++ s.bindings).find? fun b => b.names.contains (Text.lowerAscii q)).bind
      fun b => (b.collation? name).join
  | none =>
    match s.current.filterMap (·.collation? name) with
    | [c] => c
    | _ :: _ :: _ => none
    | [] => ((s.bindings.filter (!·.qualifiedOnly)).findSome? (·.collation? name)).join

mutual

/-- Whether an expression has a `COLLATE` in it, outside the queries inside it. -/
def Expr.hasCollate : Expr → Bool
  | .collate _ _ => true
  | .unary _ e => e.hasCollate
  | .binary _ l r => l.hasCollate || r.hasCollate
  | .between e lo hi _ => e.hasCollate || lo.hasCollate || hi.hasCollate
  | .within e items _ => e.hasCollate || Expr.anyCollate items
  | .isNull e _ => e.hasCollate
  | .call _ args _ => Expr.anyCollate args
  | .filtered _ args _ _ => Expr.anyCollate args
  | .cast e _ => e.hasCollate
  | .search branches otherwise => Expr.anyCollate branches || otherwise.hasCollate
  | .vector items => Expr.anyCollate items
  | .withinQuery e _ _ => e.hasCollate
  | _ => false

/-- Whether one of some expressions has a `COLLATE` in it. -/
def Expr.anyCollate : List Expr → Bool
  | [] => false
  | e :: es => e.hasCollate || Expr.anyCollate es

end

mutual

/-- The collation an expression's value carries, `lookup` giving a column's:
that of a `COLLATE`, of a column, through a `CAST` or unary plus; otherwise
that of the first operand with a `COLLATE` in it, if any. -/
def Expr.collationWith (lookup : Option String → String → NameQuote → Option Collation) :
    Expr → Option Collation
  | .collate _ name => Collation.ofName? name
  | .column t n q => lookup t n q
  | .cast e _ => e.collationWith lookup
  | .unary .plus e => e.collationWith lookup
  | .vector (e :: _) => e.collationWith lookup
  | .unary _ e => if e.hasCollate then e.collationWith lookup else none
  | .isNull e _ => if e.hasCollate then e.collationWith lookup else none
  | .binary _ l r =>
    if l.hasCollate then l.collationWith lookup else if r.hasCollate then r.collationWith lookup else none
  | .between e lo hi _ =>
    if e.hasCollate then e.collationWith lookup
    else if lo.hasCollate then lo.collationWith lookup
    else if hi.hasCollate then hi.collationWith lookup
    else none
  | .within e items _ => if e.hasCollate then e.collationWith lookup else firstCollation lookup items
  | .call _ args _ => firstCollation lookup args
  | .filtered _ args _ _ => firstCollation lookup args
  | .search branches otherwise =>
    if Expr.anyCollate branches then firstCollation lookup branches
    else if otherwise.hasCollate then otherwise.collationWith lookup
    else none
  | .withinQuery e _ _ => if e.hasCollate then e.collationWith lookup else none
  | _ => none

/-- The collation of the first of some expressions with a `COLLATE` in it. -/
def firstCollation (lookup : Option String → String → NameQuote → Option Collation) :
    List Expr → Option Collation
  | [] => none
  | e :: es => if e.hasCollate then e.collationWith lookup else firstCollation lookup es

end

/-- The collation of an expression's value in a scope. -/
def Scope.collationOf (s : Scope) (e : Expr) : Option Collation := e.collationWith s.columnCollation

/-- The collation two operands are compared under: the left one's if it has a
`COLLATE`, else the right one's if it has, else the left one's or the right
one's, else binary. -/
def Scope.pairCollation (s : Scope) (l r : Expr) : Collation :=
  if l.hasCollate then (s.collationOf l).getD .binary
  else if r.hasCollate then (s.collationOf r).getD .binary
  else ((s.collationOf l).orElse fun _ => s.collationOf r).getD .binary

/-- The collation of a function that compares its arguments: that of the first
argument that has one. -/
def Scope.argumentCollation (s : Scope) (args : List Expr) : Collation :=
  (args.findSome? s.collationOf).getD .binary

/-- The collations a query's output columns have of their own: a column its
table's, a `COLLATE` the one it names; a value that is neither has none. -/
def Scope.ownCollations (s : Scope) (items : List Item) : List (Option Collation) :=
  items.flatMap fun i => match i with
    | .all => s.current.flatMap fun b => b.columns.map fun c => some c.collation
    | .allOf n =>
      (s.current.filter (·.names.contains (Text.lowerAscii n))).flatMap fun b => b.columns.map fun c => some c.collation
    | .value e _ => [s.collationOf e]

/-- The collations of a query's output columns, binary where one has none. -/
def Scope.itemCollations (s : Scope) (items : List Item) : List Collation :=
  (s.ownCollations items).map (·.getD .binary)

/-- The collations of the output columns of combined queries: for each column,
that of the leftmost query whose column has one of its own, else binary. -/
def combinedCollations (width : Nat) (parts : List (List (Option Collation))) : List Collation :=
  (List.range width).map fun i => (parts.findSome? fun cs => cs.getD i none).getD .binary

/-- The place of the first column of an output item among the output columns:
the items before it, `*` giving the columns of the tables it stands for. -/
def Scope.itemOffset (s : Scope) (items : List Item) (i : Nat) : Nat :=
  (s.itemCollations (items.take i)).length

/-- The declared type of a column that some bindings have, for its affinity. -/
def typeIn (frame : List Binding) (table : Option String) (name : String) : String :=
  let candidates : List Binding := match table with
    | some q => frame.filter fun b => b.names.contains (Text.lowerAscii q)
    | none => frame
  match candidates.findSome? fun (b : Binding) => b.columns.find? fun c => sameName c.name name with
  | some c => c.type
  | none => if isRowIdName name then "integer" else ""

/-- The columns of some output items over the bindings of the tables they
read: `*` stands for the columns of every table, and a value takes the name
`AS` gives it or, for a column, the column's name and type, so that the
column keeps its affinity. -/
def itemColumns (frame : List Binding) (items : List Item) : List TableColumn :=
  items.flatMap fun i => match i with
    | .all => frame.flatMap (·.columns)
    | .allOf n => (frame.filter (·.names.contains (Text.lowerAscii n))).flatMap (·.columns)
    | .value e asName =>
      let (name, type) : String × String := match e with
        | .column t n _ => (n, typeIn frame t n)
        | .cast _ ty => ("", ty)
        | _ => ("", "")
      let collation := (({ current := frame } : Scope).collationOf e).getD .binary
      [{ name := asName.getD name, type, collation }]

/-- The rows of a query in parentheses as a table, numbered from 1. -/
def derivedTable (name : String) (columns : List TableColumn) (rows : List (List Cell)) : Table :=
  { name, columns, rows := (rows.zip (List.range rows.length)).map fun (cs, i) => ⟨i + 1, cs⟩ }

/-- Columns under the names a definition gives them, when it gives any. -/
def namedColumns (names : List String) (columns : List TableColumn) : List TableColumn :=
  if names.isEmpty then columns else columns.zipWith (fun c n => { c with name := n }) names

/-- Whether a name in `FROM` stands for a table function reading JSON: it is
`json_each` or `json_tree` and no table has it. -/
def Scope.isDocumentTable (s : Scope) (target : Target) : Bool :=
  documentTableNames.contains (Text.lowerAscii target.name) &&
    !(s.working.any fun (n, _) => target.schema.isNone && sameName n target.name) &&
    (match s.db.findTable target s.inTrigger with
      | .ok _ => false
      | .error _ => true)

/-- The table a name refers to: the rows a recursive common table of that
name has so far, else a stored table, else the columns of a table function
reading JSON, with no rows until its arguments are known. -/
def Scope.sourceTable (s : Scope) (target : Target) : Except Fault Table :=
  match s.working.find? fun (n, _) => target.schema.isNone && sameName n target.name with
  | some (_, t) => .ok t
  | none =>
    if s.isDocumentTable target then .ok { name := Text.lowerAscii target.name, columns := documentColumns }
    else s.db.findTable target s.inTrigger

/-- The binding of a table a query reads, without a row. -/
def sourceBinding (target : Target) (columns : List TableColumn) : Binding :=
  { names := [Text.lowerAscii (target.asName.getD target.name)], columns, row := none, qualifiedOnly := false }

mutual

/-- The columns of a query's output. -/
def Scope.outputColumns (s : Scope) : Query → List TableColumn
  | ⟨items, _, sources, _, _, _, _, _, _, _⟩ => itemColumns (s.frameOf sources) items

/-- The bindings of a query's tables with no rows, for names and affinities;
tables that do not exist are left out. -/
def Scope.frameOf (s : Scope) : List Joined → List Binding
  | [] => []
  | ⟨target, derived, _, _, _, _, names, _, _⟩ :: rest =>
    let columns : Option (List TableColumn) := match derived with
      | some q => some (namedColumns names (s.outputColumns q))
      | none => (s.sourceTable target).toOption.map (·.columns)
    (columns.map (sourceBinding target)).toList ++ s.frameOf rest

end

/-- The scope of a query inside this one: its own rows first, then these. -/
def Scope.enter (s : Scope) (frame : List Binding) : Scope :=
  { s with
    current := frame, bindings := s.current ++ s.bindings, group := none, aggregates := false, window := none
    windowsAllowed := false }

/-- The collation a value is looked for in a query's rows under: that of the
query's first output column if it has a `COLLATE`, else the value's own, else
that column's. -/
def Scope.queryCollation (s : Scope) (e : Expr) : Query → Collation
  | ⟨.value v _ :: _, _, sources, _, _, _, _, _, _, _⟩ =>
    let inner := (s.enter (s.frameOf sources)).collationOf v
    if v.hasCollate then inner.getD .binary
    else ((s.collationOf e).orElse fun _ => inner).getD .binary
  | _ => (s.collationOf e).getD .binary

/-- The affinity of an expression: a column's, a `CAST`'s type's, that of a
query's first output column, or none. -/
def Scope.affinityOf (s : Scope) : Expr → Option Affinity
  | .column t n q => match s.resolve t n q with
    | .ok (_, a) => a
    | .error _ => none
  | .cast _ type => some (affinityOfType type)
  | .collate e _ => s.affinityOf e
  | .subquery ⟨.value e _ :: _, _, sources, _, _, _, _, _, _, _⟩ => (s.enter (s.frameOf sources)).affinityOf e
  | _ => none

/-- A binary operator other than `AND` and `OR` applied to two values, a
comparison under an affinity. -/
def binaryValue (op : BinaryOp) (aff : Option Affinity) (coll : Collation) (a b : Cell) : Cell :=
  match op with
  | .add | .subtract | .multiply | .divide | .remainder => arithmetic op a b
  | .concat => concatenate a b
  | .bitAnd | .bitOr | .shiftLeft | .shiftRight => bitwise op a b
  | _ => comparison op aff coll a b

/-- The fault of a failed function. -/
def FunctionFault.fault : FunctionFault → Fault
  | .unknown n => .logic ("no such function: " ++ n)
  | .arity n => .logic ("wrong number of arguments to function " ++ n ++ "()")
  | .failed m => .logic m

/-- Membership of a value in a list under a collation: true if it equals an
item, unknown if it is null or some comparison is unknown, false otherwise. -/
def membership (v : Cell) (items : List (Cell × Option Affinity)) (coll : Collation) (negated : Bool) : Cell :=
  if items.isEmpty then ofBool negated
  else if v.isNull then .null
  else
    let results := items.map fun (w, a) => comparison .eq a coll v w
    let r : Option Bool :=
      if results.any (·.truth == some true) then some true
      else if results.any Cell.isNull then none
      else some false
    ofTruth (if negated then r.map (!·) else r)

/-- Whether a function is one of the JSON functions, which see whether each
argument is JSON text. -/
def isDocumentCall (name : String) : Bool := (documentArities (Text.lowerAscii name)).isSome

/-- The value of a call of a function that is not an aggregate, with the
collation that `min`, `max` and `nullif` compare under, whether `like` tells
case apart, and whether each argument is JSON text (only looked at by the JSON
functions). -/
def callValue (name : String) (coll : Collation) (exactLike : Bool) (counters : Counters) (vs : List Cell)
    (marks : List Bool) : Except Fault Cell :=
  match Text.lowerAscii name with
  | "changes" => .ok (.integer counters.changes)
  | "total_changes" => .ok (.integer counters.total)
  | "last_insert_rowid" => .ok (.integer counters.lastRowId)
  | "like" => (patternValue exactLike false vs).mapError FunctionFault.fault
  | "min" | "max" =>
    if vs.isEmpty || vs.any Cell.isNull then (applyFunction name vs).mapError FunctionFault.fault
    else .ok (vs.drop 1 |>.foldl (fun best v =>
      let o := v.compareWith coll best
      if (Text.lowerAscii name == "max" && o == .gt) || (Text.lowerAscii name == "min" && o == .lt) then v
      else best) (vs.headD .null))
  | "nullif" =>
    if vs.length == 2 then
      let a := vs.headD .null
      .ok (if a.compareWith coll (vs.getD 1 .null) == .eq then .null else a)
    else (applyFunction name vs).mapError FunctionFault.fault
  | lower =>
    match documentFunction lower (vs.zipWith (fun v m => (v, m)) marks) with
    | some r => (·.1) <$> r.mapError DocumentFault.fault
    | none => (applyFunction name vs).mapError FunctionFault.fault

/-- The rows of a group key in runs of equal keys, in order. -/
def groupRuns (colls : List Collation) (keyed : List (List Cell × List Binding)) : List (List (List Binding)) :=
  let step := fun (acc : List (List Cell × List (List Binding))) (kf : List Cell × List Binding) =>
    match acc with
    | (k, fs) :: rest => if sameCells colls kf.1 k then (k, kf.2 :: fs) :: rest else (kf.1, [kf.2]) :: acc
    | [] => [(kf.1, [kf.2])]
  (keyed.foldl step []).reverse.map fun (_, fs) => fs.reverse

/-- The rows without repeats, first ones kept. -/
def distinctRows (colls : List Collation) (rows : List (List Cell × List Cell)) : List (List Cell × List Cell) :=
  rows.foldl (fun acc r => if acc.any fun a => sameCells colls a.1 r.1 then acc else acc ++ [r]) []

/-- The columns a natural join matches: those of the new table that an earlier one has. -/
def naturalColumns (frame : List Binding) (t : Table) : List String :=
  (t.columns.filter fun c => frame.any fun b => b.columns.any fun d => sameName d.name c.name).map (·.name)

/-- Whether a row of a table agrees with the earlier rows of a join on some
columns, each compared with the first earlier table that has it. -/
def agreesOn (frame : List Binding) (t : Table) (r : Row) (columns : List String) : Bool :=
  columns.all fun c =>
    match frame.findSome? (·.find? c), (tableBinding t none (some r)).find? c with
    | some (a, fa), some (b, fb) => (comparison .eq (comparisonAffinity fa fb) .binary a b).truth == some true
    | _, _ => false

/-- The place among the output columns of the one an `AS` names. -/
def aliasIndex (items : List Item) (name : String) : Option Nat :=
  items.findIdx? fun i => match i with
    | .value _ (some a) => sameName a name
    | _ => false

/-- The collation an `ORDER BY` term names itself, if it names one. -/
def Expr.namedCollation? : Expr → Option Collation
  | .collate _ n => Collation.ofName? n
  | _ => none

/-- The place among the output columns of the one an `ORDER BY` term of a
single query names: an `AS` name first (`column` gives the place of an output
item's first column), then a number (a number out of range is `none`, and
checked apart); any other term is an expression of its own. -/
def orderIndex (items : List Item) (width : Nat) (column : Nat → Nat) (e : Expr) : Option Nat :=
  let e := e.skipCollate
  let named := match e with
    | .column none n _ => (aliasIndex items n).map column
    | _ => none
  named.orElse fun _ => match e.ordinal? with
    | some n => if 1 ≤ n && n ≤ width then some (n.toNat - 1) else none
    | none => none

/-- Whether a column term is the expression of an output column. -/
def sameColumnTerm (e : Expr) (item : Item) : Bool :=
  match e, item with
  | .column q n _, .value (.column q' n' _) _ =>
    sameName n n' && match q, q' with
      | some a, some b => sameName a b
      | _, _ => true
  | _, _ => false

/-- The place among the output columns of the one an `ORDER BY` term of
combined queries names: a number, or else, query by query, an `AS` name of
that query or the same column as one of its output columns. -/
def compoundIndex (parts : List (List Item)) (width : Nat) (e : Expr) : Option Nat :=
  let e := e.skipCollate
  match e.ordinal? with
  | some n => if 1 ≤ n && n ≤ width then some (n.toNat - 1) else none
  | none =>
    parts.findSome? fun items =>
      let named := match e with
        | .column none n _ => aliasIndex items n
        | _ => none
      named.orElse fun _ => items.findIdx? (sameColumnTerm e)

/-- Rows in the order of their values, each once. -/
def sortedDistinct (colls : List Collation) (rows : List (List Cell)) : List (List Cell) :=
  let sorted := rows.mergeSort fun a b => compareKeys (a.mapIdx fun i _ => (false, colls.getD i .binary)) a b != .gt
  sorted.foldr (fun r acc => match acc with
    | n :: _ => if sameCells colls r n then acc else r :: acc
    | [] => [r]) []

/-- The rows of two queries combined. -/
def combineRows (colls : List Collation) (op : Combine) (left right : List (List Cell)) : List (List Cell) :=
  match op with
  | .unionAll => left ++ right
  | .union => sortedDistinct colls (left ++ right)
  | .intersect => sortedDistinct colls (left.filter fun r => right.any (sameCells colls r))
  | .except => sortedDistinct colls (left.filter fun r => !right.any (sameCells colls r))

/-- The sort keys of a row of combined queries: each term names an output column. -/
def outputKeys (parts : List (List Item)) (values : List Cell) (order : List (Expr × Bool)) : List Cell :=
  order.map fun (e, _) => match compoundIndex parts values.length e with
    | some i => values.getD i .null
    | none => .null

/-- The collation an `ORDER BY` term sorts under: the one it names, else that
of the output column it names, else the term's own. -/
def Scope.orderCollation (s : Scope) (itemColls : List Collation) (place : Option Nat) (e : Expr) : Collation :=
  match e.namedCollation?, place with
  | some c, _ => c
  | none, some i => itemColls.getD i .binary
  | none, none => (s.collationOf e).getD .binary

/-- Rows without repeats, each kept where it first appears. -/
def distinctCells (rows : List (List Cell)) : List (List Cell) :=
  rows.foldl (fun acc r => if acc.any (sameCells [] r) then acc else acc ++ [r]) []

/-- The state of a recursive table as it grows: the rows waiting to be taken,
the rows seen so far (kept only for `UNION`), the rows output, how many taken
rows are still to skip for the offset, and how many may still be output. -/
structure Growth where
  waiting : List (List Cell)
  seen : List (List Cell) := []
  output : List (List Cell) := []
  skip : Nat := 0
  left : Option Nat := none

/-- The place of the first least row by some sort keys. -/
def leastPlace (keyOf : List Cell → List Cell) (dirs : List (Bool × Collation)) (rows : List (List Cell)) : Nat :=
  (rows.zipIdx.foldl (fun (best : Option (List Cell × Nat)) (r, i) =>
    match best with
    | some (b, j) => if compareKeys dirs (keyOf r) (keyOf b) == .lt then some (r, i) else some (b, j)
    | none => some (r, i)) none).elim 0 (·.2)

/-- Takes the next row: the first least by the sort keys when there are any,
else the oldest; it is output unless still skipped. None when no row waits
or the limit is reached. -/
def Growth.take (g : Growth) (keyOf : List Cell → List Cell) (dirs : List (Bool × Collation)) :
    Option (List Cell × Growth) :=
  if g.left == some 0 then none
  else
    let i := if dirs.isEmpty then 0 else leastPlace keyOf dirs g.waiting
    match g.waiting[i]? with
    | none => none
    | some row =>
      let g := { g with waiting := g.waiting.eraseIdx i }
      if g.skip > 0 then some (row, { g with skip := g.skip - 1 })
      else some (row, { g with output := g.output ++ [row], left := g.left.map (· - 1) })

/-- Adds the rows a step gave to those waiting; with `union`, only rows never
seen before, each once. -/
def Growth.push (g : Growth) (union : Bool) (rows : List (List Cell)) : Growth :=
  if union then
    rows.foldl (fun g r =>
      if g.seen.any (sameCells [] r) then g else { g with waiting := g.waiting ++ [r], seen := g.seen ++ [r] }) g
  else { g with waiting := g.waiting ++ rows }

/-- Grows a recursive table for at most `fuel` rows: each row taken runs the
steps, unless the limit was just reached. -/
def Growth.run (g : Growth) (union : Bool) (keyOf : List Cell → List Cell) (dirs : List (Bool × Collation))
    (step : List Cell → Except Fault (List (List Cell))) : Nat → Except Fault Growth
  | 0 => .ok g
  | fuel + 1 =>
    match g.take keyOf dirs with
    | none => .ok g
    | some (row, g) =>
      if g.left == some 0 then .ok g
      else do
        let more ← step row
        (g.push union more).run union keyOf dirs step fuel

/-- How many rows a recursive table may take at most. -/
def recursionFuel : Nat := 1000000

/-- Checks that a definition naming the columns of a query of `width` columns
names as many. -/
def checkColumnNames (table : String) (names : List String) (width : Nat) : Except Fault Unit :=
  if names.isEmpty || names.length == width then .ok ()
  else .error (.logic ("table " ++ table ++ " has " ++ toString width ++ " values for " ++
    toString names.length ++ " columns"))

/-- The word of a combining operator in messages. -/
def Combine.word : Combine → String
  | .union => "UNION"
  | .unionAll => "UNION ALL"
  | .intersect => "INTERSECT"
  | .except => "EXCEPT"

mutual

/-- Whether an expression calls an aggregate function outside any query inside it. -/
def Expr.hasAggregate : Expr → Bool
  | .unary _ e => e.hasAggregate
  | .binary _ l r => l.hasAggregate || r.hasAggregate
  | .between e lo hi _ => e.hasAggregate || lo.hasAggregate || hi.hasAggregate
  | .within e items _ => e.hasAggregate || Expr.anyAggregate items
  | .isNull e _ => e.hasAggregate
  | .call name args form => isAggregateCall name (if form == .star then 0 else args.length) || Expr.anyAggregate args
  | .filtered name args form _ =>
    isAggregateCall name (if form == .star then 0 else args.length) || Expr.anyAggregate args
  | .cast e _ => e.hasAggregate
  | .search branches otherwise => Expr.anyAggregate branches || otherwise.hasAggregate
  | .collate e _ => e.hasAggregate
  | .vector items => Expr.anyAggregate items
  | .withinQuery e _ _ => e.hasAggregate
  | .over _ _ args _ ⟨partition, order, _, _, _, _, _, _, _⟩ =>
    Expr.anyAggregate args || Expr.anyAggregate partition || Expr.orderAggregate order
  | _ => false

/-- Whether one of some expressions calls an aggregate function. -/
def Expr.anyAggregate : List Expr → Bool
  | [] => false
  | e :: es => e.hasAggregate || Expr.anyAggregate es

/-- Whether one of some order terms calls an aggregate function. -/
def Expr.orderAggregate : List (Expr × Bool) → Bool
  | [] => false
  | (e, _) :: rest => e.hasAggregate || Expr.orderAggregate rest

end

mutual

/-- The window of the first window function an expression calls outside the
queries inside it, operands left to right. -/
def Expr.firstWindow? : Expr → Option Window
  | .over _ _ _ _ w => some w
  | .unary _ e => e.firstWindow?
  | .binary _ l r => l.firstWindow?.orElse fun _ => r.firstWindow?
  | .between e lo hi _ => (e.firstWindow?.orElse fun _ => lo.firstWindow?).orElse fun _ => hi.firstWindow?
  | .within e items _ => e.firstWindow?.orElse fun _ => Expr.firstWindowIn? items
  | .isNull e _ => e.firstWindow?
  | .call _ args _ => Expr.firstWindowIn? args
  | .filtered _ args _ _ => Expr.firstWindowIn? args
  | .cast e _ => e.firstWindow?
  | .search branches otherwise => (Expr.firstWindowIn? branches).orElse fun _ => otherwise.firstWindow?
  | .collate e _ => e.firstWindow?
  | .vector items => Expr.firstWindowIn? items
  | .withinQuery e _ _ => e.firstWindow?
  | _ => none

/-- The window of the first window function some expressions call. -/
def Expr.firstWindowIn? : List Expr → Option Window
  | [] => none
  | e :: es => e.firstWindow?.orElse fun _ => Expr.firstWindowIn? es

end

/-- The window of the first window function a query's output calls. -/
def Item.firstWindow? : List Item → Option Window
  | [] => none
  | .value e _ :: rest => e.firstWindow?.orElse fun _ => Item.firstWindow? rest
  | _ :: rest => Item.firstWindow? rest

/-- Whether a query's output or order calls a window function. -/
def Query.windowed (q : Query) : Bool :=
  (Item.firstWindow? q.items).isSome || q.order.any fun (e, _) => e.firstWindow?.isSome

/-- Whether a query computes its output from groups. -/
def Query.aggregated (q : Query) : Bool :=
  !q.groups.isEmpty ||
    q.items.any (fun i => match i with
      | .value e _ => e.hasAggregate
      | _ => false) ||
    q.order.any (·.1.hasAggregate)

mutual

/-- The name of the first aggregate function an expression calls outside the
queries inside it, as written. -/
def Expr.firstAggregate? : Expr → Option String
  | .unary _ e => e.firstAggregate?
  | .binary _ l r => l.firstAggregate?.orElse fun _ => r.firstAggregate?
  | .between e lo hi _ => (e.firstAggregate?.orElse fun _ => lo.firstAggregate?).orElse fun _ => hi.firstAggregate?
  | .within e items _ => e.firstAggregate?.orElse fun _ => Expr.firstAggregateIn? items
  | .isNull e _ => e.firstAggregate?
  | .call name args form =>
    if isAggregateCall name (if form == .star then 0 else args.length) then some name
    else Expr.firstAggregateIn? args
  | .filtered name args form _ =>
    if isAggregateCall name (if form == .star then 0 else args.length) then some name
    else Expr.firstAggregateIn? args
  | .cast e _ => e.firstAggregate?
  | .search branches otherwise => (Expr.firstAggregateIn? branches).orElse fun _ => otherwise.firstAggregate?
  | .collate e _ => e.firstAggregate?
  | .vector items => Expr.firstAggregateIn? items
  | .withinQuery e _ _ => e.firstAggregate?
  | _ => none

/-- The name of the first aggregate function some expressions call. -/
def Expr.firstAggregateIn? : List Expr → Option String
  | [] => none
  | e :: es => e.firstAggregate?.orElse fun _ => Expr.firstAggregateIn? es

end

mutual

/-- An expression of a query's condition, grouping or `HAVING` with each bare
name that no table of the query has (`isColumn`) but that an output column
takes with `AS` replaced by that column's expression; the queries inside keep
their names. An output column that calls a window function, or is a row
value, cannot be named so. -/
def Expr.withAliases (aliases : List (String × Expr)) (isColumn : String → Bool) : Expr → Except Fault Expr
  | .column none n quote =>
    if isColumn n then .ok (.column none n quote)
    else match aliases.find? fun (a, _) => sameName a n with
      | some (a, e) =>
        if e.firstWindow?.isSome then .error (.logic ("misuse of aliased window function " ++ a))
        else match e with
          | .vector _ => .error (.logic "row value misused")
          | _ => .ok e
      | none => .ok (.column none n quote)
  | .unary op e => do pure (.unary op (← e.withAliases aliases isColumn))
  | .binary op l r => do pure (.binary op (← l.withAliases aliases isColumn) (← r.withAliases aliases isColumn))
  | .between e lo hi negated => do
    pure (.between (← e.withAliases aliases isColumn) (← lo.withAliases aliases isColumn)
      (← hi.withAliases aliases isColumn) negated)
  | .within e items negated => do
    pure (.within (← e.withAliases aliases isColumn) (← Expr.withAliasesAll aliases isColumn items) negated)
  | .isNull e negated => do pure (.isNull (← e.withAliases aliases isColumn) negated)
  | .call name args form => do pure (.call name (← Expr.withAliasesAll aliases isColumn args) form)
  | .filtered name args form condition => do
    pure (.filtered name (← Expr.withAliasesAll aliases isColumn args) form
      (← condition.withAliases aliases isColumn))
  | .cast e type => do pure (.cast (← e.withAliases aliases isColumn) type)
  | .search branches otherwise => do
    pure (.search (← Expr.withAliasesAll aliases isColumn branches) (← otherwise.withAliases aliases isColumn))
  | .collate e name => do pure (.collate (← e.withAliases aliases isColumn) name)
  | .vector items => do pure (.vector (← Expr.withAliasesAll aliases isColumn items))
  | .withinQuery e q negated => do pure (.withinQuery (← e.withAliases aliases isColumn) q negated)
  | e => .ok e

/-- Expressions with the names of output columns replaced. -/
def Expr.withAliasesAll (aliases : List (String × Expr)) (isColumn : String → Bool) :
    List Expr → Except Fault (List Expr)
  | [] => .ok []
  | e :: es => do pure ((← e.withAliases aliases isColumn) :: (← Expr.withAliasesAll aliases isColumn es))

end

/-- The output columns a query names with `AS`, with their expressions. -/
def Item.aliases (items : List Item) : List (String × Expr) :=
  items.filterMap fun
    | .value e (some a) => some (a, e)
    | _ => none

/-- A query with the names of its output columns put in place where its
condition, grouping and `HAVING` use them for no column of its tables
(`isColumn` tells those). -/
def Query.withAliases (isColumn : String → Bool) (q : Query) : Except Fault Query := do
  let aliases := Item.aliases q.items
  if aliases.isEmpty then return q
  let condition ← q.condition.mapM (·.withAliases aliases isColumn)
  let having ← q.having.mapM (·.withAliases aliases isColumn)
  let groups ← Expr.withAliasesAll aliases isColumn q.groups
  return { q with condition, having, groups }

/-- Whether a name is a column of the tables of a query, as its bindings hold them. -/
def Binding.hasName (frame : List Binding) (n : String) : Bool := frame.any fun b => (b.find? n).isSome

mutual

/-- The value of an expression. -/
def Scope.eval (s : Scope) : Expr → Except Fault Cell
  | .integer t => (integerLiteral t false).mapError Fault.logic
  | .real t => .ok (.real (readReal (bytesOf t)).1)
  | .constant c => .ok c
  | .parameter => .ok .null
  | .column t n q => (·.1) <$> s.resolve t n q
  | .unary .negate e =>
    match e with
    | .integer t => (integerLiteral t true).mapError Fault.logic
    | .real t => .ok (.real (-(readReal (bytesOf t)).1))
    | _ => do
      let v ← s.eval e
      return arithmetic .subtract (.integer 0) v
  | .unary .plus e => s.eval e
  | .unary .complement e => do
    let v ← s.eval e
    return if v.isNull then .null else .integer (-1 - v.intValue)
  | .unary .not e => do
    let v ← s.eval e
    return ofTruth (v.truth.map (!·))
  | .binary op l r => do
    let a ← s.eval l
    if op == .and && a.truth == some false then return ofBool false
    if op == .or && a.truth == some true then return ofBool true
    let b ← s.eval r
    if op == .and then return ofTruth (both a.truth b.truth)
    if op == .or then return ofTruth (either a.truth b.truth)
    return binaryValue op (comparisonAffinity (s.affinityOf l) (s.affinityOf r)) (s.pairCollation l r) a b
  | .between e lo hi negated => do
    let v ← s.eval e
    let a ← s.eval lo
    let b ← s.eval hi
    let ge := comparison .ge (comparisonAffinity (s.affinityOf e) (s.affinityOf lo)) (s.pairCollation e lo) v a
    let le := comparison .le (comparisonAffinity (s.affinityOf e) (s.affinityOf hi)) (s.pairCollation e hi) v b
    let r := both ge.truth le.truth
    return ofTruth (if negated then r.map (!·) else r)
  | .within e items negated => do
    let v ← s.eval e
    let vs ← s.evalAll items
    let affinity := s.affinityOf e
    return membership v (vs.zip (items.map fun i => comparisonAffinity affinity (s.affinityOf i)))
      ((s.collationOf e).getD .binary) negated
  | .isNull e negated => do
    let v ← s.eval e
    return ofBool (v.isNull != negated)
  | .call name args form =>
    match s.group with
    | some rows =>
      if isAggregateCall name (if form == .star then 0 else args.length) then do
        let scopes := rows.map fun r => ({ s with current := r, group := none } : Scope)
        let values ← scopes.mapM (·.evalAll args)
        let marks ← if isDocumentCall name then scopes.mapM (·.jsonMarks args) else pure []
        let coll := s.argumentCollation args
        if form == .distinct then aggregateValue name coll (distinctValues coll values) []
        else aggregateValue name coll values marks
      else do
        let vs ← s.evalAll args
        let marks ← if isDocumentCall name then s.jsonMarks args else pure []
        callValue name (s.argumentCollation args) s.exactLike s.counters vs marks
    | none => do
      let vs ← s.evalAll args
      let marks ← if isDocumentCall name then s.jsonMarks args else pure []
      callValue name (s.argumentCollation args) s.exactLike s.counters vs marks
  | .filtered name args form condition =>
    match s.group with
    | some rows => do
      let scopes := rows.map fun r => ({ s with current := r, group := none } : Scope)
      let kept ← scopes.filterM fun g => Cell.holds <$> g.eval condition
      let values ← kept.mapM (·.evalAll args)
      let marks ← if isDocumentCall name then kept.mapM (·.jsonMarks args) else pure []
      let coll := s.argumentCollation args
      if form == .distinct then aggregateValue name coll (distinctValues coll values) []
      else aggregateValue name coll values marks
    | none => do
      let vs ← s.evalAll args
      let marks ← if isDocumentCall name then s.jsonMarks args else pure []
      callValue name (s.argumentCollation args) s.exactLike s.counters vs marks
  | .cast e type => do
    let v ← s.eval e
    return castTo (affinityOfType type) v
  | .search branches otherwise => do
    match ← s.evalSearch branches with
    | some v => return v
    | none => s.eval otherwise
  | .raise kind message =>
    if !s.inTrigger then .error (.logic "RAISE() may only be used within a trigger-program")
    else if kind == .ignore then .error .ignored
    else .error (.raised kind message)
  | .collate e _ => s.eval e
  | .vector _ => .error (.logic "row value misused")
  | .subquery q => do
    let rows ← s.select (some 1) q
    return ((rows.head?.bind (·.head?)).getD .null)
  | .pick q j _ => do
    let rows ← s.select (some 1) q
    return ((rows.head?.bind (·[j]?)).getD .null)
  | .someRow q => do
    let rows ← s.select (some 1) q
    return ofBool !rows.isEmpty
  | .over _ name args _ ⟨partition, order, unit, start, finish, exclude, _, filter, _⟩ => do
    match s.window with
    | none => throw (.logic ("misuse of window function " ++ name ++ "()"))
    | some (rows, i) =>
      let peers := rows.map fun (c, g) => ({ s with current := c, group := g, window := none } : Scope)
      let data ← peers.mapM fun p => do
        let keys ← p.evalAll partition
        let sorts ← p.evalOrder order
        let vs ← p.evalAll args
        let marks ← if isDocumentCall name then p.jsonMarks args else pure []
        let counted ← match filter with
          | some f => Cell.holds <$> p.eval f
          | none => pure true
        pure ({ partition := keys, order := sorts, args := vs, marks, counted } : WindowRow)
      let here : Scope := { s with window := none }
      let startEdge ← here.evalBound start
      let finishEdge ← here.evalBound finish
      let spec : WindowSpec :=
        { partitionColls := partition.map fun e => (s.collationOf e).getD .binary
          dirs := order.map fun (e, d) => (d, (s.collationOf e).getD .binary)
          unit, start := startEdge, finish := finishEdge, exclude }
      windowValue name (s.argumentCollation args) spec data i
  | .withinQuery e q negated => do
    let v ← s.eval e
    let rows ← s.select none q
    let affinity := comparisonAffinity (s.affinityOf e) (s.affinityOf (.subquery q))
    let coll := if e.hasCollate then (s.collationOf e).getD .binary else s.queryCollation e q
    return membership v (rows.map fun r => (r.headD .null, affinity)) coll negated

/-- Whether an expression's value is JSON text made by a JSON function, which
other JSON functions take as it is rather than as a string. -/
def Scope.jsonMark (s : Scope) : Expr → Except Fault Bool
  | .call name args _ => do
    let lower := Text.lowerAscii name
    if lower == "json_group_array" || lower == "json_group_object" then return true
    if !isDocumentCall name then return false
    let vs ← s.evalAll args
    let marks ← s.jsonMarks args
    match documentFunction lower (vs.zipWith (fun v m => (v, m)) marks) with
    | some (.ok (_, json)) => return json
    | _ => return false
  | .filtered name _ _ _ =>
    let lower := Text.lowerAscii name
    .ok (lower == "json_group_array" || lower == "json_group_object")
  | .over _ name _ _ _ =>
    let lower := Text.lowerAscii name
    .ok (lower == "json_group_array" || lower == "json_group_object")
  | .collate e _ => s.jsonMark e
  | _ => .ok false

/-- The marks of expressions, in order. -/
def Scope.jsonMarks (s : Scope) : List Expr → Except Fault (List Bool)
  | [] => .ok []
  | e :: es => do
    let m ← s.jsonMark e
    let ms ← s.jsonMarks es
    return m :: ms

/-- The values of expressions, in order. -/
def Scope.evalAll (s : Scope) : List Expr → Except Fault (List Cell)
  | [] => .ok []
  | e :: es => do
    let v ← s.eval e
    let vs ← s.evalAll es
    return v :: vs

/-- The values of order terms, in order. -/
def Scope.evalOrder (s : Scope) : List (Expr × Bool) → Except Fault (List Cell)
  | [] => .ok []
  | (e, _) :: rest => do
    let v ← s.eval e
    let vs ← s.evalOrder rest
    return v :: vs

/-- An end of a window frame with its offset evaluated. -/
def Scope.evalBound (s : Scope) : Bound → Except Fault Edge
  | .unboundedPreceding => .ok .unboundedPreceding
  | .preceding e => .preceding <$> s.eval e
  | .currentRow => .ok .currentRow
  | .following e => .following <$> s.eval e
  | .unboundedFollowing => .ok .unboundedFollowing

/-- The partition values and then the order values of the first window
function an expression calls, as `Expr.firstWindow?` finds it. -/
def Scope.windowKeysIn (s : Scope) : Expr → Except Fault (Option (List Cell))
  | .over _ _ _ _ ⟨partition, order, _, _, _, _, _, _, _⟩ => do
    let p ← s.evalAll partition
    let o ← s.evalOrder order
    return some (p ++ o)
  | .unary _ e => s.windowKeysIn e
  | .binary _ l r => do
    match ← s.windowKeysIn l with
    | some k => return some k
    | none => s.windowKeysIn r
  | .between e lo hi _ => do
    match ← s.windowKeysIn e with
    | some k => return some k
    | none =>
      match ← s.windowKeysIn lo with
      | some k => return some k
      | none => s.windowKeysIn hi
  | .within e items _ => do
    match ← s.windowKeysIn e with
    | some k => return some k
    | none => s.windowKeysInAll items
  | .isNull e _ => s.windowKeysIn e
  | .call _ args _ => s.windowKeysInAll args
  | .filtered _ args _ _ => s.windowKeysInAll args
  | .cast e _ => s.windowKeysIn e
  | .search branches otherwise => do
    match ← s.windowKeysInAll branches with
    | some k => return some k
    | none => s.windowKeysIn otherwise
  | .collate e _ => s.windowKeysIn e
  | .vector items => s.windowKeysInAll items
  | .withinQuery e _ _ => s.windowKeysIn e
  | _ => .ok none

/-- The window values of the first window function some expressions call. -/
def Scope.windowKeysInAll (s : Scope) : List Expr → Except Fault (Option (List Cell))
  | [] => .ok none
  | e :: es => do
    match ← s.windowKeysIn e with
    | some k => return some k
    | none => s.windowKeysInAll es

/-- The window values of the first window function a query's output calls. -/
def Scope.windowKeysInItems (s : Scope) : List Item → Except Fault (Option (List Cell))
  | [] => .ok none
  | .value e _ :: rest => do
    match ← s.windowKeysIn e with
    | some k => return some k
    | none => s.windowKeysInItems rest
  | _ :: rest => s.windowKeysInItems rest

/-- The result of the first branch whose condition is true, if any. -/
def Scope.evalSearch (s : Scope) : List Expr → Except Fault (Option Cell)
  | c :: r :: rest => do
    let v ← s.eval c
    if v.truth == some true then some <$> s.eval r else s.evalSearch rest
  | _ => .ok none

/-- The values of a query's output columns for the rows in scope. -/
def Scope.itemValues (s : Scope) : List Item → Except Fault (List Cell)
  | [] => .ok []
  | .all :: rest => do
    let more ← s.itemValues rest
    return s.current.flatMap Binding.cells ++ more
  | .allOf n :: rest => do
    let more ← s.itemValues rest
    return (s.current.filter fun b => b.names.contains (Text.lowerAscii n)).flatMap Binding.cells ++ more
  | .value e _ :: rest => do
    let v ← s.eval e
    let more ← s.itemValues rest
    return v :: more

/-- The sort keys of an output row: a number names an output column, as does
the name an `AS` gives; any other term is evaluated. -/
def Scope.orderKeys (s : Scope) (values : List Cell) (items : List Item) :
    List (Expr × Bool) → Except Fault (List Cell)
  | [] => .ok []
  | (e, _) :: rest => do
    let k ← match orderIndex items values.length (s.itemOffset items) e with
      | some i => pure (values.getD i .null)
      | none => s.eval e
    let more ← s.orderKeys values items rest
    return k :: more

/-- The combinations of rows that a query's joins keep, each extending one of `frames`. -/
def Scope.joinRows (s : Scope) (frames : List (List Binding)) : List Joined → Except Fault (List (List Binding))
  | [] => .ok frames
  | ⟨target, derived, kind, on, shared, natural, names, recursion, arguments⟩ :: rest => do
    let t ← match derived with
      | some q => do
        let columns := namedColumns names (s.outputColumns q)
        let rows ← s.select none q
        let rows ← match recursion with
          | some ⟨steps, order, limit, offset⟩ => do
            let base := s.enter []
            let lim ← match limit with
              | some e => do pure (some (← mustBeInt (← base.eval e)))
              | none => pure none
            let off ← match offset with
              | some e => do pure ((← mustBeInt (← base.eval e)).toNat)
              | none => pure 0
            let items := match q with
              | ⟨items, _, _, _, _, _, _, _, _, _⟩ => items
            let union := steps.head?.any (·.1 == .union)
            let start : Growth :=
              { waiting := if union then distinctCells rows else rows, seen := if union then distinctCells rows else [],
                skip := off, left := lim.bind fun l => if l < 0 then none else some l.toNat }
            let step := fun (row : List Cell) =>
              ({ s with working := (target.name, derivedTable target.name columns [row]) :: s.working } :
                Scope).stepRows steps
            let grown ← start.run union (fun row => outputKeys [items] row order)
              (order.map fun (_, d) => (d, Collation.binary)) step recursionFuel
            pure grown.output
          | none => pure rows
        pure (derivedTable (target.asName.getD target.name) columns rows)
      | none => s.sourceTable target
    let grown ← frames.mapM fun f => do
      let t ← match arguments, derived with
        | some args, none => do
          let vs ← ({ s with current := f } : Scope).evalAll args
          match documentRows (t.name == "json_tree") vs with
          | .ok rows => pure { t with rows := rows.zipIdx.map fun (r, i) => ⟨i + 1, r.cells⟩ }
          | .error e => throw e.fault
        | _, _ => pure t
      let kept ← t.rows.filterM fun r => do
        let c := f ++ [tableBinding t target.asName (some r)]
        let joined ← match on with
          | some e => Cell.holds <$> ({ s with current := c } : Scope).eval e
          | none => pure true
        pure (joined && agreesOn f t r (if natural then naturalColumns f t else shared))
      let rows := kept.map fun r => f ++ [tableBinding t target.asName (some r)]
      pure (if rows.isEmpty && kind == .left then [f ++ [tableBinding t target.asName none]] else rows)
    s.joinRows grown.flatten rest

/-- The rows of the steps of a recursive table, one after another. -/
def Scope.stepRows (s : Scope) : List (Combine × Query) → Except Fault (List (List Cell))
  | [] => .ok []
  | (_, q) :: rest => do
    let rows ← s.select none q
    let more ← s.stepRows rest
    return rows ++ more

/-- The rows of queries combined in turn with some rows, compared under the
collations of the output columns of all of them. -/
def Scope.combineAll (s : Scope) (colls : List Collation) (rows : List (List Cell)) :
    List (Combine × Query) → Except Fault (List (List Cell))
  | [] => .ok rows
  | (op, q) :: rest => do
    let more ← s.select none q
    s.combineAll colls (combineRows colls op rows more) rest

/-- The output rows of a query, at most `want` of them when it neither orders,
drops repeats nor combines with other queries. -/
def Scope.select (s : Scope) (want : Option Nat) : Query → Except Fault (List (List Cell))
  | ⟨items, distinct, sources, condition, groups, having, order, limit, offset, compound⟩ => do
    let aggregated := Query.aggregated ⟨items, distinct, sources, condition, groups, having, order, limit, offset, compound⟩
    let base := s.enter []
    let lim ← match limit with
      | some e => do pure (some (← mustBeInt (← base.eval e)))
      | none => pure none
    let off ← match offset with
      | some e => do pure ((← mustBeInt (← base.eval e)).toNat)
      | none => pure 0
    let frames ← base.joinRows [[]] sources
    let frameScope := s.enter (s.frameOf sources)
    let keeps := fun (f : List Binding) => match condition with
      | some c => Cell.holds <$> ({ base with current := f } : Scope).eval c
      | none => pure true
    let simple := compound.isEmpty
    let windowed := Query.windowed ⟨items, distinct, sources, condition, groups, having, order, limit, offset, compound⟩
    let windowRows := fun (slots : List (List Binding × Option (List (List Binding)))) => do
      let out ← slots.zipIdx.mapM fun ((c, g), i) => do
        let rs : Scope := { base with current := c, group := g, window := some (slots, i) }
        let vs ← rs.itemValues items
        let keys ← if simple then rs.orderKeys vs items order else pure []
        let sortKeys ← if order.isEmpty then rs.windowKeysInItems items else pure none
        pure ((vs, keys), sortKeys)
      let dirs := match Item.firstWindow? items with
        | some ⟨partition, terms, _, _, _, _, _, _, _⟩ =>
          partition.map (fun e => (false, (frameScope.collationOf e).getD .binary)) ++
            terms.map fun (e, d) => (d, (frameScope.collationOf e).getD .binary)
        | none => []
      let out := if order.isEmpty && !dirs.isEmpty then
          out.mergeSort fun a b => compareKeys dirs (a.2.getD []) (b.2.getD []) != .gt
        else out
      pure (out.map (·.1))
    let rows ← if !aggregated then
      if windowed then do
        let kept ← frames.filterM keeps
        windowRows (kept.map (·, none))
      else do
        let cap : Option Nat :=
          if distinct || !order.isEmpty || !simple then none
          else match want, lim with
            | some w, some l => if l < 0 then some (w + off) else some (min (w + off) (l.toNat + off))
            | some w, none => some (w + off)
            | none, some l => if l < 0 then none else some (l.toNat + off)
            | none, none => none
        frames.foldlM (fun acc f => do
          if cap.any (acc.length ≥ ·) then return acc
          if !(← keeps f) then return acc
          let fs : Scope := { base with current := f }
          let vs ← fs.itemValues items
          let keys ← if simple then fs.orderKeys vs items order else pure []
          return acc ++ [(vs, keys)]) []
      else do
        let kept ← frames.filterM keeps
        let runs ← if groups.isEmpty then pure [kept] else do
          let keyed ← kept.mapM fun f => do
            let k ← ({ base with current := f } : Scope).evalAll groups
            pure (k, f)
          let colls := groups.map fun g => (frameScope.collationOf g).getD .binary
          pure (groupRuns colls (keyed.mergeSort fun a b => compareKeys (colls.map (false, ·)) a.1 b.1 != .gt))
        if windowed then do
          let slots ← runs.filterMapM fun g => do
            let gs : Scope := { base with current := g.getLastD (s.frameOf sources), group := some g }
            let keep ← match having with
              | some h => Cell.holds <$> gs.eval h
              | none => pure true
            pure (if keep then some (g.getLastD (s.frameOf sources), some g) else none)
          windowRows slots
        else
        runs.filterMapM fun g => do
          let gs : Scope := { base with current := g.getLastD (s.frameOf sources), group := some g }
          let keep ← match having with
            | some h => Cell.holds <$> gs.eval h
            | none => pure true
          if !keep then return none
          let vs ← gs.itemValues items
          let keys ← if simple then gs.orderKeys vs items order else pure []
          return some (vs, keys)
    let itemColls := frameScope.itemCollations items
    let parts := items :: compound.map fun (_, q) => q.items
    let rows := if distinct then distinctRows itemColls rows else rows
    let combinedColls := combinedCollations itemColls.length
      (frameScope.ownCollations items :: compound.map fun (_, q) => (s.enter (s.frameOf q.sources)).ownCollations q.items)
    let rows ← if simple then pure rows else do
      let combined ← s.combineAll combinedColls (rows.map (·.1)) compound
      pure (combined.map fun vs => (vs, outputKeys parts vs order))
    let width := itemColls.length
    let orderColls := order.map fun (e, d) =>
      let place := if simple then orderIndex items width (frameScope.itemOffset items) e
        else compoundIndex parts width e
      (d, frameScope.orderCollation (if simple then itemColls else combinedColls) place e)
    let rows := if order.isEmpty then rows
      else rows.mergeSort fun a b => compareKeys orderColls a.2 b.2 != .gt
    let rows := rows.drop off
    let rows := match lim with
      | some l => if l < 0 then rows else rows.take l.toNat
      | none => rows
    return rows.map (·.1)

end

mutual

/-- Checks the names and calls of an expression; the first unknown name fails
it, and a bad call fails it unless its arguments fail first. -/
def Scope.check (s : Scope) : Expr → Except Fault Unit
  | .column t n q => do let _ ← s.resolve t n q
  | .unary _ e => s.check e
  | .binary _ l r => do
    s.check l
    s.check r
  | .between e lo hi _ => do
    s.check e
    s.check lo
    s.check hi
  | .within e items _ => do
    s.check e
    s.checkAll items
  | .isNull e _ => s.check e
  | .call name args form => do
    let count := if form == .star then 0 else args.length
    let aggregate := isAggregateCall name count
    ({ s with aggregates := s.aggregates && !aggregate, windowsAllowed := s.windowsAllowed && !aggregate } :
      Scope).checkAll args
    if let some counts := windowArities (Text.lowerAscii name) then
      if !counts.contains count then throw (.logic ("wrong number of arguments to function " ++ name ++ "()"))
      throw (.logic ("misuse of window function " ++ name ++ "()"))
    if aggregate && !s.aggregates then throw (.logic ("misuse of aggregate function " ++ name ++ "()"))
    (checkCall name count).mapError FunctionFault.fault
  | .filtered name args form condition => do
    let count := if form == .star then 0 else args.length
    let aggregate := isAggregateCall name count
    let inner : Scope := { s with aggregates := s.aggregates && !aggregate, windowsAllowed := s.windowsAllowed && !aggregate }
    let fault : Option Fault :=
      if let some counts := windowArities (Text.lowerAscii name) then
        if !counts.contains count then some (.logic ("wrong number of arguments to function " ++ name ++ "()"))
        else some (.logic ("misuse of window function " ++ name ++ "()"))
      else if aggregate && !s.aggregates then some (.logic ("misuse of aggregate function " ++ name ++ "()"))
      else match checkCall name count with
        | .error f => some f.fault
        | .ok () =>
          if aggregate then none else some (.logic ("FILTER may not be used with non-aggregate " ++ name ++ "()"))
    match fault with
    | some f => do
      inner.checkAll args
      throw f
    | none => do
      inner.check condition
      inner.checkAll args
  | .over _ name args form ⟨partition, order, unit, start, finish, _, _, filter, named⟩ => do
    let count := if form == .star then 0 else args.length
    let lower := Text.lowerAscii name
    let inner : Scope := { s with windowsAllowed := false }
    let fault : Option Fault :=
      match windowArities lower with
      | some counts =>
        if !counts.contains count then some (.logic ("wrong number of arguments to function " ++ name ++ "()"))
        else none
      | none =>
        if isAggregateCall name count then none
        else match checkCall name count with
          | .error (.unknown n) => some (FunctionFault.unknown n).fault
          | .error f =>
            if aggregateNames.contains lower then some f.fault
            else some (.logic (name ++ "() may not be used as a window function"))
          | .ok () => some (.logic (name ++ "() may not be used as a window function"))
    let fault := fault.orElse fun _ =>
      if !s.windowsAllowed || !s.aggregates then some (.logic ("misuse of window function " ++ name ++ "()"))
      else none
    match fault with
    | some f => do
      inner.checkAll args
      throw f
    | none => do
      inner.checkAll partition
      inner.checkTerms order
      match filter with
      | some f => inner.check f
      | none => pure ()
      let offset := fun (b : Bound) => match b with
        | .preceding _ | .following _ => true
        | _ => false
      match named with
      | some (.whole n) => throw (.logic ("no such window: " ++ n))
      | _ => pure ()
      if unit == .range && (offset start || offset finish) && order.length != 1 then
        throw (.logic "RANGE with offset PRECEDING/FOLLOWING requires exactly one ORDER BY term")
      if (windowArities lower).isSome && filter.isSome then
        throw (.logic "FILTER clause may only be used with aggregate window functions")
      match named with
      | some (.base n) => throw (.logic ("no such window: " ++ n))
      | some (.refused reason) => throw (.logic reason)
      | _ => pure ()
      inner.checkAll args
  | .cast e _ => s.check e
  | .search branches otherwise => do
    s.checkAll branches
    s.check otherwise
  | .collate e name => do
    if (Collation.ofName? name).isNone then throw (.logic ("no such collation sequence: " ++ name))
    s.check e
  | .vector items => s.checkAll items
  | .subquery q => do
    let n ← s.checkQuery q
    if n != 1 then throw (.logic ("sub-select returns " ++ toString n ++ " columns - expected 1"))
  | .pick q _ width => do
    let n ← s.checkQuery q
    if n != width then throw (.logic (toString width ++ " columns assigned " ++ toString n ++ " values"))
  | .someRow q => do let _ ← s.checkQuery q
  | .withinQuery e q _ => do
    s.check e
    let n ← s.checkQuery q
    if n != 1 then throw (.logic ("sub-select returns " ++ toString n ++ " columns - expected 1"))
  | _ => .ok ()

/-- Checks expressions in order. -/
def Scope.checkAll (s : Scope) : List Expr → Except Fault Unit
  | [] => .ok ()
  | e :: es => do
    s.check e
    s.checkAll es

/-- Checks the expressions of order terms in order. -/
def Scope.checkTerms (s : Scope) : List (Expr × Bool) → Except Fault Unit
  | [] => .ok ()
  | (e, _) :: rest => do
    s.check e
    s.checkTerms rest

/-- Checks the offset of an end of a window frame. -/
def Scope.checkBound (s : Scope) : Bound → Except Fault Unit
  | .preceding e => s.check e
  | .following e => s.check e
  | _ => .ok ()

/-- Checks the values among a query's output columns. -/
def Scope.checkItems (s : Scope) : List Item → Except Fault Unit
  | [] => .ok ()
  | .value e _ :: rest => do
    s.check e
    s.checkItems rest
  | _ :: rest => s.checkItems rest

/-- Checks the conditions of a query's joins. -/
def Scope.checkJoins (s : Scope) : List Joined → Except Fault Unit
  | [] => .ok ()
  | ⟨_, _, _, some e, _, _, _, _, _⟩ :: rest => do
    s.check e
    s.checkJoins rest
  | _ :: rest => s.checkJoins rest

/-- Checks the arguments of the table functions a query reads. -/
def Scope.checkArguments (s : Scope) : List Joined → Except Fault Unit
  | [] => .ok ()
  | ⟨_, _, _, _, _, _, _, _, some args⟩ :: rest => do
    s.checkAll args
    s.checkArguments rest
  | _ :: rest => s.checkArguments rest

/-- Checks that the tables a query reads exist, and the queries it reads from. -/
def Scope.checkSources (s : Scope) : List Joined → Except Fault Unit
  | [] => .ok ()
  | ⟨target, derived, _, _, _, _, names, recursion, arguments⟩ :: rest => do
    if arguments.isSome && (derived.isSome || !s.isDocumentTable target) then
      if derived.isNone then let _ ← s.sourceTable target
      throw (.logic ("'" ++ target.name ++ "' is not a function"))
    match derived with
    | some q =>
      match recursion with
      | some ⟨steps, _, _, _⟩ =>
        if q.reads target.name || steps.isEmpty then throw (.logic ("circular reference: " ++ target.name))
        let width ← s.checkQuery q
        checkColumnNames target.name names width
        let working := (target.name, derivedTable target.name (namedColumns names (s.outputColumns q)) [])
        ({ s with working := working :: s.working } : Scope).checkCompound width steps
      | none =>
        let width ← s.checkQuery q
        checkColumnNames target.name names width
    | none => let _ ← s.sourceTable target
    s.checkSources rest

/-- Checks the queries combined with one of `width` output columns: each must
have as many. -/
def Scope.checkCompound (s : Scope) (width : Nat) : List (Combine × Query) → Except Fault Unit
  | [] => .ok ()
  | (op, q) :: rest => do
    let n ← s.checkQuery q
    if n != width then
      throw (.logic ("SELECTs to the left and right of " ++ op.word ++
        " do not have the same number of result columns"))
    s.checkCompound width rest

/-- Checks the terms of `ORDER BY` of a query with `width` output columns. -/
def Scope.checkOrder (s : Scope) (width : Nat) (items : List Item) (place : Nat) :
    List (Expr × Bool) → Except Fault Unit
  | [] => .ok ()
  | (e, _) :: rest => do
    let named := match e.skipCollate with
      | .column none n _ => (aliasIndex items n).isSome
      | _ => false
    if !named then
      match e.skipCollate.ordinal? with
      | some n =>
        if n < 1 || n > width then
          throw (.logic (ordinalText place ++ " ORDER BY term out of range - should be between 1 and " ++
            toString width))
      | none => s.check e
    s.checkOrder width items (place + 1) rest

/-- Checks a query: its tables, the names of its output columns, limit,
condition, grouping and order, and the queries combined with it; gives the
number of its output columns. -/
def Scope.checkQuery (s : Scope) : Query → Except Fault Nat
  | ⟨items, distinct, sources, condition, groups, having, order, limit, offset, compound⟩ => do
    let aggregated := Query.aggregated ⟨items, distinct, sources, condition, groups, having, order, limit, offset, compound⟩
    s.checkSources sources
    let frame := s.frameOf sources
    let mut width := 0
    for item in items do
      match item with
      | .all =>
        if sources.isEmpty then throw (.logic "no tables specified")
        width := width + (frame.map (·.columns.length)).sum
      | .allOf n =>
        match frame.find? fun b => b.names.contains (Text.lowerAscii n) with
        | some b => width := width + b.columns.length
        | none => throw (.logic ("no such table: " ++ n))
      | .value _ _ => width := width + 1
    let empty := s.enter []
    match limit with
    | some e => empty.check e
    | none => pure ()
    match offset with
    | some e => empty.check e
    | none => pure ()
    let qs := s.enter frame
    ({ qs with aggregates := true, windowsAllowed := true } : Scope).checkItems items
    match having with
    | some h =>
      if !aggregated then throw (.logic "HAVING clause on a non-aggregate query")
      ({ qs with aggregates := true } : Scope).check h
    | none => pure ()
    -- in a query that groups, a call of an aggregate function in the condition
    -- passes the names check and fails only when the condition is computed
    let conditionScope : Scope := { qs with aggregates := aggregated }
    match condition with
    | some c => conditionScope.check c
    | none => pure ()
    conditionScope.checkJoins sources
    qs.checkArguments sources
    if compound.isEmpty then
      ({ qs with aggregates := aggregated, windowsAllowed := true } : Scope).checkOrder width items 1 order
    ({ qs with aggregates := true } : Scope).checkAll groups
    if (Expr.firstAggregateIn? groups).isSome then
      throw (.logic "aggregate functions are not allowed in the GROUP BY clause")
    if !compound.isEmpty then
      s.checkCompound width compound
      let parts := items :: compound.map fun (_, q) => q.items
      for ((e, _), place) in order.zip (List.range order.length) do
        if let some n := e.skipCollate.ordinal? then
          if n < 1 || n > width then
            throw (.logic (ordinalText (place + 1) ++ " ORDER BY term out of range - should be between 1 and " ++
              toString width))
        if (compoundIndex parts width e).isNone then
          throw (.logic (ordinalText (place + 1) ++ " ORDER BY term does not match any column in the result set"))
    for j in sources do
      if let some args := j.arguments then
        if args.length > 2 then
          throw (.logic ("too many arguments on " ++ Text.lowerAscii j.target.name ++ "() - max 2"))
    let joinConditions := sources.filterMap (·.on)
    match (Expr.firstAggregateIn? (condition.toList ++ joinConditions)) with
    | some name => throw (.logic ("misuse of aggregate: " ++ name ++ "()"))
    | none => pure ()
    return width

end

mutual

/-- The faults an expression meets when it is compiled: an integer literal
too big, or `RAISE` outside a trigger. -/
def compileFault? (inTrigger : Bool) : Expr → Option Fault
  | .integer t => match integerLiteral t false with
    | .error m => some (.logic m)
    | .ok _ => none
  | .unary .negate (.integer t) => match integerLiteral t true with
    | .error m => some (.logic m)
    | .ok _ => none
  | .raise _ _ => if inTrigger then none else some (.logic "RAISE() may only be used within a trigger-program")
  | .unary _ e => compileFault? inTrigger e
  | .binary _ l r => (compileFault? inTrigger l).orElse fun _ => compileFault? inTrigger r
  | .between e lo hi _ =>
    ((compileFault? inTrigger e).orElse fun _ => compileFault? inTrigger lo).orElse fun _ => compileFault? inTrigger hi
  | .within e items _ => (compileFault? inTrigger e).orElse fun _ => compileFaults? inTrigger items
  | .isNull e _ => compileFault? inTrigger e
  | .call _ args _ => compileFaults? inTrigger args
  | .filtered _ args _ condition => (compileFaults? inTrigger args).orElse fun _ => compileFault? inTrigger condition
  | .cast e _ => compileFault? inTrigger e
  | .search branches otherwise =>
    (compileFaults? inTrigger branches).orElse fun _ => compileFault? inTrigger otherwise
  | .collate e _ => compileFault? inTrigger e
  | .vector items => compileFaults? inTrigger items
  | .subquery q => queryFault? inTrigger q
  | .pick q _ _ => queryFault? inTrigger q
  | .someRow q => queryFault? inTrigger q
  | .withinQuery e q _ => (compileFault? inTrigger e).orElse fun _ => queryFault? inTrigger q
  | .over _ _ args _ ⟨partition, order, _, start, finish, _, _, filter, _⟩ =>
    [compileFaults? inTrigger args, compileFaults? inTrigger partition, orderFaults? inTrigger order,
      boundFault? inTrigger start, boundFault? inTrigger finish,
      match filter with
      | some f => compileFault? inTrigger f
      | none => none].findSome? id
  | _ => none

/-- The compile fault of the offset of an end of a window frame. -/
def boundFault? (inTrigger : Bool) : Bound → Option Fault
  | .preceding e => compileFault? inTrigger e
  | .following e => compileFault? inTrigger e
  | _ => none

/-- The first fault of expressions met when they are compiled. -/
def compileFaults? (inTrigger : Bool) : List Expr → Option Fault
  | [] => none
  | e :: es => (compileFault? inTrigger e).orElse fun _ => compileFaults? inTrigger es

/-- The first compile fault of a query's output columns. -/
def itemFaults? (inTrigger : Bool) : List Item → Option Fault
  | [] => none
  | .value e _ :: rest => (compileFault? inTrigger e).orElse fun _ => itemFaults? inTrigger rest
  | _ :: rest => itemFaults? inTrigger rest

/-- The first compile fault of the queries a query reads and of its join conditions. -/
def joinFaults? (inTrigger : Bool) : List Joined → Option Fault
  | [] => none
  | ⟨_, derived, _, on, _, _, _, recursion, arguments⟩ :: rest =>
    let here := match arguments with
      | some args => compileFaults? inTrigger args
      | none => none
    let here := here.orElse fun _ => match derived, on with
      | some q, some e => (queryFault? inTrigger q).orElse fun _ => compileFault? inTrigger e
      | some q, none => queryFault? inTrigger q
      | none, some e => compileFault? inTrigger e
      | none, none => none
    let steps := match recursion with
      | some ⟨steps, _, _, _⟩ => compoundFaults? inTrigger steps
      | none => none
    (here.orElse fun _ => steps).orElse fun _ => joinFaults? inTrigger rest

/-- The first compile fault of queries combined with one. -/
def compoundFaults? (inTrigger : Bool) : List (Combine × Query) → Option Fault
  | [] => none
  | (_, q) :: rest => (queryFault? inTrigger q).orElse fun _ => compoundFaults? inTrigger rest

/-- The first compile fault of a query's order terms. -/
def orderFaults? (inTrigger : Bool) : List (Expr × Bool) → Option Fault
  | [] => none
  | (e, _) :: rest => (compileFault? inTrigger e).orElse fun _ => orderFaults? inTrigger rest

/-- The first compile fault of a query. -/
def queryFault? (inTrigger : Bool) : Query → Option Fault
  | ⟨items, _, sources, condition, groups, having, order, limit, offset, compound⟩ =>
    [itemFaults? inTrigger items, joinFaults? inTrigger sources, compoundFaults? inTrigger compound,
      (match condition with | some x => compileFault? inTrigger x | none => none),
      compileFaults? inTrigger groups,
      (match having with | some x => compileFault? inTrigger x | none => none),
      orderFaults? inTrigger order,
      (match limit with | some x => compileFault? inTrigger x | none => none),
      (match offset with | some x => compileFault? inTrigger x | none => none)].findSome? id

end

end Airspace.Store
