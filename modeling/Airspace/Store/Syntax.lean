import Airspace.Store.Cell

/-!
# Statements

The statements the engine runs, as read from SQL text (`Store.Parse`):

* expressions: literals, parameters, column references, the unary and binary
  operators, `BETWEEN`, `IN` lists, null tests, function calls (`LIKE` and
  its kin are calls of their functions), `CAST`, `CASE` (a `CASE` with an
  operand is the searched `CASE` of equality tests), `RAISE`, `COLLATE` and
  row values;
* queries: tables joined, filtered, grouped with aggregate functions,
  ordered and limited; a query may stand inside an expression, and its
  output may call window functions over its rows;
* the changes `INSERT`, `UPDATE` and `DELETE`, which with queries make up the
  bodies of triggers;
* the definitions of tables, indexes and triggers, and their removal;
* `PRAGMA` and the transaction statements.
-/

namespace Airspace.Store

/-- A unary operator. -/
inductive UnaryOp where
  | negate
  | plus
  | complement
  | not
  deriving DecidableEq, Repr

/-- A binary operator. -/
inductive BinaryOp where
  | add
  | subtract
  | multiply
  | divide
  | remainder
  | concat
  | bitAnd
  | bitOr
  | shiftLeft
  | shiftRight
  | eq
  | ne
  | lt
  | le
  | gt
  | ge
  /-- `IS`: equality in which null equals null. -/
  | is
  | isNot
  | and
  | or
  deriving DecidableEq, Repr

/-- What `RAISE` does. -/
inductive RaiseKind where
  /-- Skips the row that fired the trigger. -/
  | ignore
  | rollback
  | abort
  | fail
  deriving DecidableEq, Repr

/-- How a function's arguments were written: plainly, as `f(*)`, or after
`DISTINCT`, which makes an aggregate function take each value once. -/
inductive CallForm where
  | plain
  | star
  | distinct
  deriving DecidableEq, Repr

/-- How a name was written: bare, in double quotes, or in other quotes. -/
inductive NameQuote where
  | bare
  | double
  | other
  deriving DecidableEq, Repr

/-- How a table joins the tables before it in a query. -/
inductive JoinKind where
  /-- Only the combinations that meet the join's condition. -/
  | inner
  /-- Also each earlier combination that no row meets, with nulls for this table. -/
  | left
  deriving DecidableEq, Repr

/-- How the rows of a query combine with those of the next: `UNION` (without
repeats), `UNION ALL`, `INTERSECT` or `EXCEPT`. -/
inductive Combine where
  | union
  | unionAll
  | intersect
  | except
  deriving DecidableEq, Repr

/-- What the offsets of a window frame count: rows, the value of the window's
one order term, or groups of peers. -/
inductive FrameUnit where
  | rows
  | range
  | groups
  deriving DecidableEq, Repr

/-- The rows a window frame leaves out: none, the current row, the current
row and its peers, or its peers but not itself. -/
inductive Exclusion where
  | none
  | current
  | group
  | ties
  deriving DecidableEq, Repr

/-- How a window written after `OVER` draws on one a `WINDOW` clause names,
until the clause is read: whole (`OVER name`), or as the base of its own
partition and order (`OVER (name …)`); a window that may not draw on the one
it names keeps the reason. -/
inductive WindowName where
  | whole (name : String)
  | base (name : String)
  | refused (reason : String)
  deriving DecidableEq, Repr

/-- A table named by a statement: its schema, its name and its alias. -/
structure Target where
  schema : Option String := none
  name : String
  asName : Option String := none

mutual

/-- An expression. -/
inductive Expr where
  /-- An integer literal as written. -/
  | integer (text : String)
  /-- A real literal as written. -/
  | real (text : String)
  /-- A text, a blob or null. -/
  | constant (c : Cell)
  /-- A parameter, which is null when nothing is bound to it. -/
  | parameter
  /-- A column, maybe qualified by a table. An unknown name in double quotes is
  a text, and a bare `true` or `false` is a truth value. -/
  | column (table : Option String) (name : String) (quote : NameQuote)
  | unary (op : UnaryOp) (e : Expr)
  | binary (op : BinaryOp) (left right : Expr)
  | between (e low high : Expr) (negated : Bool)
  /-- Membership in a list of values. -/
  | within (e : Expr) (items : List Expr) (negated : Bool)
  /-- `ISNULL` and `NOTNULL`. -/
  | isNull (e : Expr) (negated : Bool)
  /-- A function call. -/
  | call (name : String) (args : List Expr) (form : CallForm)
  /-- A call of an aggregate function that counts only the rows where
  `condition` holds (`FILTER (WHERE condition)`). -/
  | filtered (name : String) (args : List Expr) (form : CallForm) (condition : Expr)
  | cast (e : Expr) (type : String)
  /-- A searched `CASE`: conditions and results alternate in `branches`. -/
  | search (branches : List Expr) (otherwise : Expr)
  | raise (kind : RaiseKind) (message : String)
  | collate (e : Expr) (collation : String)
  /-- A row value. -/
  | vector (items : List Expr)
  /-- The first value of a query's first row, null when it has none. -/
  | subquery (q : Query)
  /-- `EXISTS`: whether a query has a row. -/
  | someRow (q : Query)
  /-- The value at `column` of a query's first row, null when it has none, for
  one of `width` columns assigned that row together. -/
  | pick (q : Query) (column : Nat) (width : Nat)
  /-- Membership in the first values of a query's rows. -/
  | withinQuery (e : Expr) (q : Query) (negated : Bool)
  /-- A call of a window function over a window; `place` tells the calls of
  one statement apart. -/
  | over (place : Nat) (name : String) (args : List Expr) (form : CallForm) (window : Window)

/-- One end of a window frame. -/
inductive Bound where
  | unboundedPreceding
  | preceding (offset : Expr)
  | currentRow
  | following (offset : Expr)
  | unboundedFollowing

/-- The window of a window function: the terms that split the rows into
partitions, the order within a partition, and the frame of each row — by
default (`framed` false) from the partition's first row to the row's last
peer. An aggregate over the window counts only the rows where its `filter`
holds; `named` is the window of a `WINDOW` clause it draws on, while that is
not yet found. -/
structure Window where
  partition : List Expr
  order : List (Expr × Bool)
  unit : FrameUnit
  start : Bound
  finish : Bound
  exclude : Exclusion
  framed : Bool
  filter : Option Expr
  named : Option WindowName

/-- An output column of a query. -/
inductive Item where
  /-- `*`. -/
  | all
  /-- `table.*`. -/
  | allOf (table : String)
  /-- A value, and the name `AS` gives it. -/
  | value (e : Expr) (asName : Option String)

/-- A table a query reads — a stored one, or the rows of a query in
parentheses, of a common table or of a view — and how it joins the tables
before it: the condition of `ON`, the columns of `USING`, or all shared
columns for a `NATURAL` join. The rows of a query may take the column names
`columns` gives; with a `recursion`, the query gives the first rows of a
recursive common table. A name with `arguments` calls a table function. -/
structure Joined where
  target : Target
  derived : Option Query := none
  kind : JoinKind := .inner
  on : Option Expr := none
  shared : List String := []
  natural : Bool := false
  columns : List String := []
  recursion : Option Recursion := none
  arguments : Option (List Expr) := none

/-- How a recursive common table grows from its first rows: each row taken in
turn (the least by `order` when there is one, else the oldest) is output and
becomes the only row of the table's name for the `steps`, whose rows join the
rows still to take — with `UNION`, only rows never seen before. `limit` and
`offset` count the rows output. -/
structure Recursion where
  steps : List (Combine × Query)
  order : List (Expr × Bool) := []
  limit : Option Expr := none
  offset : Option Expr := none

/-- A query: its output columns, whether it drops repeated rows, the tables it
reads, its condition, its grouping and the condition on groups, its order
(each term with whether it descends), its limit and offset, and the queries
whose rows combine with its own in turn (order and limit then apply to the
combined rows). -/
structure Query where
  items : List Item
  distinct : Bool := false
  sources : List Joined := []
  condition : Option Expr := none
  groups : List Expr := []
  having : Option Expr := none
  order : List (Expr × Bool) := []
  limit : Option Expr := none
  offset : Option Expr := none
  compound : List (Combine × Query) := []

end

instance : Inhabited Expr := ⟨.parameter⟩

/-- A window with its default frame. -/
def Window.plain (partition : List Expr) (order : List (Expr × Bool)) : Window :=
  ⟨partition, order, .range, .unboundedPreceding, .currentRow, .none, false, none, none⟩

/-- The null literal. -/
def Expr.null : Expr := .constant .null

/-- What a change does when it breaks a constraint. -/
inductive Resolution where
  | abort
  | fail
  | ignore
  | replace
  | rollback
  deriving DecidableEq, Repr

/-- The rows an `INSERT` adds. -/
inductive Source where
  | values (rows : List (List Expr))
  | query (q : Query)
  | defaults

/-- What an `INSERT` does with a row that clashes with a stored one: nothing,
or an update of the stored row, where the condition holds, in which
`excluded` names the row that clashed. -/
inductive UpsertAction where
  | nothing
  | update (settings : List (String × Expr)) (condition : Option Expr)

/-- An `ON CONFLICT` clause of an `INSERT`: the terms that name the unique
constraint it handles (none for every one), the condition given with them,
and what it does. -/
structure Upsert where
  target : Option (List Expr)
  targetCondition : Option Expr
  action : UpsertAction

/-- A query or a change to a table. -/
inductive Change where
  | select (q : Query)
  /-- The `upserts` handle the rows that clash with stored ones, in order. -/
  | insert (resolution : Resolution) (target : Target) (columns : Option (List String)) (source : Source)
      (upserts : List Upsert)
  /-- The rows of `sources`, when there are any, join each row of the target. -/
  | update (resolution : Resolution) (target : Target) (settings : List (String × Expr))
      (sources : List Joined) (condition : Option Expr)
  | delete (target : Target) (condition : Option Expr)

/-- When a trigger fires. -/
inductive Timing where
  | before
  | after
  | instead
  deriving DecidableEq, Repr

/-- The change that fires a trigger; an update may be limited to some columns. -/
inductive Event where
  | insert
  | delete
  | update (columns : List String)
  deriving DecidableEq, Repr

/-- A trigger: its name, its table, when and on what it fires, its condition
and its body. -/
structure Trigger where
  name : String
  table : String
  timing : Timing
  event : Event
  condition : Option Expr
  body : List Change

/-- What a foreign key does to the rows that refer to a deleted or changed row. -/
inductive KeyAction where
  | none
  | restrict
  | setNull
  | setDefault
  | cascade
  deriving DecidableEq, Repr

/-- A reference from columns to a table. -/
structure Reference where
  table : String
  columns : List String
  onDelete : KeyAction := .none
  onUpdate : KeyAction := .none

/-- A `CHECK` constraint: the condition a row may not make false, and the
name it fails under, that of its `CONSTRAINT` clause or else its text as
written. -/
structure Check where
  name : String
  condition : Expr

/-- How a generated column is made: the expression of the row's other
columns, whether the value is stored or computed when read, and whether the
clause is well made (no default before it, and no word after it but
`STORED` or `VIRTUAL`). -/
structure Generated where
  expression : Expr
  stored : Bool
  wellMade : Bool := true

/-- A column as a table definition gives it. -/
structure ColumnSpec where
  name : String
  type : String := ""
  primaryKey : Bool := false
  descending : Bool := false
  autoincrement : Bool := false
  notNull : Bool := false
  unique : Bool := false
  default : Option Expr := none
  reference : Option Reference := none
  collation : Option String := none
  checks : List Check := []
  generated : Option Generated := none

/-- A table definition: its columns, its table constraints, and whether it
is `STRICT` and `WITHOUT ROWID`. -/
structure TableSpec where
  columns : List ColumnSpec
  primaryKey : List String := []
  uniques : List (List String) := []
  foreignKeys : List (List String × Reference) := []
  checks : List Check := []
  strict : Bool := false
  withoutRowId : Bool := false

/-- A term of an index: a column, or an expression of a row's columns. -/
inductive IndexTerm where
  | column (name : String)
  | expression (e : Expr)

/-- A statement. -/
inductive Statement where
  | change (c : Change)
  | createTable (ifNotExists : Bool) (target : Target) (spec : TableSpec)
  /-- A table made from the columns and rows of a query. -/
  | createTableAs (ifNotExists : Bool) (target : Target) (q : Query)
  /-- A view: a name for a query, its columns maybe named anew. -/
  | createView (ifNotExists : Bool) (target : Target) (columns : List String) (q : Query)
  | dropView (ifExists : Bool) (target : Target)
  | dropTable (ifExists : Bool) (target : Target)
  | createIndex (unique ifNotExists : Bool) (target : Target) (table : String)
      (terms : List (IndexTerm × Option String)) (condition : Option Expr)
  | dropIndex (ifExists : Bool) (target : Target)
  | createTrigger (temporary ifNotExists : Bool) (target : Target) (trigger : Trigger)
  | dropTrigger (ifExists : Bool) (target : Target)
  | addColumn (target : Target) (column : ColumnSpec)
  | renameTable (target : Target) (name : String)
  | renameColumn (target : Target) (old new : String)
  | dropColumn (target : Target) (name : String)
  | pragma (name : String) (value : Option String)
  | begin
  | commit
  | rollback (savepoint : Option String)
  | savepoint (name : String)
  | release (name : String)
  /-- A statement that changes nothing the store keeps. -/
  | inert

/-- An ordinal written in a message: 1st, 2nd, 3rd, 4th, …, 11th, 12th, 13th, 21st. -/
def ordinalText (n : Nat) : String :=
  let suffix :=
    if n % 100 ≥ 11 && n % 100 ≤ 13 then "th"
    else if n % 10 == 1 then "st" else if n % 10 == 2 then "nd" else if n % 10 == 3 then "rd" else "th"
  toString n ++ suffix

end Airspace.Store
