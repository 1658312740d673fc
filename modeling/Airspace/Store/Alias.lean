import Airspace.Store.Evaluate

/-!
# Output column names in a query's conditions

A query's condition, its grouping terms and its `HAVING` condition may use a
name that an output column takes with `AS`: where no table of the query has a
column of that name, the name stands for that output column's expression.
The query's own tables come first, then its output names, then the tables of
the queries around it, so an output name hides a column of an outer query.

The names are put in place once a statement's views are in place, in every
query of the statement (`Change.placeAliases`). A query some of whose tables
cannot be known before it runs (the rows a recursive table has produced so
far) keeps its names as they are.
-/

namespace Airspace.Store

/-- A query's condition, grouping and `HAVING` with its output names put in
place, where the columns of every table of the query are known. -/
def Query.placeOwnAliases (db : Database) (q : Query) : Query :=
  let frame := ({ db } : Scope).frameOf q.sources
  if frame.length != q.sources.length then q
  else (q.withAliases (Binding.hasName frame)).toOption.getD q

mutual

/-- An expression with the output names put in place in the queries inside it. -/
def Expr.placeAliases (db : Database) : Expr → Expr
  | .unary op e => .unary op (e.placeAliases db)
  | .binary op l r => .binary op (l.placeAliases db) (r.placeAliases db)
  | .between e lo hi negated => .between (e.placeAliases db) (lo.placeAliases db) (hi.placeAliases db) negated
  | .within e items negated => .within (e.placeAliases db) (Expr.placeAliasesAll db items) negated
  | .isNull e negated => .isNull (e.placeAliases db) negated
  | .call name args form => .call name (Expr.placeAliasesAll db args) form
  | .filtered name args form condition =>
    .filtered name (Expr.placeAliasesAll db args) form (condition.placeAliases db)
  | .cast e type => .cast (e.placeAliases db) type
  | .search branches otherwise => .search (Expr.placeAliasesAll db branches) (otherwise.placeAliases db)
  | .collate e name => .collate (e.placeAliases db) name
  | .vector items => .vector (Expr.placeAliasesAll db items)
  | .subquery q => .subquery (q.placeAliases db)
  | .pick q j width => .pick (q.placeAliases db) j width
  | .someRow q => .someRow (q.placeAliases db)
  | .withinQuery e q negated => .withinQuery (e.placeAliases db) (q.placeAliases db) negated
  | .over place name args form ⟨partition, order, unit, start, finish, exclude, framed, filter, named⟩ =>
    .over place name (Expr.placeAliasesAll db args)
      form ⟨Expr.placeAliasesAll db partition, Expr.placeAliasesOrder db order, unit, Bound.placeAliases db start,
        Bound.placeAliases db finish, exclude, framed, Expr.placeAliasesOption db filter, named⟩
  | e => e

/-- An end of a window frame with the output names put in place. -/
def Bound.placeAliases (db : Database) : Bound → Bound
  | .preceding e => .preceding (e.placeAliases db)
  | .following e => .following (e.placeAliases db)
  | b => b

/-- Expressions with the output names put in place. -/
def Expr.placeAliasesAll (db : Database) : List Expr → List Expr
  | [] => []
  | e :: es => e.placeAliases db :: Expr.placeAliasesAll db es

/-- An expression that may be absent, with the output names put in place. -/
def Expr.placeAliasesOption (db : Database) : Option Expr → Option Expr
  | some e => some (e.placeAliases db)
  | none => none

/-- Output columns with the output names put in place in their queries. -/
def Item.placeAliasesAll (db : Database) : List Item → List Item
  | [] => []
  | .value e asName :: rest => .value (e.placeAliases db) asName :: Item.placeAliasesAll db rest
  | i :: rest => i :: Item.placeAliasesAll db rest

/-- The tables of a query with the output names put in place in their queries. -/
def Joined.placeAliasesAll (db : Database) : List Joined → List Joined
  | [] => []
  | ⟨target, derived, kind, on, shared, natural, columns, recursion, arguments⟩ :: rest =>
    let derived := match derived with
      | some q => some (q.placeAliases db)
      | none => none
    let recursion := match recursion with
      | some r => some (Recursion.placeAliases db r)
      | none => none
    let arguments := match arguments with
      | some args => some (Expr.placeAliasesAll db args)
      | none => none
    ⟨target, derived, kind, Expr.placeAliasesOption db on, shared, natural, columns, recursion, arguments⟩ ::
      Joined.placeAliasesAll db rest

/-- The steps of a recursive table with the output names put in place. -/
def Recursion.placeAliases (db : Database) : Recursion → Recursion
  | ⟨steps, order, limit, offset⟩ =>
    ⟨Query.placeAliasesCompound db steps, Expr.placeAliasesOrder db order, Expr.placeAliasesOption db limit,
      Expr.placeAliasesOption db offset⟩

/-- Order terms with the output names put in place in their queries. -/
def Expr.placeAliasesOrder (db : Database) : List (Expr × Bool) → List (Expr × Bool)
  | [] => []
  | (e, descending) :: rest => (e.placeAliases db, descending) :: Expr.placeAliasesOrder db rest

/-- Combined queries with the output names put in place. -/
def Query.placeAliasesCompound (db : Database) : List (Combine × Query) → List (Combine × Query)
  | [] => []
  | (op, q) :: rest => (op, q.placeAliases db) :: Query.placeAliasesCompound db rest

/-- A query with the output names put in place: in the queries inside it,
then in its own condition, grouping and `HAVING`. -/
def Query.placeAliases (db : Database) : Query → Query
  | ⟨items, distinct, sources, condition, groups, having, order, limit, offset, compound⟩ =>
    Query.placeOwnAliases db
      ⟨Item.placeAliasesAll db items, distinct, Joined.placeAliasesAll db sources,
        Expr.placeAliasesOption db condition, Expr.placeAliasesAll db groups, Expr.placeAliasesOption db having,
        Expr.placeAliasesOrder db order, Expr.placeAliasesOption db limit, Expr.placeAliasesOption db offset,
        Query.placeAliasesCompound db compound⟩

end

/-- A change with the output names put in place in the queries it reads. -/
def Change.placeAliases (db : Database) : Change → Change
  | .select q => .select (q.placeAliases db)
  | .insert res target columns source upserts =>
    let source := match source with
      | .values rows => Source.values (rows.map (Expr.placeAliasesAll db))
      | .query q => .query (q.placeAliases db)
      | .defaults => .defaults
    let upserts := upserts.map fun u =>
      { u with
        action := match u.action with
          | .nothing => .nothing
          | .update sets c => .update (sets.map fun (n, e) => (n, e.placeAliases db)) (Expr.placeAliasesOption db c) }
    .insert res target columns source upserts
  | .update res target sets sources condition =>
    .update res target (sets.map fun (n, e) => (n, e.placeAliases db)) (Joined.placeAliasesAll db sources)
      (Expr.placeAliasesOption db condition)
  | .delete target condition => .delete target (Expr.placeAliasesOption db condition)

/-- A query ready to check and run: the database's views in place, then the
output names. -/
def Database.prepareQuery (db : Database) (q : Query) : Query := (db.inlineQuery q).placeAliases db

/-- A change ready to check and run: the database's views in place, then the
output names. -/
def Database.prepare (db : Database) (c : Change) : Change := (db.inlineViews c).placeAliases db

end Airspace.Store
