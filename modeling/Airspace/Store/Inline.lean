import Airspace.Store.Schema

/-!
# Named queries in place

A name in `FROM` may stand for a query: a common table that `WITH` defines
for one statement, or a view that the database keeps. Both are put in place
of the names that refer to them before a statement is checked and run, as a
query in parentheses under the name: a reference keeps its alias, and the
columns take the names the definition gives them.

The definitions put in place are closed: a common table has those before it
already in place when it is read, and a name a nested `WITH` defines is
replaced when that `WITH` is read, so it shadows an outer one of the same
name. The one exception is a common table that reads its own name: inside its
own query the name stays, and refers to the rows the table has produced so
far when it runs (a recursive table).
-/

namespace Airspace.Store

/-- What a name in `FROM` stands for: the query, the names it gives the
query's columns (none to keep the query's own), and for a recursive common
table how it grows from the query's rows. -/
structure NamedQuery where
  name : String
  columns : List String
  query : Query
  recursion : Option Recursion := none

/-- The definition of a name: the first one of that name, in any case. -/
def NamedQuery.find? (defs : List NamedQuery) (name : String) : Option NamedQuery :=
  defs.find? fun d => sameName d.name name

mutual

/-- An expression with the named queries put in place in the queries inside it. -/
def Expr.inline (defs : List NamedQuery) : Expr → Expr
  | .unary op e => .unary op (e.inline defs)
  | .binary op l r => .binary op (l.inline defs) (r.inline defs)
  | .between e lo hi negated => .between (e.inline defs) (lo.inline defs) (hi.inline defs) negated
  | .within e items negated => .within (e.inline defs) (Expr.inlineAll defs items) negated
  | .isNull e negated => .isNull (e.inline defs) negated
  | .call name args form => .call name (Expr.inlineAll defs args) form
  | .filtered name args form condition => .filtered name (Expr.inlineAll defs args) form (condition.inline defs)
  | .cast e type => .cast (e.inline defs) type
  | .search branches otherwise => .search (Expr.inlineAll defs branches) (otherwise.inline defs)
  | .collate e name => .collate (e.inline defs) name
  | .vector items => .vector (Expr.inlineAll defs items)
  | .subquery q => .subquery (q.inline defs)
  | .pick q j width => .pick (q.inline defs) j width
  | .someRow q => .someRow (q.inline defs)
  | .withinQuery e q negated => .withinQuery (e.inline defs) (q.inline defs) negated
  | .over place name args form ⟨partition, order, unit, start, finish, exclude, framed, filter, named⟩ =>
    .over place name (Expr.inlineAll defs args)
      form ⟨Expr.inlineAll defs partition, Expr.inlineOrder defs order, unit, Bound.inline defs start,
        Bound.inline defs finish, exclude, framed, Expr.inlineOption defs filter, named⟩
  | e => e

/-- An end of a window frame with the named queries put in place. -/
def Bound.inline (defs : List NamedQuery) : Bound → Bound
  | .preceding e => .preceding (e.inline defs)
  | .following e => .following (e.inline defs)
  | b => b

/-- Expressions with the named queries put in place. -/
def Expr.inlineAll (defs : List NamedQuery) : List Expr → List Expr
  | [] => []
  | e :: es => e.inline defs :: Expr.inlineAll defs es

/-- An expression that may be absent, with the named queries put in place. -/
def Expr.inlineOption (defs : List NamedQuery) : Option Expr → Option Expr
  | some e => some (e.inline defs)
  | none => none

/-- Output columns with the named queries put in place. -/
def Item.inlineAll (defs : List NamedQuery) : List Item → List Item
  | [] => []
  | .value e asName :: rest => .value (e.inline defs) asName :: Item.inlineAll defs rest
  | i :: rest => i :: Item.inlineAll defs rest

/-- The tables of a query with the named queries put in place: a name with a
definition reads the definition's query, and a query in parentheses has the
definitions put in place in turn (but for its own name in the steps of a
recursive table). -/
def Joined.inlineAll (defs : List NamedQuery) : List Joined → List Joined
  | [] => []
  | ⟨target, derived, kind, on, shared, natural, columns, recursion, arguments⟩ :: rest =>
    let on := Expr.inlineOption defs on
    let arguments := match arguments with
      | some args => some (Expr.inlineAll defs args)
      | none => none
    let j : Joined := match derived with
      | some q =>
        let recursion := match recursion with
          | some r => some (Recursion.inline (defs.filter (!sameName ·.name target.name)) r)
          | none => none
        ⟨target, some (q.inline defs), kind, on, shared, natural, columns, recursion, arguments⟩
      | none =>
        match NamedQuery.find? defs target.name with
        | some d => ⟨target, some d.query, kind, on, shared, natural, d.columns, d.recursion, arguments⟩
        | none => ⟨target, none, kind, on, shared, natural, columns, recursion, arguments⟩
    j :: Joined.inlineAll defs rest

/-- The steps of a recursive table with the named queries put in place. -/
def Recursion.inline (defs : List NamedQuery) : Recursion → Recursion
  | ⟨steps, order, limit, offset⟩ =>
    ⟨Query.inlineCompound defs steps, Expr.inlineOrder defs order, Expr.inlineOption defs limit,
      Expr.inlineOption defs offset⟩

/-- Order terms with the named queries put in place. -/
def Expr.inlineOrder (defs : List NamedQuery) : List (Expr × Bool) → List (Expr × Bool)
  | [] => []
  | (e, descending) :: rest => (e.inline defs, descending) :: Expr.inlineOrder defs rest

/-- Combined queries with the named queries put in place. -/
def Query.inlineCompound (defs : List NamedQuery) : List (Combine × Query) → List (Combine × Query)
  | [] => []
  | (op, q) :: rest => (op, q.inline defs) :: Query.inlineCompound defs rest

/-- A query with the named queries put in place. -/
def Query.inline (defs : List NamedQuery) : Query → Query
  | ⟨items, distinct, sources, condition, groups, having, order, limit, offset, compound⟩ =>
    ⟨Item.inlineAll defs items, distinct, Joined.inlineAll defs sources, Expr.inlineOption defs condition,
      Expr.inlineAll defs groups, Expr.inlineOption defs having, Expr.inlineOrder defs order,
      Expr.inlineOption defs limit, Expr.inlineOption defs offset, Query.inlineCompound defs compound⟩

end

mutual

/-- Whether an expression reads a table by a name, in the queries inside it. -/
def Expr.reads (name : String) : Expr → Bool
  | .unary _ e => e.reads name
  | .binary _ l r => l.reads name || r.reads name
  | .between e lo hi _ => e.reads name || lo.reads name || hi.reads name
  | .within e items _ => e.reads name || Expr.readsAny name items
  | .isNull e _ => e.reads name
  | .call _ args _ => Expr.readsAny name args
  | .filtered _ args _ condition => Expr.readsAny name args || condition.reads name
  | .cast e _ => e.reads name
  | .search branches otherwise => Expr.readsAny name branches || otherwise.reads name
  | .collate e _ => e.reads name
  | .vector items => Expr.readsAny name items
  | .subquery q => q.reads name
  | .pick q _ _ => q.reads name
  | .someRow q => q.reads name
  | .withinQuery e q _ => e.reads name || q.reads name
  | .over _ _ args _ ⟨partition, order, _, start, finish, _, _, filter, _⟩ =>
    Expr.readsAny name args || Expr.readsAny name partition || Expr.readsOrder name order ||
      Bound.reads name start || Bound.reads name finish || Expr.readsOption name filter
  | _ => false

/-- Whether the offset of an end of a window frame reads a table by a name. -/
def Bound.reads (name : String) : Bound → Bool
  | .preceding e => e.reads name
  | .following e => e.reads name
  | _ => false

/-- Whether one of some expressions reads a table by a name. -/
def Expr.readsAny (name : String) : List Expr → Bool
  | [] => false
  | e :: es => e.reads name || Expr.readsAny name es

/-- Whether an expression that may be absent reads a table by a name. -/
def Expr.readsOption (name : String) : Option Expr → Bool
  | some e => e.reads name
  | none => false

/-- Whether output columns read a table by a name. -/
def Item.readsAny (name : String) : List Item → Bool
  | [] => false
  | .value e _ :: rest => e.reads name || Item.readsAny name rest
  | _ :: rest => Item.readsAny name rest

/-- Whether the tables of a query read a table by a name. -/
def Joined.readsAny (name : String) : List Joined → Bool
  | [] => false
  | ⟨target, derived, _, on, _, _, _, recursion, arguments⟩ :: rest =>
    let here := match derived with
      | some q => q.reads name
      | none => sameName target.name name
    let steps := match recursion with
      | some ⟨steps, _, _, _⟩ => Query.readsCompound name steps
      | none => false
    let inArguments := match arguments with
      | some args => Expr.readsAny name args
      | none => false
    here || steps || inArguments || Expr.readsOption name on || Joined.readsAny name rest

/-- Whether order terms read a table by a name. -/
def Expr.readsOrder (name : String) : List (Expr × Bool) → Bool
  | [] => false
  | (e, _) :: rest => e.reads name || Expr.readsOrder name rest

/-- Whether combined queries read a table by a name. -/
def Query.readsCompound (name : String) : List (Combine × Query) → Bool
  | [] => false
  | (_, q) :: rest => q.reads name || Query.readsCompound name rest

/-- Whether a query reads a table by a name. -/
def Query.reads (name : String) : Query → Bool
  | ⟨items, _, sources, condition, groups, having, order, limit, offset, compound⟩ =>
    Item.readsAny name items || Joined.readsAny name sources || Expr.readsOption name condition ||
      Expr.readsAny name groups || Expr.readsOption name having || Expr.readsOrder name order ||
      Expr.readsOption name limit || Expr.readsOption name offset || Query.readsCompound name compound

end

/-- A common table of `WITH`, with those before it in place in its query. It
is recursive when its query reads its own name: the parts before the first
that reads it give the first rows, the others are the steps, and the order
and limit of the query are those of the recursion. -/
def NamedQuery.common (before : List NamedQuery) (name : String) (columns : List String) (q : Query) :
    NamedQuery :=
  let q := q.inline before
  if q.reads name then
    let setup := q.compound.takeWhile fun (_, p) => !p.reads name
    let first : Query := { q with compound := setup, order := [], limit := none, offset := none }
    let recursion : Recursion :=
      { steps := q.compound.drop setup.length, order := q.order, limit := q.limit, offset := q.offset }
    { name, columns, query := first, recursion := some recursion }
  else { name, columns, query := q }

/-- A change with the named queries put in place in the queries it reads;
the table it writes to stays as named. -/
def Change.inline (defs : List NamedQuery) : Change → Change
  | .select q => .select (q.inline defs)
  | .insert res target columns source upserts =>
    let source := match source with
      | .values rows => Source.values (rows.map (Expr.inlineAll defs))
      | .query q => .query (q.inline defs)
      | .defaults => .defaults
    let upserts := upserts.map fun u =>
      { u with
        action := match u.action with
          | .nothing => .nothing
          | .update sets c => .update (sets.map fun (n, e) => (n, e.inline defs)) (Expr.inlineOption defs c) }
    .insert res target columns source upserts
  | .update res target sets sources condition =>
    .update res target (sets.map fun (n, e) => (n, e.inline defs)) (Joined.inlineAll defs sources)
      (Expr.inlineOption defs condition)
  | .delete target condition => .delete target (Expr.inlineOption defs condition)

/-- The views of a database as named queries, each with the views it reads
in place, to a nesting as deep as there are views. -/
def Database.viewQueries (db : Database) : List NamedQuery :=
  let plain := db.views.map fun v => ({ name := v.name, columns := v.columns, query := v.query } : NamedQuery)
  (List.range db.views.length).foldl (fun defs _ => plain.map fun d => { d with query := d.query.inline defs })
    plain

/-- A query with the database's views in place. -/
def Database.inlineQuery (db : Database) (q : Query) : Query :=
  if db.views.isEmpty then q else q.inline db.viewQueries

/-- A change with the database's views in place. -/
def Database.inlineViews (db : Database) (c : Change) : Change :=
  if db.views.isEmpty then c else c.inline db.viewQueries

end Airspace.Store
