import Airspace.Store.Schema

/-!
# Windows a query names

A query may name windows in a `WINDOW` clause, after `HAVING`, and its window
functions may use them: `OVER name` takes a named window whole, and
`OVER (name …)` takes the partition and the order of the named window as the
start of its own. The names are put in place once the clause is read, in the
output columns, `HAVING` and `ORDER BY` of the query itself; a query inside
it names its own windows.

A window written as `(name …)` may not add a partition, may add an order only
to a named window without one, and may not draw on a named window that fixes
its frame. A call whose window breaks one of these rules keeps the reason, and
a name the clause lacks stays as it is; both are reported when the call is
checked. Within the clause, each window after the first draws on those before
it by the same rules, and a rule it breaks fails the statement as it is read;
the base the first window names is never looked up. Where two windows share a
name, the later one counts.

A frame offset must be known before any row is read: one that reads a column,
calls a function or runs a query is read as null, which no frame accepts.
-/

namespace Airspace.Store

/-- The window of a clause with a name, in any case; `defs` holds the clause's
windows latest first, so the last of that name is found. -/
def namedWindow? (defs : List (String × Window)) (name : String) : Option Window :=
  (defs.find? fun (n, _) => sameName n name).map (·.2)

/-- Why a window written as `(name …)` may not draw on the window `d` the
name stands for, if it may not. -/
def overrideFault (name : String) (w d : Window) : Option String :=
  let part := if !w.partition.isEmpty then some "PARTITION clause"
    else if !d.order.isEmpty && !w.order.isEmpty then some "ORDER BY clause"
    else if d.framed then some "frame specification"
    else none
  part.map fun p => "cannot override " ++ p ++ " of window: " ++ name

/-- A window that starts from the partition and order of the window `d`. -/
def Window.basedOn (w d : Window) : Window :=
  { w with partition := d.partition, order := if d.order.isEmpty then w.order else d.order, named := none }

/-- A window with the window of the clause `defs` it names in place, when the
clause has it and the rules allow it. -/
def Window.drawOn (defs : List (String × Window)) (w : Window) : Window :=
  match w.named with
  | some (.whole n) =>
    match namedWindow? defs n with
    | some d => { d with filter := w.filter, named := none }
    | none => w
  | some (.base n) =>
    match namedWindow? defs n with
    | some d =>
      match overrideFault n w d with
      | some reason => { w with named := some (.refused reason) }
      | none => w.basedOn d
    | none => w
  | _ => w

/-- The windows of a `WINDOW` clause with one more (`before` holds those
before it, latest first): it draws on those before it, unless it is the first. -/
def defineWindow (before : List (String × Window)) (name : String) (w : Window) :
    Except String (List (String × Window)) :=
  if before.isEmpty then .ok [(name, { w with named := none })]
  else
    match w.named with
    | some (.base n) =>
      match namedWindow? before n with
      | none => .error ("no such window: " ++ n)
      | some d =>
        match overrideFault n w d with
        | some reason => .error reason
        | none => .ok ((name, w.basedOn d) :: before)
    | _ => .ok ((name, w) :: before)

mutual

/-- An expression with the windows of a clause in place of the names its
window functions use, outside the queries inside it. -/
def Expr.nameWindows (defs : List (String × Window)) : Expr → Expr
  | .unary op e => .unary op (e.nameWindows defs)
  | .binary op l r => .binary op (l.nameWindows defs) (r.nameWindows defs)
  | .between e lo hi negated =>
    .between (e.nameWindows defs) (lo.nameWindows defs) (hi.nameWindows defs) negated
  | .within e items negated => .within (e.nameWindows defs) (Expr.nameWindowsAll defs items) negated
  | .isNull e negated => .isNull (e.nameWindows defs) negated
  | .call name args form => .call name (Expr.nameWindowsAll defs args) form
  | .filtered name args form condition =>
    .filtered name (Expr.nameWindowsAll defs args) form (condition.nameWindows defs)
  | .cast e type => .cast (e.nameWindows defs) type
  | .search branches otherwise =>
    .search (Expr.nameWindowsAll defs branches) (otherwise.nameWindows defs)
  | .collate e name => .collate (e.nameWindows defs) name
  | .vector items => .vector (Expr.nameWindowsAll defs items)
  | .withinQuery e q negated => .withinQuery (e.nameWindows defs) q negated
  | .over place name args form w => .over place name (Expr.nameWindowsAll defs args) form (w.drawOn defs)
  | e => e

/-- Expressions with the windows of a clause in place. -/
def Expr.nameWindowsAll (defs : List (String × Window)) : List Expr → List Expr
  | [] => []
  | e :: es => e.nameWindows defs :: Expr.nameWindowsAll defs es

end

/-- Output columns with the windows of a clause in place. -/
def Item.nameWindows (defs : List (String × Window)) (items : List Item) : List Item :=
  items.map fun i => match i with
    | .value e asName => .value (e.nameWindows defs) asName
    | i => i

mutual

/-- Whether an expression's value is known before any row is read: it reads
no column (a bare `true` or `false` is a truth value) and runs no query, and
it calls no function unless `calls` allows calls of functions, not of window
functions, on such values. -/
def Expr.isConstant (calls : Bool) : Expr → Bool
  | .column none n .bare => sameName n "true" || sameName n "false"
  | .column _ _ _ => false
  | .call _ args _ => calls && Expr.allConstant calls args
  | .filtered _ _ _ _ => false
  | .over _ _ _ _ _ => false
  | .subquery _ => false
  | .pick _ _ _ => false
  | .someRow _ => false
  | .withinQuery _ _ _ => false
  | .unary _ e => e.isConstant calls
  | .binary _ l r => l.isConstant calls && r.isConstant calls
  | .between e lo hi _ => e.isConstant calls && lo.isConstant calls && hi.isConstant calls
  | .within e items _ => e.isConstant calls && Expr.allConstant calls items
  | .isNull e _ => e.isConstant calls
  | .cast e _ => e.isConstant calls
  | .search branches otherwise => Expr.allConstant calls branches && otherwise.isConstant calls
  | .collate e _ => e.isConstant calls
  | .vector items => Expr.allConstant calls items
  | _ => true

/-- Whether every one of some expressions is known before any row is read. -/
def Expr.allConstant (calls : Bool) : List Expr → Bool
  | [] => true
  | e :: es => e.isConstant calls && Expr.allConstant calls es

end

end Airspace.Store
