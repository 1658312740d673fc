import Airspace.Store.Fault
import Airspace.Store.Function

/-!
# Aggregate functions

An aggregate function folds the values its argument takes over a set of rows
into one value: `count`, `sum`, `total`, `avg`, `min`, `max`,
`group_concat`, and the JSON aggregates. Sums are kept as the engine keeps
them: exactly while every value is an integer and no step overflows, else as
a real. Rows compare value by value under the collations of their places.
-/

namespace Airspace.Store

/-- Whether a value is true as a condition: null is not. -/
def Cell.holds (c : Cell) : Bool := c.truth == some true

/-- Whether a call is of an aggregate function: `count` with at most one
argument, `sum`, `total`, `avg`, `min` and `max` with one, `group_concat`
with one or two. -/
def isAggregateCall (name : String) (count : Nat) : Bool :=
  match Text.lowerAscii name with
  | "count" => count ≤ 1
  | "sum" | "total" | "avg" | "min" | "max" => count == 1
  | "group_concat" => count == 1 || count == 2
  | "json_group_array" => count == 1
  | "json_group_object" => count == 2
  | _ => false

/-- The names of the aggregate functions, whatever their number of arguments. -/
def aggregateNames : List String :=
  ["count", "sum", "total", "avg", "min", "max", "group_concat", "json_group_array", "json_group_object"]

/-- A running sum as the engine keeps it: how many values, their sum as an
integer while every value is one and no step overflows, and as a real. -/
structure Tally where
  count : Nat := 0
  integerSum : Int := 0
  realSum : Float := 0
  approximate : Bool := false
  overflow : Bool := false

/-- Adds an integer to a sum. -/
def Tally.addInteger (t : Tally) (n : Int) : Tally :=
  let t := { t with count := t.count + 1, realSum := t.realSum + Float.ofInt n }
  if t.approximate || t.overflow then t
  else if fitsInteger (t.integerSum + n) then { t with integerSum := t.integerSum + n }
  else { t with approximate := true, overflow := true }

/-- Adds a value to a sum: null is skipped, a text that reads as an integer
counts as that integer, and anything else as its real. -/
def Tally.add (t : Tally) (c : Cell) : Tally :=
  match c with
  | .null => t
  | .integer n => t.addInteger n
  | .text _ => match c.keep .numeric with
    | .integer n => t.addInteger n
    | v => { t with count := t.count + 1, realSum := t.realSum + v.realValue, approximate := true }
  | v => { t with count := t.count + 1, realSum := t.realSum + v.realValue, approximate := true }

/-- The best of some values for `min` or `max` under a collation: nulls are
skipped, and of two equal values the first is kept. -/
def bestOf (largest : Bool) (coll : Collation) (values : List Cell) : Cell :=
  values.foldl (fun best v =>
    if v.isNull then best
    else if best.isNull then v
    else if largest && best.compareWith coll v == .lt then v
    else if !largest && best.compareWith coll v == .gt then v
    else best) .null

/-- The values of `group_concat`: each non-null value's text, the separator
before all but the first; null when there is none. -/
def concatGroup (rows : List (List Cell)) : Cell :=
  let step := fun (acc : Option (List UInt8)) (args : List Cell) =>
    match args.headD .null with
    | .null => acc
    | v =>
      let sep := if args.length > 1 then (args.getD 1 .null).textBytes else [0x2C]
      match acc with
      | none => some v.textBytes
      | some bs => some (bs ++ sep ++ v.textBytes)
  match rows.foldl step none with
  | some bs => .text bs
  | none => .null

/-- The fault of a failed JSON function. -/
def DocumentFault.fault (f : DocumentFault) : Fault := .logic f.text

/-- The value of an aggregate function over the arguments it took at each row
of a group, with whether each argument was JSON text; `min` and `max` compare
under a collation. -/
def aggregateValue (name : String) (coll : Collation) (rows : List (List Cell)) (marks : List (List Bool)) :
    Except Fault Cell :=
  let firsts := rows.map (·.headD .null)
  let tally := firsts.foldl Tally.add {}
  let marked := fun (i : Nat) => rows.zipWith (fun r m => (r.getD i .null, m.getD i false)) marks
  match Text.lowerAscii name with
  | "json_group_array" => (groupArray (marked 0)).mapError DocumentFault.fault
  | "json_group_object" =>
    (groupObject ((rows.map (·.headD .null)).zipWith (fun l (v, m) => (l, v, m)) (marked 1))).mapError
      DocumentFault.fault
  | "count" =>
    if rows.all (·.isEmpty) then .ok (.integer rows.length)
    else .ok (.integer (firsts.filter (!·.isNull)).length)
  | "sum" =>
    if tally.count == 0 then .ok .null
    else if tally.overflow then .error (.logic "integer overflow")
    else if tally.approximate then .ok (.real tally.realSum)
    else .ok (.integer tally.integerSum)
  | "total" => .ok (.real tally.realSum)
  | "avg" => if tally.count == 0 then .ok .null else .ok (.real (tally.realSum / Float.ofNat tally.count))
  | "min" => .ok (bestOf false coll firsts)
  | "max" => .ok (bestOf true coll firsts)
  | _ => .ok (concatGroup rows)

/-- Whether two rows of values are the same under the collations of their
places (binary past the last), null equal to null. -/
def sameCells : List Collation → List Cell → List Cell → Bool
  | cs, x :: xs, y :: ys => x.compareWith (cs.headD .binary) y == .eq && sameCells cs.tail xs ys
  | _, [], [] => true
  | _, _, _ => false

/-- The arguments of an aggregate over `DISTINCT` values: a row whose first
value is null or repeats an earlier one is left out. -/
def distinctValues (coll : Collation) (rows : List (List Cell)) : List (List Cell) :=
  rows.foldl (fun acc r =>
    match r.head? with
    | some v => if v.isNull || acc.any fun a => sameCells [coll] (a.take 1) [v] then acc else acc ++ [r]
    | none => acc ++ [r]) []

/-- The order of two rows of sort keys, each under its collation; a key with
`true` descends. -/
def compareKeys : List (Bool × Collation) → List Cell → List Cell → Ordering
  | (d, c) :: ds, a :: as, b :: bs =>
    match a.compareWith c b with
    | .eq => compareKeys ds as bs
    | o => if d then o.swap else o
  | _, _, _ => .eq

end Airspace.Store
