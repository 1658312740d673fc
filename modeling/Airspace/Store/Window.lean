import Airspace.Store.Aggregate

/-!
# Window functions

A window function gives each output row of a query a value computed from the
rows of its partition: the output rows whose `PARTITION BY` values equal its
own, sorted by the window's `ORDER BY` terms with a stable sort, so that rows
that sort alike keep the order they came in. Rows that sort alike are peers.

* `row_number`, `rank`, `dense_rank`, `percent_rank`, `cume_dist` and `ntile`
  place a row within its partition;
* `lag` and `lead` read their argument at the row a given distance before or
  after, within the partition, or give the default;
* `first_value`, `last_value`, `nth_value` and the aggregate functions read
  the frame of the row: the stretch of the partition between two bounds,
  counted in rows, in groups of peers, or by the value of the one order term,
  less the rows its exclusion leaves out.

The default frame runs from the partition's first row to the row's last peer,
so without `ORDER BY` it is the whole partition.
-/

namespace Airspace.Store

/-- What a window function reads of a row: its partition values, its order
values, its arguments with whether each is JSON text, and whether an
aggregate over a frame counts it (its filter holds). -/
structure WindowRow where
  partition : List Cell
  order : List Cell
  args : List Cell
  marks : List Bool
  counted : Bool

/-- An end of a window frame with its offset evaluated. -/
inductive Edge where
  | unboundedPreceding
  | preceding (offset : Cell)
  | currentRow
  | following (offset : Cell)
  | unboundedFollowing

/-- A window as a row's value needs it: the collations its partitions compare
under, the direction and collation of each order term, and the frame. -/
structure WindowSpec where
  partitionColls : List Collation
  dirs : List (Bool × Collation)
  unit : FrameUnit
  start : Edge
  finish : Edge
  exclude : Exclusion

/-- The numbers of arguments of the window functions that are no aggregates. -/
def windowArities (lower : String) : Option (List Nat) :=
  match lower with
  | "row_number" | "rank" | "dense_rank" | "percent_rank" | "cume_dist" => some [0]
  | "ntile" | "first_value" | "last_value" => some [1]
  | "lag" | "lead" => some [1, 2, 3]
  | "nth_value" => some [2]
  | _ => none

/-- The places of the rows of row `i`'s partition, in window order. -/
def partitionPlaces (spec : WindowSpec) (rows : List WindowRow) (i : Nat) : List Nat :=
  match rows[i]? with
  | none => []
  | some r =>
    let orderOf := fun (j : Nat) => (rows[j]?.map (·.order)).getD []
    let members := (List.range rows.length).filter fun j =>
      (rows[j]?.map fun q => sameCells spec.partitionColls q.partition r.partition).getD false
    members.mergeSort fun a b => compareKeys spec.dirs (orderOf a) (orderOf b) != .gt

/-- A partition in window order, as a row's value needs it: the rows, the
place of the row itself, and whether two places hold peers. -/
structure Sorted where
  rows : List WindowRow
  place : Nat
  peers : Nat → Nat → Bool

/-- The first place of the peers of the row at a place. -/
def Sorted.groupStart (p : Sorted) (k : Nat) : Nat :=
  ((List.range (k + 1)).find? fun j => (List.range' j (k + 1 - j)).all (p.peers · k)).getD k

/-- The last place of the peers of the row at a place. -/
def Sorted.groupEnd (p : Sorted) (k : Nat) : Nat :=
  let after := (List.range' (k + 1) (p.rows.length - (k + 1))).takeWhile (p.peers · k)
  k + after.length

/-- The places where groups of peers start, in order. -/
def Sorted.groupStarts (p : Sorted) : List Nat :=
  (List.range p.rows.length).filter fun k => k == 0 || !p.peers (k - 1) k

/-- The number of the group of peers of the row at a place, from 0. -/
def Sorted.groupIndex (p : Sorted) (k : Nat) : Nat :=
  (p.groupStarts.filter (· ≤ k)).length - 1

/-- A frame offset of rows or groups: a non-negative integer. -/
def rowOffset (starting : Bool) (c : Cell) : Except Fault Nat :=
  let fault := Fault.logic ("frame " ++ (if starting then "starting" else "ending") ++
    " offset must be a non-negative integer")
  match c.keep .numeric with
  | .integer n => if n < 0 then .error fault else .ok n.toNat
  | _ => .error fault

/-- A frame offset of a range: a non-negative number. -/
def rangeOffset (starting : Bool) (c : Cell) : Except Fault Float :=
  let fault := Fault.logic ("frame " ++ (if starting then "starting" else "ending") ++
    " offset must be a non-negative number")
  match c.keep .numeric with
  | .integer n => if n < 0 then .error fault else .ok (Float.ofInt n)
  | .real r => if r < 0 || r.isNaN then .error fault else .ok r
  | _ => .error fault

/-- The first (`first`) or last place whose order value lies within an
offset of the row's, before (`preceding`) or after it in window order; a row
whose value is null has its peers for the range. -/
def Sorted.rangeEdge (p : Sorted) (spec : WindowSpec) (first preceding : Bool) (c : Cell) : Except Fault Int := do
  let n ← rangeOffset first c
  let valueAt := fun (j : Nat) => ((p.rows[j]?.bind (·.order.head?)).getD .null)
  let v := valueAt p.place
  let descending := (spec.dirs.head?.map (·.1)).getD false
  if v.isNull then
    return (if first then p.groupStart p.place else p.groupEnd p.place)
  let x := v.realValue
  let target := if preceding == descending then x + n else x - n
  let inside := fun (j : Nat) =>
    let w := valueAt j
    if w.isNull then false
    else if first == descending then w.realValue ≤ target else w.realValue ≥ target
  let places := List.range p.rows.length
  if first then return ((places.find? inside).getD p.rows.length)
  else return (((places.filter inside).getLast?.map (fun j => (j : Int))).getD (-1))

/-- The first place of a frame, which may lie before the first row or past
the last. -/
def Sorted.frameStart (p : Sorted) (spec : WindowSpec) : Except Fault Int := do
  let k := p.place
  let groups := p.groupStarts
  let g := p.groupIndex k
  match spec.start with
  | .unboundedPreceding => return 0
  | .unboundedFollowing => return p.rows.length
  | .currentRow => return (if spec.unit == .rows then k else p.groupStart k)
  | .preceding c =>
    match spec.unit with
    | .rows => return (k : Int) - (← rowOffset true c)
    | .groups =>
      let n ← rowOffset true c
      return (if n > g then 0 else groups.getD (g - n) 0)
    | .range => p.rangeEdge spec true true c
  | .following c =>
    match spec.unit with
    | .rows => return (k : Int) + (← rowOffset true c)
    | .groups =>
      let n ← rowOffset true c
      return (groups.getD (g + n) p.rows.length)
    | .range => p.rangeEdge spec true false c

/-- The last place of a frame, which may lie before its start. -/
def Sorted.frameEnd (p : Sorted) (spec : WindowSpec) : Except Fault Int := do
  let k := p.place
  let groups := p.groupStarts
  let g := p.groupIndex k
  let last : Int := (p.rows.length : Int) - 1
  match spec.finish with
  | .unboundedPreceding => return -1
  | .unboundedFollowing => return last
  | .currentRow => return (if spec.unit == .rows then k else p.groupEnd k)
  | .preceding c =>
    match spec.unit with
    | .rows => return (k : Int) - (← rowOffset false c)
    | .groups =>
      let n ← rowOffset false c
      return if n > g then -1 else p.groupEnd (groups.getD (g - n) 0)
    | .range => p.rangeEdge spec false true c
  | .following c =>
    match spec.unit with
    | .rows => return (k : Int) + (← rowOffset false c)
    | .groups =>
      let n ← rowOffset false c
      return match groups[g + n]? with
        | some s => p.groupEnd s
        | none => last
    | .range => p.rangeEdge spec false false c

/-- The places of a row's frame, in order, less those its exclusion leaves out. -/
def Sorted.frame (p : Sorted) (spec : WindowSpec) : Except Fault (List Nat) := do
  let lo ← p.frameStart spec
  let hi ← p.frameEnd spec
  let places := (List.range p.rows.length).filter fun (j : Nat) => lo ≤ (j : Int) && (j : Int) ≤ hi
  return places.filter fun j =>
    match spec.exclude with
    | .none => true
    | .current => j != p.place
    | .group => !p.peers j p.place
    | .ties => j == p.place || !p.peers j p.place

/-- The first argument of the row at a place. -/
def Sorted.argAt (p : Sorted) (j : Nat) : Cell :=
  ((p.rows[j]?.bind (·.args.head?))).getD .null

/-- The value of `ntile` for the row at `place` of `total` rows in `count` buckets. -/
def ntileValue (count total place : Nat) : Nat :=
  let size := total / count
  if size == 0 then place + 1
  else
    let large := total - count * size
    let small := large * (size + 1)
    if place < small then 1 + place / (size + 1) else 1 + large + (place - small) / size

/-- The integer a real with an integer value in range stands for. -/
def wholeReal? (r : Float) : Option Int :=
  if r == r.floor && r.abs < 9.2e18 then
    some (if r < 0 then -(((-r).toUInt64.toNat : Nat) : Int) else ((r.toUInt64.toNat : Nat) : Int))
  else none

/-- A row distance of `lag` or `lead`: an integer, or a real with an integer value. -/
def rowDistance (c : Cell) : Option Int :=
  match c.keep .numeric with
  | .integer n => some n
  | .real r => wholeReal? r
  | _ => none

/-- The value of a window function for row `i` of the output rows; `coll` is
the collation `min` and `max` compare under. -/
def windowValue (name : String) (coll : Collation) (spec : WindowSpec) (rows : List WindowRow) (i : Nat) :
    Except Fault Cell := do
  let places := partitionPlaces spec rows i
  let sortedRows := places.filterMap (rows[·]?)
  let place := (places.findIdx? (· == i)).getD 0
  let orderOf := fun (j : Nat) => ((sortedRows[j]?.map (·.order)).getD [])
  let p : Sorted := { rows := sortedRows, place, peers := fun a b => compareKeys spec.dirs (orderOf a) (orderOf b) == .eq }
  let total := sortedRows.length
  let own := (rows[i]?.map (·.args)).getD []
  match Text.lowerAscii name with
  | "row_number" => return .integer (place + 1)
  | "rank" => return .integer (p.groupStart place + 1)
  | "dense_rank" => return .integer (p.groupIndex place + 1)
  | "percent_rank" =>
    return .real (if total ≤ 1 then 0 else Float.ofNat (p.groupStart place) / Float.ofNat (total - 1))
  | "cume_dist" => return .real (Float.ofNat (p.groupEnd place + 1) / Float.ofNat total)
  | "ntile" =>
    let count := (p.argAt 0).intValue
    if count ≤ 0 then throw (.logic "argument of ntile must be a positive integer")
    return .integer (ntileValue count.toNat total place)
  | "lag" | "lead" =>
    let fallback := own.getD 2 .null
    match rowDistance (own.getD 1 (.integer 1)) with
    | none => return fallback
    | some n =>
      let target : Int := if Text.lowerAscii name == "lag" then place - n else place + n
      if target < 0 || target ≥ total then return fallback
      return p.argAt target.toNat
  | "first_value" => return ((← p.frame spec).head?.map p.argAt).getD .null
  | "last_value" => return ((← p.frame spec).getLast?.map p.argAt).getD .null
  | "nth_value" =>
    let fault := Fault.logic "second argument to nth_value must be a positive integer"
    let n ← match (own.getD 1 .null).keep .numeric with
      | .integer n => if n ≤ 0 then throw fault else pure n.toNat
      | .real r => match wholeReal? r with
        | some n => if n ≤ 0 then throw fault else pure n.toNat
        | none => throw fault
      | _ => throw fault
    return (((← p.frame spec)[n - 1]?).map p.argAt).getD .null
  | _ =>
    let frame ← p.frame spec
    let chosen := (frame.filterMap (sortedRows[·]?)).filter (·.counted)
    aggregateValue name coll (chosen.map (·.args)) (chosen.map (·.marks))

end Airspace.Store
