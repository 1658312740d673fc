import Airspace.Binary64.Basic

/-!
# Estimating the condition of a factored matrix

After `P A = L U`, the reciprocal condition number `1 / (‖A‖ ‖A⁻¹‖)` in the
infinity norm is estimated without forming `A⁻¹`: the norm of `A⁻¹` is
estimated by Hager's method as refined by Higham, which needs only products of
`A⁻¹` and of its transpose with chosen vectors, and each such product is two
triangular solves with `L` and `U`.

The triangular solves guard against overflow: when a bound on the growth of the
solution is too large they solve column by column, scaling the right-hand side
down as needed and reporting the scale. A zero on the diagonal gives scale zero.
When the scale of a product would push the estimate out of range, or is zero,
the estimate stops at reciprocal condition zero — the matrix counts as singular
to working precision. A matrix whose norm is zero or infinite counts as
singular at once; one whose norm is NaN has a NaN estimate. The condition
number is the reciprocal of the estimate, so a positive estimate too small for
its reciprocal to be finite makes it infinite as well.

All arithmetic is binary64, in the order the steps are written.
-/

namespace Airspace.Linear

open Airspace.Binary64

/-- A square matrix stored by rows. -/
abbrev Rows := Array (Array Float)

/-- The entry in row `i` and column `j`; zero outside the matrix. -/
def entryAt (a : Rows) (i j : Nat) : Float := (a.getD i #[]).getD j 0

/-- The least positive normal value, `2^-1022`. -/
def safeMinimum : Float := 2.2250738585072014e-308

/-- The relative spacing of binary64 values at one, `2^-52`. -/
def spacing : Float := 2.220446049250313e-16

/-- Below this magnitude a triangular solve scales instead of dividing freely. -/
def smallNumber : Float := safeMinimum / spacing

/-- The reciprocal of `smallNumber`. -/
def bigNumber : Float := 1 / smallNumber

/-- The largest finite binary64 value. -/
def largestFinite : Float := 1.7976931348623157e308

/-- The sum of magnitudes, left to right. -/
def absSum (xs : List Float) : Float := xs.foldl (fun s v => s + abs v) 0

/-- The first index of an entry of largest magnitude; `0` when the first entry is NaN. -/
def largestIndex (xs : Array Float) : Nat :=
  (xs.toList.zipIdx.foldl (fun (best : Nat × Float) (v, i) =>
    let m := abs v
    if m > best.2 then (i, m) else best) (0, abs (xs.getD 0 0))).1

/-- Every entry multiplied by `c`. -/
def scaleAll (c : Float) (xs : Array Float) : Array Float := xs.map (· * c)

/-- The magnitude of an entry. -/
def mag (xs : Array Float) (i : Nat) : Float := abs (xs.getD i 0)

/-- Which triangle of the factors is solved with, and how. -/
structure Triangle where
  /-- The upper factor `U` rather than the unit lower factor `L`. -/
  upper : Bool
  /-- Solve with the transpose. -/
  transposed : Bool
  /-- The diagonal is taken as ones (the diagonal of `L`). -/
  unitDiagonal : Bool

/-- The rows of column `j` strictly inside the triangle. -/
def Triangle.offDiagonal (t : Triangle) (n j : Nat) : List Nat :=
  if t.upper then List.range j else (List.range n).drop (j + 1)

/-- The order in which the columns are solved for. -/
def Triangle.order (t : Triangle) (n : Nat) : List Nat :=
  if t.upper != t.transposed then (List.range n).reverse else List.range n

/-- The plain triangular solve, no scaling; infinities and NaN propagate. -/
def Triangle.solveDirect (t : Triangle) (a : Rows) (x : Array Float) : Array Float := Id.run do
  let n := x.size
  let mut x := x
  if !t.transposed then
    for i in t.order n do
      let cols := if t.upper then (List.range n).drop (i + 1) else List.range i
      let sum := cols.foldl (fun s j => s + x.getD j 0 * entryAt a i j) 0
      x := x.set! i (x.getD i 0 - sum)
      if !t.unitDiagonal then x := x.set! i (x.getD i 0 / entryAt a i i)
  else
    for i in t.order n do
      if !t.unitDiagonal then x := x.set! i (x.getD i 0 / entryAt a i i)
      let xi := x.getD i 0
      let cols := if t.upper then (List.range n).drop (i + 1) else List.range i
      for j in cols do
        x := x.set! j (x.getD j 0 - entryAt a i j * xi)
  return x

/-- The column norms of the off-diagonal part of the triangle. -/
def Triangle.columnNorms (t : Triangle) (a : Rows) (n : Nat) : Array Float :=
  (Array.range n).map fun j => absSum ((t.offDiagonal n j).map fun i => entryAt a i j)

/-- The scaled triangular solve of one right-hand side. Returns the scale `s`
of the solution (the solve is of `T x = s b`), the solution, and the column
norms to reuse. -/
def Triangle.solveScaled (t : Triangle) (a : Rows) (normsKnown : Bool) (x cnorm : Array Float) :
    Float × Array Float × Array Float := Id.run do
  let n := x.size
  if n = 0 then return (1, x, cnorm)
  let smlnum := smallNumber
  let bignum := bigNumber
  let mut scale : Float := 1
  let mut x := x
  let mut cnorm := if normsKnown then cnorm else t.columnNorms a n
  -- Scale the column norms down when the largest is beyond `bignum`.
  let imax := largestIndex cnorm
  let mut tscal : Float := 1
  if !(cnorm.getD imax 0 ≤ bignum) then
    let tmax := cnorm.getD imax 0
    if tmax ≤ largestFinite then
      tscal := 1 / (smlnum * tmax)
      cnorm := scaleAll tscal cnorm
    else
      let tmax := (List.range n).foldl (fun m j =>
        Binary64.max ((t.offDiagonal n j).foldl (fun v i => Binary64.max v (abs (entryAt a i j))) 0) m) 0
      if tmax ≤ largestFinite then
        tscal := 1 / (smlnum * tmax)
        for j in List.range n do
          if cnorm.getD j 0 ≤ largestFinite then
            cnorm := cnorm.set! j (cnorm.getD j 0 * tscal)
          else
            let s := (t.offDiagonal n j).foldl (fun s i => s + tscal * abs (entryAt a i j)) 0
            cnorm := cnorm.set! j s
      else
        return (scale, t.solveDirect a x, cnorm)
  -- A bound on the growth of the solution decides whether the plain solve is safe.
  let xmax0 := mag x (largestIndex x)
  let mut xmax := xmax0
  let mut grow : Float := 0
  if tscal == 1 then
    let order := t.order n
    if !t.transposed then
      if !t.unitDiagonal then
        grow := 1 / Binary64.max xmax0 smlnum
        let mut xbnd := grow
        let mut finished := true
        for j in order do
          if grow ≤ smlnum then
            finished := false
            break
          let tjj := abs (entryAt a j j)
          xbnd := Binary64.min xbnd (Binary64.min 1 tjj * grow)
          if tjj + cnorm.getD j 0 ≥ smlnum then
            grow := grow * (tjj / (tjj + cnorm.getD j 0))
          else
            grow := 0
        if finished then grow := xbnd
      else
        grow := Binary64.min 1 (1 / Binary64.max xmax0 smlnum)
        for j in order do
          if grow ≤ smlnum then break
          grow := grow * (1 / (1 + cnorm.getD j 0))
    else
      if !t.unitDiagonal then
        grow := 1 / Binary64.max xmax0 smlnum
        let mut xbnd := grow
        let mut finished := true
        for j in order do
          if grow ≤ smlnum then
            finished := false
            break
          let xj := 1 + cnorm.getD j 0
          grow := Binary64.min grow (xbnd / xj)
          let tjj := abs (entryAt a j j)
          if xj > tjj then xbnd := xbnd * (tjj / xj)
        if finished then grow := Binary64.min grow xbnd
      else
        grow := Binary64.min 1 (1 / Binary64.max xmax0 smlnum)
        for j in order do
          if grow ≤ smlnum then break
          grow := grow / (1 + cnorm.getD j 0)
  if grow * tscal > smlnum then
    if tscal != 1 then cnorm := scaleAll (1 / tscal) cnorm
    return (scale, t.solveDirect a x, cnorm)
  -- Column by column, scaling to stay in range.
  if xmax > bignum then
    scale := bignum / xmax
    x := scaleAll scale x
    xmax := bignum
  if !t.transposed then
    for j in t.order n do
      let mut xj := mag x j
      let mut skip := false
      let tjjs := if t.unitDiagonal then tscal else entryAt a j j * tscal
      if t.unitDiagonal && tscal == 1 then skip := true
      if !skip then
        let tjj := abs tjjs
        if tjj > smlnum then
          if tjj < 1 then
            if xj > tjj * bignum then
              let r := 1 / xj
              x := scaleAll r x
              scale := scale * r
              xmax := xmax * r
          x := x.set! j (x.getD j 0 / tjjs)
          xj := mag x j
        else if tjj > 0 then
          if xj > tjj * bignum then
            let mut r := (tjj * bignum) / xj
            if cnorm.getD j 0 > 1 then r := r / cnorm.getD j 0
            x := scaleAll r x
            scale := scale * r
            xmax := xmax * r
          x := x.set! j (x.getD j 0 / tjjs)
          xj := mag x j
        else
          x := (Array.replicate n 0).set! j 1
          xj := 1
          scale := 0
          xmax := 0
      if xj > 1 then
        let r := 1 / xj
        if cnorm.getD j 0 > (bignum - xmax) * r then
          let r := r * 0.5
          x := scaleAll r x
          scale := scale * r
      else if xj * cnorm.getD j 0 > bignum - xmax then
        x := scaleAll 0.5 x
        scale := scale * 0.5
      let rows := t.offDiagonal n j
      if !rows.isEmpty then
        let c := -(x.getD j 0) * tscal
        for i in rows do
          x := x.set! i (x.getD i 0 + c * entryAt a i j)
        let sub := (rows.map fun i => x.getD i 0).toArray
        xmax := mag sub (largestIndex sub)
  else
    for j in t.order n do
      let mut xj := mag x j
      let mut uscal := tscal
      let mut shrink := 1 / Binary64.max xmax 1
      let mut tjjs := if t.unitDiagonal then tscal else entryAt a j j * tscal
      if cnorm.getD j 0 > (bignum - xj) * shrink then
        shrink := shrink * 0.5
        let tjj := abs tjjs
        if tjj > 1 then
          shrink := Binary64.min 1 (shrink * tjj)
          uscal := uscal / tjjs
        if shrink < 1 then
          x := scaleAll shrink x
          scale := scale * shrink
          xmax := xmax * shrink
      let rows := t.offDiagonal n j
      let sumj :=
        if uscal == 1 then rows.foldl (fun s i => s + entryAt a i j * x.getD i 0) 0
        else rows.foldl (fun s i => s + (entryAt a i j * uscal) * x.getD i 0) 0
      if uscal == tscal then
        x := x.set! j (x.getD j 0 - sumj)
        xj := mag x j
        tjjs := if t.unitDiagonal then tscal else entryAt a j j * tscal
        if !(t.unitDiagonal && tscal == 1) then
          let tjj := abs tjjs
          if tjj > smlnum then
            if tjj < 1 then
              if xj > tjj * bignum then
                let r := 1 / xj
                x := scaleAll r x
                scale := scale * r
                xmax := xmax * r
            x := x.set! j (x.getD j 0 / tjjs)
          else if tjj > 0 then
            if xj > tjj * bignum then
              let r := (tjj * bignum) / xj
              x := scaleAll r x
              scale := scale * r
              xmax := xmax * r
            x := x.set! j (x.getD j 0 / tjjs)
          else
            x := (Array.replicate n 0).set! j 1
            scale := 0
            xmax := 0
      else
        x := x.set! j (x.getD j 0 / tjjs - sumj)
      xmax := Binary64.max xmax (mag x j)
  scale := scale / tscal
  if tscal != 1 then cnorm := scaleAll (1 / tscal) cnorm
  return (scale, x, cnorm)

/-- Multiplies every entry by `1 / s` in steps that neither overflow nor underflow
needlessly. -/
def divideCarefully (s : Float) (x : Array Float) : Array Float := Id.run do
  let smlnum := safeMinimum
  let bignum := 1 / smlnum
  let mut cden := s
  let mut cnum : Float := 1
  let mut x := x
  for _ in List.range 64 do
    let cden1 := cden * smlnum
    let cnum1 := cnum / bignum
    if cnum != 0 && abs cden1 > abs cnum then
      x := scaleAll smlnum x
      cden := cden1
    else if abs cnum1 > abs cden then
      x := scaleAll bignum x
      cnum := cnum1
    else
      x := scaleAll (cnum / cden) x
      break
  return x

/-- The sign of a value as `±1`, by its sign bit. -/
def signOne (v : Float) : Float := copySign 1 v

/-- Where the norm estimate stands between two products. -/
structure NormEstimate where
  /-- The next product wanted: `1` for `A⁻¹ x`, `2` for `A⁻ᵀ x`, `0` when done. -/
  kase : Nat
  /-- The step to resume at. -/
  stage : Nat
  /-- The column chosen last. -/
  column : Nat
  /-- Iterations of the main loop so far. -/
  iterations : Nat
  /-- The estimate so far. -/
  estimate : Float
  /-- The vector the estimate comes from. -/
  v : Array Float
  /-- The signs of the last product. -/
  signs : Array Float

/-- The final test vector `(-1)^i (1 + i / (n - 1))`. -/
def alternating (n : Nat) : Array Float :=
  (Array.range n).map fun i =>
    let m : Float := 1 + Float.ofNat i / Float.ofNat (n - 1)
    if i % 2 == 0 then m else -m

/-- One step of the norm estimate: given the product just computed in `x`,
the next vector to multiply, or the finished estimate (`kase = 0`). -/
def NormEstimate.step (s : NormEstimate) (x : Array Float) : NormEstimate × Array Float :=
  let n := x.size
  let unitAt := fun (k : Nat) => (Array.replicate n (0 : Float)).set! k 1
  let finalStage := fun (s : NormEstimate) => ({ s with kase := 1, stage := 5 }, alternating n)
  match s.stage with
  | 1 =>
    if n = 1 then ({ s with kase := 0, v := x, estimate := abs (x.getD 0 0) }, x)
    else
      let est := absSum x.toList
      let sx := x.map signOne
      ({ s with kase := 2, stage := 2, estimate := est, signs := sx }, sx)
  | 2 =>
    let j := largestIndex x
    ({ s with kase := 1, stage := 3, column := j, iterations := 2 }, unitAt j)
  | 3 =>
    let estOld := s.estimate
    let est := absSum x.toList
    let same := (List.range n).all fun i => signOne (x.getD i 0) == s.signs.getD i 0
    let s := { s with v := x, estimate := est }
    if !same && est > estOld then
      let sx := x.map signOne
      ({ s with kase := 2, stage := 4, signs := sx }, sx)
    else finalStage s
  | 4 =>
    let last := s.column
    let j := largestIndex x
    if x.getD last 0 != abs (x.getD j 0) && s.iterations < 5 then
      ({ s with kase := 1, stage := 3, column := j, iterations := s.iterations + 1 }, unitAt j)
    else finalStage { s with column := j }
  | _ =>
    let temp := 2 * (absSum x.toList / Float.ofNat (3 * n))
    let s := if temp > s.estimate then { s with v := x, estimate := temp } else s
    ({ s with kase := 0 }, x)

/-- The triangles of the two products: `A⁻¹ x` solves with `L` then `U`,
`A⁻ᵀ x` with `Uᵀ` then `Lᵀ`. -/
def lowerUnit (transposed : Bool) : Triangle := ⟨false, transposed, true⟩
def upperFactor (transposed : Bool) : Triangle := ⟨true, transposed, false⟩

/-- The estimate of the reciprocal condition number in the infinity norm of a
matrix with norm `anorm` and factors `lu`. -/
def reciprocalCondition (anorm : Float) (lu : Rows) : Float := Id.run do
  let n := lu.size
  if n = 0 then return 1
  if anorm == 0 then return 0
  if anorm.isNaN then return anorm
  if anorm == inf then return 0
  let mut est : NormEstimate := ⟨1, 1, 0, 0, 0, Array.replicate n 0, Array.replicate n 0⟩
  let mut x : Array Float := Array.replicate n (1 / Float.ofNat n)
  let mut lowerNorms : Array Float := Array.replicate n 0
  let mut upperNorms : Array Float := Array.replicate n 0
  let mut normsKnown := false
  -- The first product asked for is `A⁻ᵀ x` (kase 1 differs from the infinity norm's kase 2).
  for _ in List.range 32 do
    let mut sl : Float := 0
    let mut su : Float := 0
    if est.kase == 2 then
      let (s1, x1, c1) := (lowerUnit false).solveScaled lu normsKnown x lowerNorms
      let (s2, x2, c2) := (upperFactor false).solveScaled lu normsKnown x1 upperNorms
      sl := s1; su := s2; x := x2; lowerNorms := c1; upperNorms := c2
    else
      let (s2, x1, c2) := (upperFactor true).solveScaled lu normsKnown x upperNorms
      let (s1, x2, c1) := (lowerUnit true).solveScaled lu normsKnown x1 lowerNorms
      sl := s1; su := s2; x := x2; lowerNorms := c1; upperNorms := c2
    let scale := sl * su
    normsKnown := true
    if scale != 1 then
      let m := mag x (largestIndex x)
      if scale == 0 || scale < m * safeMinimum then return 0
      x := divideCarefully scale x
    let (e, x') := est.step x
    est := e
    x := x'
    if est.kase == 0 then break
  let ainvnm := est.estimate
  if ainvnm != 0 then return (1 / ainvnm) / anorm
  return 0

/-- Whether the estimated condition number is infinite: the reciprocal of the
estimate overflows, which happens for every estimate below about `5.6e-309`
and not only for zero. -/
def conditionInfinite (anorm : Float) (lu : Rows) : Bool :=
  1 / reciprocalCondition anorm lu == inf

end Airspace.Linear
