import Airspace.Scalar.Basic

/-!
# Dense square systems by elimination with partial pivoting

A square system `A x = b` is solved by factoring `P A = L U` column by column:
the pivot of each column is its first entry of largest magnitude at or below
the diagonal, the multipliers below it are formed with the reciprocal of the
pivot, and the rest of the matrix takes a rank-one update. The solution then
follows by applying the row exchanges to `b` and substituting forward through
the unit lower factor and backward through the upper one; a coefficient that is
exactly zero is skipped.

A system is refused as singular — its condition number counted infinite — when
the scalar system says so of the factors, given the largest absolute row sum of
`A`.
-/

namespace Airspace.Linear

open Airspace.Scalar

variable {α : Type} [Scalar α]

/-- A square matrix stored by rows. -/
structure Matrix (α : Type) where
  rows : Array (Array α)

/-- The number of rows. -/
def Matrix.size (a : Matrix α) : Nat := a.rows.size

/-- The `n × n` zero matrix. -/
def Matrix.zero (n : Nat) : Matrix α := ⟨Array.replicate n (Array.replicate n 0)⟩

/-- The entry in row `i` and column `j`; zero outside the matrix. -/
def Matrix.entry (a : Matrix α) (i j : Nat) : α := (a.rows.getD i #[]).getD j 0

/-- Replaces the entry in row `i` and column `j`. -/
def Matrix.setEntry (a : Matrix α) (i j : Nat) (v : α) : Matrix α :=
  ⟨a.rows.modify i (fun row => row.setIfInBounds j v)⟩

/-- Exchanges two rows. -/
def Matrix.swapRows (a : Matrix α) (i j : Nat) : Matrix α := ⟨a.rows.swapIfInBounds i j⟩

/-- Adds `v` to the entry in row `i` and column `j`. -/
def Matrix.addEntry (a : Matrix α) (i j : Nat) (v : α) : Matrix α :=
  a.setEntry i j (a.entry i j + v)

/-- The largest sum of absolute values along a row; a row whose sum is NaN wins. -/
def Matrix.maxRowSum (a : Matrix α) : α :=
  a.rows.foldl (fun best row =>
    let s := row.foldl (fun acc v => acc + Scalar.abs v) 0
    if s > best || isNaN s then s else best) 0

/-- The row, at or below `j`, of the first entry of largest magnitude in column `j`. -/
def Matrix.pivotRow (a : Matrix α) (j : Nat) : Nat :=
  let rows := (List.range a.size).drop (j + 1)
  (rows.foldl (fun (best : Nat × α) i =>
    let v := Scalar.abs (a.entry i j)
    if v > best.2 then (i, v) else best) (j, Scalar.abs (a.entry j j))).1

/-- The smallest positive normal binary64 value; a pivot below it divides instead
of scaling by its reciprocal. -/
def smallestNormal : α := 2.2250738585072014e-308

/-- Forms the multipliers of column `j` below a nonzero pivot. A pivot below the
normal range divides the entry just below it once per remaining row, as the
elimination being matched does. -/
def Matrix.formMultipliers (a : Matrix α) (j : Nat) : Matrix α :=
  let n := a.size
  let pivot := a.entry j j
  if Scalar.abs pivot ≥ smallestNormal then
    let r := 1 / pivot
    ((List.range n).drop (j + 1)).foldl (fun m i => m.setEntry i j (m.entry i j * r)) a
  else
    (List.range (n - j - 1)).foldl
      (fun m _ => m.setEntry (j + 1) j (m.entry (j + 1) j / m.entry j j)) a

/-- Subtracts from the trailing block the product of column `j` below the diagonal
and row `j` right of it. -/
def Matrix.eliminate (a : Matrix α) (j : Nat) : Matrix α :=
  let later := (List.range a.size).drop (j + 1)
  later.foldl (fun m i =>
    let factor := -(m.entry i j)
    later.foldl (fun m k => m.setEntry i k (m.entry i k + factor * m.entry j k)) m) a

/-- The factorization `P A = L U`: the unit lower factor below the diagonal, the
upper factor on and above it, and the row chosen as pivot at each step. -/
structure Factorization (α : Type) where
  lu : Matrix α
  pivots : Array Nat

/-- One step of the factorization, on column `j`. -/
def Factorization.step (f : Factorization α) (j : Nat) : Factorization α :=
  let a := f.lu
  let jp := a.pivotRow j
  let a :=
    if a.entry jp j == 0 then a
    else
      let a := if jp ≠ j then a.swapRows j jp else a
      if j + 1 < a.size then a.formMultipliers j else a
  let a := if j + 1 < a.size then a.eliminate j else a
  ⟨a, f.pivots.push jp⟩

/-- Factors a square matrix with partial pivoting. -/
def factor (a : Matrix α) : Factorization α :=
  (List.range a.size).foldl Factorization.step ⟨a, #[]⟩

/-- The diagonal of the upper factor. -/
def Factorization.diagonal (f : Factorization α) : List α :=
  (List.range f.lu.size).map fun i => f.lu.entry i i

/-- Applies the row exchanges, then substitutes forward through `L` and backward through `U`. -/
def Factorization.substitute (f : Factorization α) (b : Array α) : Array α :=
  let n := f.lu.size
  let a := f.lu
  let x := (List.range n).foldl (fun x i => x.swapIfInBounds i (f.pivots.getD i i)) b
  let x := (List.range n).foldl (fun x i =>
    (List.range i).foldl (fun x k =>
      let c := a.entry i k
      if c != 0 then x.setIfInBounds i (x.getD i 0 + -c * x.getD k 0) else x) x) x
  (List.range n).reverse.foldl (fun x i =>
    let x := ((List.range n).drop (i + 1)).foldl (fun x k =>
      let c := a.entry i k
      if c != 0 then x.setIfInBounds i (x.getD i 0 + -c * x.getD k 0) else x) x
    x.setIfInBounds i (x.getD i 0 * (1 / a.entry i i))) x

/-- The solution of `A x = b`, or `none` when the system is singular in the
sense of the module header. A solution may still hold values that are not finite. -/
def solve (a : Matrix α) (b : Array α) : Option (Array α) :=
  let f := factor a
  if factorsSingular a.maxRowSum f.lu.rows then none else some (f.substitute b)

end Airspace.Linear
