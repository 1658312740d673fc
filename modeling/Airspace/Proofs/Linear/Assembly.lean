import Mathlib.Algebra.BigOperators.Group.Finset.Basic
import Mathlib.LinearAlgebra.Matrix.NonsingularInverse
import Airspace.Proofs.Exact.Real
import Airspace.Linear.Dense

/-!
# Square systems assembled entry by entry

The fitting systems are built by starting from the zero matrix and adding to one entry
at a time. On a matrix with `n` rows of `n` entries, adding at a position inside it
changes that entry alone and keeps the shape; so what a row ends up as is the sum of
what was added to it. Over exact arithmetic this is said of the row applied to a
vector: adding `v` at row `i`, column `j` adds `v · x j` to row `i` applied to `x`.

A solver of square systems is code this library does not define; what the fits rely
on is stated as two properties of it. `SolvesSystems`: a solution it returns has one
entry per unknown and satisfies every equation. `SolvesNonsingular`: on a system whose
matrix has nonzero determinant it returns a solution. Solving exactly, by the inverse
matrix, has both (`exactSolve`).
-/

namespace Airspace.Linear

section Shape

variable {α : Type}

/-- A matrix with `n` rows of `n` entries each. -/
def Matrix.IsSquare (a : Matrix α) (n : Nat) : Prop :=
  a.rows.size = n ∧ ∀ i < n, (a.rows.getD i #[]).size = n

theorem getD_setIfInBounds {β : Type} (xs : Array β) (i j : Nat) (v d : β) :
    (xs.setIfInBounds i v).getD j d = if i = j ∧ i < xs.size then v else xs.getD j d := by
  simp only [Array.getD_eq_getD_getElem?, Array.getElem?_setIfInBounds]
  by_cases hij : i = j
  · subst hij
    by_cases hi : i < xs.size <;> simp [hi]
  · simp [hij]

@[simp] theorem Matrix.size_setEntry (a : Matrix α) (i j : Nat) (v : α) :
    (a.setEntry i j v).size = a.size := by
  simp [Matrix.size, Matrix.setEntry]

theorem Matrix.rowSize_setEntry (a : Matrix α) (i j : Nat) (v : α) (r : Nat) :
    ((a.setEntry i j v).rows.getD r #[]).size = (a.rows.getD r #[]).size := by
  simp only [Matrix.setEntry, Array.getD_eq_getD_getElem?, Array.getElem?_modify]
  by_cases hir : i = r
  · subst hir
    cases a.rows[i]? <;> simp
  · simp [hir]

/-- Setting an entry keeps the shape of every row. -/
@[simp] theorem Matrix.isSquare_setEntry_iff {a : Matrix α} {i j : Nat} {v : α} {n : Nat} :
    (a.setEntry i j v).IsSquare n ↔ a.IsSquare n := by
  have hrows : (a.setEntry i j v).rows.size = a.rows.size := a.size_setEntry i j v
  simp only [Matrix.IsSquare, Matrix.rowSize_setEntry, hrows]

end Shape

variable {α : Type} [Scalar α]

theorem Matrix.entry_zero (n i j : Nat) : (Matrix.zero n : Matrix α).entry i j = 0 := by
  simp only [Matrix.entry, Matrix.zero, Array.getD_eq_getD_getElem?, Array.getElem?_replicate]
  by_cases hi : i < n <;> by_cases hj : j < n <;> simp [hi, hj]

theorem Matrix.isSquare_zero (n : Nat) : (Matrix.zero n : Matrix α).IsSquare n := by
  refine ⟨by simp [Matrix.zero], fun i hi => ?_⟩
  simp [Matrix.zero, Array.getD_eq_getD_getElem?, hi]

@[simp] theorem Matrix.size_addEntry (a : Matrix α) (i j : Nat) (v : α) :
    (a.addEntry i j v).size = a.size :=
  a.size_setEntry i j _

@[simp] theorem Matrix.isSquare_addEntry_iff {a : Matrix α} {i j : Nat} {v : α} {n : Nat} :
    (a.addEntry i j v).IsSquare n ↔ a.IsSquare n :=
  Matrix.isSquare_setEntry_iff

namespace Matrix.IsSquare

variable {a : Matrix α} {n : Nat} (ha : a.IsSquare n)
include ha

omit [Scalar α] in
theorem size_eq : a.size = n := ha.1

/-- Setting an entry inside the matrix changes that entry alone. -/
theorem entry_setEntry {i j : Nat} (hi : i < n) (hj : j < n) (v : α) (r c : Nat) :
    (a.setEntry i j v).entry r c = if r = i ∧ c = j then v else a.entry r c := by
  have hin : i < a.rows.size := ha.1 ▸ hi
  have hrow : a.rows[i].size = n := by
    simpa [Array.getD_eq_getD_getElem?, Array.getElem?_eq_getElem hin] using ha.2 i hi
  rw [Matrix.entry, Matrix.entry, Matrix.setEntry, @Array.getD_eq_getD_getElem? _ (a.rows.modify _ _),
    Array.getElem?_modify]
  by_cases hir : i = r
  · subst hir
    simp only [if_true, Array.getElem?_eq_getElem hin, Option.map_some, Option.getD_some,
      getD_setIfInBounds, hrow, hj, and_true, true_and]
    by_cases hjc : j = c
    · subst hjc
      simp
    · simp [hjc, Ne.symm hjc, Array.getD_eq_getD_getElem?, Array.getElem?_eq_getElem hin]
  · simp [hir, Ne.symm hir, Array.getD_eq_getD_getElem?]

theorem entry_addEntry {i j : Nat} (hi : i < n) (hj : j < n) (v : α) (r c : Nat) :
    (a.addEntry i j v).entry r c = if r = i ∧ c = j then a.entry r c + v else a.entry r c := by
  rw [Matrix.addEntry, ha.entry_setEntry hi hj]
  by_cases h : r = i ∧ c = j
  · obtain ⟨rfl, rfl⟩ := h
    simp
  · simp [h]

end Matrix.IsSquare

/-! ## Rows applied to a vector, exactly -/

/-- Row `i` of the matrix applied to the vector `x`. -/
noncomputable def Matrix.rowApply (a : Matrix ℝ) (i : Nat) (x : Nat → ℝ) : ℝ :=
  ∑ j ∈ Finset.range a.size, a.entry i j * x j

/-- An entry is its row applied to the indicator of its column. -/
theorem Matrix.entry_eq_rowApply (a : Matrix ℝ) (i : Nat) {j : Nat} (hj : j < a.size) :
    a.entry i j = a.rowApply i (fun c => if c = j then 1 else 0) := by
  simp [Matrix.rowApply, Finset.mem_range.mpr hj]

theorem Matrix.rowApply_zero (n i : Nat) (x : Nat → ℝ) : (Matrix.zero n).rowApply i x = 0 := by
  simp [Matrix.rowApply, Matrix.entry_zero]

/-- Adding `v` at row `i`, column `j` of a square matrix adds `v · x j` to row `i`
applied to `x`. -/
theorem Matrix.rowApply_addEntry {a : Matrix ℝ} (ha : a.IsSquare a.size) {i j : Nat}
    (hi : i < a.size) (hj : j < a.size) (v : ℝ) (r : Nat) (x : Nat → ℝ) :
    (a.addEntry i j v).rowApply r x = a.rowApply r x + if r = i then v * x j else 0 := by
  simp only [Matrix.rowApply, Matrix.size_addEntry, ha.entry_addEntry hi hj]
  have hsplit : ∀ c ∈ Finset.range a.size,
      (if r = i ∧ c = j then a.entry r c + v else a.entry r c) * x c =
        a.entry r c * x c + if c = j then (if r = i then v * x j else 0) else 0 := by
    intro c _
    by_cases hc : c = j <;> by_cases hr : r = i <;> simp [hc, hr, add_mul]
  rw [Finset.sum_congr rfl hsplit, Finset.sum_add_distrib,
    Finset.sum_ite_eq' (Finset.range a.size) j, if_pos (Finset.mem_range.mpr hj)]

end Airspace.Linear

namespace Airspace.Exact

open Linear

/-- The matrix of a square system, as a matrix of linear algebra. -/
noncomputable def toMatrix (a : Linear.Matrix ℝ) : Matrix (Fin a.size) (Fin a.size) ℝ :=
  Matrix.of fun i j => a.entry i j

/-- What a solver promises of what it returns: one value per unknown, satisfying every
equation of the system. -/
def SolvesSystems (solve : Linear.Matrix ℝ → Array ℝ → Option (Array ℝ)) : Prop :=
  ∀ a b x, solve a b = some x →
    x.size = a.size ∧ ∀ i < a.size, a.rowApply i (fun j => x.getD j 0) = b.getD i 0

/-- What a solver promises of a system with nonzero determinant: it returns a solution. -/
def SolvesNonsingular (solve : Linear.Matrix ℝ → Array ℝ → Option (Array ℝ)) : Prop :=
  ∀ a b, a.IsSquare a.size → (toMatrix a).det ≠ 0 → (solve a b).isSome

/-- Solving exactly, by the inverse matrix; a singular system is refused. -/
noncomputable def exactSolve (a : Linear.Matrix ℝ) (b : Array ℝ) : Option (Array ℝ) :=
  if (toMatrix a).det = 0 then none
  else some (Array.ofFn fun i => (toMatrix a)⁻¹.mulVec (fun j => b.getD j 0) i)

theorem solvesSystems_exactSolve : SolvesSystems exactSolve := by
  intro a b x hsolve
  unfold exactSolve at hsolve
  split at hsolve
  · cases hsolve
  · rename_i hdet
    cases hsolve
    refine ⟨Array.size_ofFn, fun i hi => ?_⟩
    have hinv : toMatrix a * (toMatrix a)⁻¹ = 1 :=
      Matrix.mul_nonsing_inv _ (isUnit_iff_ne_zero.mpr hdet)
    have hrow :=
      congrFun (congrArg (fun m => m.mulVec fun j : Fin a.size => b.getD j 0) hinv) ⟨i, hi⟩
    simp only [← Matrix.mulVec_mulVec, Matrix.one_mulVec] at hrow
    rw [← hrow, Matrix.rowApply, Finset.sum_range fun j => a.entry i j * _]
    simp [Matrix.mulVec, dotProduct, toMatrix, Array.getD_eq_getD_getElem?]

theorem solvesNonsingular_exactSolve : SolvesNonsingular exactSolve := by
  intro a b _ hdet
  simp [exactSolve, hdet]

end Airspace.Exact
