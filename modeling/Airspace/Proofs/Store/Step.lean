import Airspace.Proofs.Store.Layout

/-!
# The store's statements, step by step

A statement runs in `Exec`: each step reads and changes the statement's state (`Run`) or
fails. `Exec.Runs x r a r'` says that `x`, run from `r`, gives `a` and leaves `r'`, and its
bind rule lets a proof follow a statement's `do` block one step at a time, citing one lemma
for each step and never unfolding the step itself.

On the store's layout (`Run.OnStore`) no trigger fires, so every firing gives way; the only
foreign key is the one from a waypoint to its obstacle, and nothing refers to a waypoint. This
module proves what deleting rows does there: a waypoint's row just goes, and an obstacle's
row goes with nothing to cascade once its waypoints are gone.
-/

namespace Airspace.Store

namespace Exec

variable {α β γ : Type}

/-- Run from `r`, the step `x` gives `a` and leaves `r'`. -/
def Runs (x : Exec α) (r : Run) (a : α) (r' : Run) : Prop := x.run.run r = (.ok a, r')

/-- Run from `r`, the step `x` fails with `e` and leaves `r'`. -/
def Fails (x : Exec α) (r : Run) (e : Fault) (r' : Run) : Prop := x.run.run r = (.error e, r')

variable {x : Exec α} {f : α → Exec β} {r r₁ r₂ : Run} {a : α} {b : β} {e : Fault}

theorem Runs.bind (hx : Runs x r a r₁) (hf : Runs (f a) r₁ b r₂) : Runs (x >>= f) r b r₂ := by
  unfold Runs at *
  simp only [ExceptT.run_bind, StateT.run_bind, hx]
  exact hf

theorem Fails.bind (hx : Fails x r e r₁) : Fails (x >>= f) r e r₁ := by
  unfold Fails at *
  simp only [ExceptT.run_bind, StateT.run_bind, hx]
  rfl

theorem Fails.bind_of_runs (hx : Runs x r a r₁) (hf : Fails (f a) r₁ e r₂) : Fails (x >>= f) r e r₂ := by
  unfold Runs Fails at *
  simp only [ExceptT.run_bind, StateT.run_bind, hx]
  exact hf

theorem runs_pure (r : Run) (a : α) : Runs (pure a : Exec α) r a r := rfl

theorem runs_get (r : Run) : Runs (get : Exec Run) r r r := rfl

theorem runs_modify (r : Run) (g : Run → Run) : Runs (modify g : Exec Unit) r () (g r) := rfl

theorem fails_throw (r : Run) (e : Fault) : Fails (throw e : Exec α) r e r := rfl

theorem runs_liftFault (r : Run) (a : α) : Runs (liftFault (.ok a)) r a r := rfl

/-- A step that runs from one state runs from no other way: it gives one value and one state. -/
theorem Runs.unique {a' : α} (h₁ : Runs x r a r₁) (h₂ : Runs x r a' r₂) : a = a' ∧ r₁ = r₂ := by
  unfold Runs at h₁ h₂
  rw [h₁] at h₂
  cases h₂
  exact ⟨rfl, rfl⟩

/-- A loop over a list whose every turn goes on with the loop's state and the run's state as they
were leaves both as they were. -/
theorem runs_forIn_of_fixed {l : List γ} {b : β} {body : γ → β → Exec (ForInStep β)}
    (h : ∀ y ∈ l, Runs (body y b) r (.yield b) r) : Runs (forIn l b body) r b r := by
  induction l with
  | nil => exact runs_pure r b
  | cons y l ih =>
    rw [List.forIn_cons]
    exact Runs.bind (h y List.mem_cons_self) (ih fun z hz => h z (List.mem_cons_of_mem _ hz))

/-- `forM` over a list runs its step for each element in turn, from the state the last one left. -/
theorem runs_forM_cons {g : γ → Exec PUnit} {y : γ} {l : List γ} (hy : Runs (g y) r PUnit.unit r₁)
    (hl : Runs (l.forM g) r₁ PUnit.unit r₂) : Runs ((y :: l).forM g) r PUnit.unit r₂ := by
  unfold List.forM
  exact Runs.bind hy hl

theorem runs_forM_nil {g : γ → Exec PUnit} (r : Run) : Runs (([] : List γ).forM g) r PUnit.unit r := rfl

end Exec

open Exec

/-! ## Steps that read or write one thing -/

section Steps

variable {r : Run} {active : List String}

theorem currentTable_runs {name : String} {t : Table} (h : r.db.table? name = some t) :
    Runs (currentTable name) r t r := by
  unfold currentTable
  refine Runs.bind (runs_get r) ?_
  simp only [h]
  exact runs_pure r t

theorem refreshed_runs (scope : Scope) :
    Runs scope.refreshed r { scope with db := r.db, exactLike := r.exactLike, counters := r.counters } r :=
  Runs.bind (runs_get r) (runs_pure r _)

/-- Taking back a reference when none is counted changes nothing. -/
theorem settlePending_runs (h : r.pendingKeys = 0) : Runs settlePending r () r := by
  have hr : { r with pendingKeys := r.pendingKeys - 1 } = r := by
    cases r
    simp_all
  have step := runs_modify r fun r => { r with pendingKeys := r.pendingKeys - 1 }
  rw [hr] at step
  exact step

/-- With no temporary trigger and none in the database, no trigger fires. -/
theorem firing_eq_nil (htemp : r.temporary = []) (htrig : r.db.triggers = [])
    (table : String) (timing : Timing) (event : Event) : r.firing active table timing event = [] := by
  simp [Run.firing, htemp, htrig]

/-- With no trigger to fire, firing the triggers of a row changes nothing and lets the row go on. -/
theorem fireTriggers_runs {table : String} {t : Table} (ht : r.db.table? table = some t)
    (htemp : r.temporary = []) (htrig : r.db.triggers = []) (fuel : Nat) (timing : Timing) (event : Event)
    (old new : Option Row) : Runs (fireTriggers (fuel + 2) active table timing event old new) r true r := by
  rw [fireTriggers]
  refine Runs.bind (currentTable_runs ht) (Runs.bind (runs_get r) ?_)
  rw [firing_eq_nil htemp htrig, runTriggers]
  exact runs_pure r true

theorem storeTable_runs {t : Table} {db : Database} (h : r.db.putTable t = db) :
    Runs (storeTable t) r () { r with db } := by
  subst h
  exact runs_modify r _

theorem countChange_runs : Runs countChange r () { r with changes := r.changes + 1 } := runs_modify r _

theorem addPending_zero_runs : Runs (addPending 0) r () r := runs_modify r _

theorem releaseParents_runs (h : r.pendingKeys = 0) (t : Table) (row : Row) :
    Runs (releaseParents t row) r () r := by
  unfold releaseParents
  refine Runs.bind (runs_get r) ?_
  split
  · refine Runs.bind (runs_forIn_of_fixed fun fk _ => ?_) (runs_pure r ())
    dsimp only
    split
    · exact Runs.bind (settlePending_runs h) (runs_pure r _)
    · exact runs_pure r _
  · exact runs_pure r ()

end Steps

/-! ## The condition `column = key` on one row -/

section Condition

theorem eval_binary_eq (s : Scope) (l r : Expr) : s.eval (.binary .eq l r) = (do
    let a ← s.eval l
    let b ← s.eval r
    return binaryValue .eq (comparisonAffinity (s.affinityOf l) (s.affinityOf r)) (s.pairCollation l r) a b) :=
  rfl

theorem eval_column (s : Scope) (t : Option String) (n : String) (q : NameQuote) :
    s.eval (.column t n q) = (·.1) <$> s.resolve t n q := rfl

theorem eval_constant (s : Scope) (c : Cell) : s.eval (.constant c) = .ok c := rfl

theorem affinityOf_column (s : Scope) (t : Option String) (n : String) (q : NameQuote) :
    s.affinityOf (.column t n q) = match s.resolve t n q with
      | .ok (_, a) => a
      | .error _ => none := rfl

theorem affinityOf_constant (s : Scope) (c : Cell) : s.affinityOf (.constant c) = none := rfl

theorem compare_beq_eq_int (x y : Int) : (compare x y == .eq) = (x == y) := by
  cases hc : compare x y with
  | eq => simp [Int.compare_eq_eq.mp hc]
  | lt => simp [Int.ne_of_lt (Int.compare_eq_lt.mp hc)]
  | gt => simp [Int.ne_of_gt (Int.compare_eq_gt.mp hc)]

/-- Two integers compared for equality under integer affinity: equal exactly when they are. -/
theorem binaryValue_eq_integers (x y : Int) :
    binaryValue .eq (some .integer) .binary (.integer x) (.integer y) = ofBool (x == y) := by
  simp only [binaryValue, comparison, compareUnder, Cell.forComparison, Cell.compareWith, Cell.compare, Cell.isNull]
  rw [← compare_beq_eq_int]
  rfl

@[simp] theorem holds_ofBool (b : Bool) : (ofBool b).holds = b := by
  cases b <;> rfl

@[simp] theorem Cell.intValue_integer (n : Int) : (Cell.integer n).intValue = n := rfl

theorem check_binary (s : Scope) (op : BinaryOp) (l r : Expr) :
    s.check (.binary op l r) = (do s.check l; s.check r) := rfl

theorem check_column (s : Scope) (t : Option String) (n : String) (q : NameQuote) :
    s.check (.column t n q) = (do let _ ← s.resolve t n q) := rfl

theorem check_constant (s : Scope) (c : Cell) : s.check (.constant c) = .ok () := rfl

/-- Two integers compare as integers under every affinity but text's. -/
theorem compareUnder_integer {aff : Option Affinity} (h : aff ≠ some .text) (coll : Collation) (a b : Int) :
    compareUnder aff coll (.integer a) (.integer b) = compare a b := by
  match aff with
  | none => rfl
  | some .integer => rfl
  | some .real => rfl
  | some .numeric => rfl
  | some .blob => rfl
  | some .text => exact absurd rfl h

variable {s : Scope} {t : Table} {asName : Option String} {c : String} {i : Nat}

/-- In a scope of one table's row, or of the table with no row, a bare column name resolves to
the row's value in that column (null with no row) and the column's affinity. -/
theorem resolve_current {row : Option Row} (hcur : s.current = [tableBinding t asName row])
    (hidx : t.columnIndex? c = some i) :
    s.resolve none c .bare = .ok ((row.map (·.get i)).getD .null, t.columns[i]?.map TableColumn.affinity) := by
  unfold Table.columnIndex? at hidx
  simp [Scope.resolve, hcur, tableBinding, Binding.find?, hidx]

/-- `c = key` names nothing unknown in a scope of a table with the column `c`. -/
theorem check_columnIs {row : Option Row} (hcur : s.current = [tableBinding t asName row])
    (hidx : t.columnIndex? c = some i) (key : Int) : s.check (columnIs c key) = .ok () := by
  rw [columnIs, check_binary, check_column, check_constant, resolve_current hcur hidx]
  rfl

/-- A column of a table whose columns all compare texts bytewise compares a constant bytewise. -/
theorem pairCollation_current {row : Option Row} (hcur : s.current = [tableBinding t asName row])
    (hidx : t.columnIndex? c = some i) (hcoll : ∀ col ∈ t.columns, col.collation = .binary) (l : Cell) :
    s.pairCollation (.column none c .bare) (.constant l) = .binary := by
  have hany : t.columns.any (fun col => sameName col.name c) = true := by
    rw [← List.findIdx?_isSome, ← Table.columnIndex?, hidx]
    rfl
  obtain ⟨col, hcol⟩ : ∃ col, t.columns.find? (fun col => sameName col.name c) = some col := by
    rw [← Option.isSome_iff_exists, List.find?_isSome]
    exact List.any_eq_true.mp hany
  have hbin := hcoll col (List.mem_of_find?_eq_some hcol)
  simp only [Scope.pairCollation, Scope.collationOf, Expr.hasCollate, Expr.collationWith, Scope.columnCollation,
    hcur, tableBinding, Binding.collation?, List.filterMap_cons, List.filterMap_nil, hcol, hbin]
  by_cases hr : col.isRowId <;> simp [hr]

/-- `c = key`, on a row whose integer column `c` holds `x`, is whether `x` is `key`. -/
theorem eval_columnIs_current {row : Row} (hcur : s.current = [tableBinding t asName (some row)])
    (hidx : t.columnIndex? c = some i) (haff : t.columns[i]?.map TableColumn.affinity = some .integer)
    (hcoll : ∀ col ∈ t.columns, col.collation = .binary) {x : Int} (hx : row.get i = .integer x) (key : Int) :
    s.eval (columnIs c key) = .ok (ofBool (x == key)) := by
  rw [columnIs, eval_binary_eq, eval_column, eval_constant, affinityOf_column, affinityOf_constant,
    resolve_current hcur hidx, pairCollation_current hcur hidx hcoll, haff, Option.map_some, Option.getD_some, hx]
  exact congrArg Except.ok (binaryValue_eq_integers x key)

theorem filterMap_ite_eq {α β : Type} (l : List α) (p : α → Bool) (g : α → β) :
    l.filterMap (fun x => if p x then some (g x) else none) = (l.filter p).map g := by
  induction l with
  | nil => rfl
  | cons x xs ih => by_cases hx : p x <;> simp [hx, ih]

theorem filterMapM_except_ok {ε α β : Type} {l : List α} {f : α → Except ε (Option β)} {g : α → Option β}
    (h : ∀ x ∈ l, f x = .ok (g x)) : l.filterMapM f = .ok (l.filterMap g) := by
  induction l with
  | nil => rfl
  | cons x xs ih =>
    rw [List.filterMapM_cons, h x List.mem_cons_self, ih fun y hy => h y (List.mem_cons_of_mem _ hy),
      List.filterMap_cons]
    cases g x <;> rfl

/-- Selecting by `c = key` the rows of a table whose integer column `c` holds a value in every
row: the ids of the rows that hold `key`, in table order. -/
theorem selectIds_columnIs (r : Run) (hidx : t.columnIndex? c = some i)
    (haff : t.columns[i]?.map TableColumn.affinity = some .integer)
    (hcoll : ∀ col ∈ t.columns, col.collation = .binary) (val : Row → Int)
    (hval : ∀ row ∈ t.rows, row.get i = .integer (val row)) (key : Int) :
    Exec.Runs (selectIds {} t asName (some (columnIs c key))) r ((t.rows.filter (val · == key)).map (·.id)) r := by
  unfold selectIds
  refine Exec.Runs.bind (refreshed_runs {}) ?_
  rw [filterMapM_except_ok (g := fun row => if val row == key then some row.id else none), filterMap_ite_eq]
  · exact Exec.runs_liftFault r _
  · intro row hrow
    rw [eval_columnIs_current rfl hidx haff hcoll (hval row hrow)]
    exact congrArg Except.ok (by rw [holds_ofBool])

end Condition

/-! ## A change on a session -/

section Change

/-- The state a change on a session starts from. -/
def Session.startRun (s : Session) : Run :=
  { db := s.db, temporary := s.temporary, enforceKeys := s.enforceKeys, exactLike := s.exactLike,
    recursive := s.recursiveTriggers, counters := s.counters }

variable {s : Session} {c : Change} {r : Run} {f : Fault}

/-- A change that passes its checks and runs to its end, with no reference left without its
parent, is kept: the session takes the database the run left, and the change reports the rows it
changed and the ids it inserted. -/
theorem change_of_runs (hprep : s.db.prepare c = c) (hcheck : s.db.checkChange s.temporary {} false c = .ok ())
    (hcompile : c.compileFault? false = none) (htrig : s.db.checkTriggers s.temporary 64 [] c = .ok ())
    (hrun : Exec.Runs (runChange runFuel [] {} true c) s.startRun () r)
    (hpend : r.pendingKeys = 0) (hwrite : c.event?.isSome) :
    s.change c =
      ({ s with
          db := r.db
          counters := { r.counters with changes := r.changes, total := r.counters.total + r.changes } },
        .ok ⟨r.changes, r.inserted⟩) := by
  unfold Exec.Runs Session.startRun at hrun
  unfold Session.change
  simp only [hprep, hcheck, hcompile, htrig, hrun, Id.run, hpend, Nat.lt_irrefl, gt_iff_lt, if_false]
  cases c with
  | select q => simp [Change.event?] at hwrite
  | _ => rfl

/-- A change whose run fails is undone or kept as its fault says, and fails. The run's fault decides
which state the session keeps, and every branch reports the fault. -/
theorem change_of_fails (hprep : s.db.prepare c = c) (hcheck : s.db.checkChange s.temporary {} false c = .ok ())
    (hcompile : c.compileFault? false = none) (htrig : s.db.checkTriggers s.temporary 64 [] c = .ok ())
    (hrun : Exec.Fails (runChange runFuel [] {} true c) s.startRun f r) :
    (s.change c).2 = .error f := by
  unfold Exec.Fails Session.startRun at hrun
  unfold Session.change
  simp only [hprep, hcheck, hcompile, htrig, hrun, Id.run, bind, Except.bind]
  repeat' split
  all_goals first | rfl | simp_all

theorem storeChange_of_change {s' : Session} {o : Outcome} (h : s.change c = (s', .ok o)) :
    s.storeChange c = .ok (s', o) := by
  simp [Session.storeChange, h]

theorem storeChange_error_of_change (h : (s.change c).2 = .error f) : s.storeChange c = .error f.cause := by
  unfold Session.storeChange
  split
  · rename_i heq
    rw [heq] at h
    cases h
  · rename_i heq
    rw [heq] at h
    cases h
    rfl

end Change

/-! ## Rows in row-id order -/

section Ordered

variable {rows keep ws : List Row} {w : Row}

/-- In a table whose rows go up by id, looking a row up by its own id finds it. -/
theorem find?_id_of_pairwise (h : rows.Pairwise (·.id < ·.id)) (hw : w ∈ rows) :
    rows.find? (·.id == w.id) = some w := by
  induction rows with
  | nil => cases hw
  | cons x xs ih =>
    rw [List.pairwise_cons] at h
    rcases List.mem_cons.mp hw with rfl | hxs
    · simp
    · have hlt : x.id < w.id := h.1 w hxs
      have hne : (x.id == w.id) = false := by simpa using Int.ne_of_lt hlt
      rw [List.find?_cons_of_neg (by simp [hne])]
      exact ih h.2 hxs

/-- Dropping one row by its id from rows that go up by id leaves the rows around it. -/
theorem filter_id_ne_of_pairwise (h : (keep ++ w :: ws).Pairwise (·.id < ·.id)) :
    (keep ++ w :: ws).filter (·.id != w.id) = keep ++ ws := by
  rw [List.pairwise_append] at h
  obtain ⟨_, hws, hcross⟩ := h
  rw [List.pairwise_cons] at hws
  have hkeep : keep.filter (·.id != w.id) = keep := by
    rw [List.filter_eq_self]
    intro x hx
    simpa using Int.ne_of_lt (hcross x hx w List.mem_cons_self)
  have hrest : ws.filter (·.id != w.id) = ws := by
    rw [List.filter_eq_self]
    intro x hx
    simpa using (Int.ne_of_lt (hws.1 x hx)).symm
  simp [List.filter_append, hkeep, hrest]

end Ordered

/-! ## A statement on the store's connection -/

/-- The state of a statement on the store's own connection: the store's tables with some rows,
no temporary trigger, foreign keys enforced, and no reference counted without its parent. -/
structure Run.OnStore (r : Run) (os ss ws : List Row) : Prop where
  db : r.db = Database.storeOf os ss ws
  temporary : r.temporary = []
  enforceKeys : r.enforceKeys = true
  pendingKeys : r.pendingKeys = 0

/-- A session on the store's own connection: the store's tables with some rows, no temporary
trigger, and foreign keys enforced. -/
structure Session.OnStore (s : Session) (os ss ws : List Row) : Prop where
  db : s.db = Database.storeOf os ss ws
  temporary : s.temporary = []
  enforceKeys : s.enforceKeys = true

section OnStore

variable {r : Run} {active : List String} {os ss ws : List Row}

/-- A change on the store's connection starts on the store's layout, with nothing counted. -/
theorem Session.OnStore.start {s : Session} (h : s.OnStore os ss ws) : s.startRun.OnStore os ss ws :=
  ⟨h.db, h.temporary, h.enforceKeys, rfl⟩

theorem Session.OnStore.keep {s : Session} (h : s.OnStore os ss ws) {os' ss' ws' : List Row} {db : Database}
    (hdb : db = Database.storeOf os' ss' ws') (counters : Counters) :
    ({ s with db, counters } : Session).OnStore os' ss' ws' :=
  ⟨hdb, h.temporary, h.enforceKeys⟩

/-- The state with the store's rows replaced and `n` more changed rows counted. -/
def Run.stored (r : Run) (os ss ws : List Row) (n : Nat) : Run :=
  { r with db := Database.storeOf os ss ws, changes := r.changes + n }

theorem Run.stored_stored (r : Run) (os ss ws os' ss' ws' : List Row) (n m : Nat) :
    (r.stored os ss ws n).stored os' ss' ws' m = r.stored os' ss' ws' (n + m) := by
  simp [Run.stored, Nat.add_assoc]

theorem Run.OnStore.stored_self (h : r.OnStore os ss ws) : r.stored os ss ws 0 = r := by
  have hdb := h.db
  cases r
  simp_all [Run.stored]

theorem Run.OnStore.stored (h : r.OnStore os ss ws) (os' ss' ws' : List Row) (n : Nat) :
    (r.stored os' ss' ws' n).OnStore os' ss' ws' :=
  ⟨rfl, h.temporary, h.enforceKeys, h.pendingKeys⟩

theorem Run.OnStore.triggers (h : r.OnStore os ss ws) : r.db.triggers = [] := by
  rw [h.db]
  rfl

/-- A change on the store's connection that passes its checks and runs to its end on the store's
layout is kept, and the session is on the layout the run left. -/
theorem Session.OnStore.storeChange_of_runs {s : Session} {c : Change} {r : Run} {os' ss' ws' : List Row}
    (h : s.OnStore os ss ws) (hprep : (Database.storeOf os ss ws).prepare c = c)
    (hcheck : (Database.storeOf os ss ws).checkChange [] {} false c = .ok ())
    (hcompile : c.compileFault? false = none)
    (htrig : (Database.storeOf os ss ws).checkTriggers [] 64 [] c = .ok ())
    (hrun : Runs (runChange runFuel [] {} true c) s.startRun () r) (hr : r.OnStore os' ss' ws')
    (hwrite : c.event?.isSome) :
    ∃ s', s.storeChange c = .ok (s', ⟨r.changes, r.inserted⟩) ∧ s'.OnStore os' ss' ws' := by
  rw [← h.db] at hprep hcheck htrig
  rw [← h.temporary] at hcheck htrig
  exact ⟨_, storeChange_of_change (change_of_runs hprep hcheck hcompile htrig hrun hr.pendingKeys hwrite),
    h.keep hr.db _⟩

/-- Nothing refers to a waypoint, so nothing cascades from one. -/
theorem cascade_waypoint (h : r.OnStore os ss ws) (fuel : Nat) (row : Row) :
    Runs (cascade (fuel + 1) active (waypointsHolding ws') row) r () r := by
  rw [cascade]
  refine Runs.bind (runs_get r) ?_
  rw [h.db, waypointsHolding_name, referencesTo_waypoints, List.forIn_nil]
  exact Runs.bind (runs_pure r _) (runs_pure r ())

/-- A waypoint's row goes, and that is all: no reference to it is counted or cascades. -/
theorem dropRow_waypoint (h : r.OnStore os ss ws) (fuel : Nat) (row : Row) :
    Runs (dropRow (fuel + 2) active (waypointsHolding ws) row) r () (r.stored os ss (ws.filter (·.id != row.id)) 0) := by
  have hcount : r.db.childCount (waypointsHolding ws) row = 0 := by
    rw [h.db]
    simp [Database.childCount, referencesTo_waypoints]
  have hput : r.db.putTable ((waypointsHolding ws).withoutRow row.id) =
      Database.storeOf os ss (ws.filter (·.id != row.id)) := by
    rw [h.db]
    exact putTable_waypoints os ss ws _
  rw [dropRow]
  refine Runs.bind (runs_get r) ?_
  dsimp only
  rw [if_pos h.enforceKeys, if_pos h.enforceKeys]
  refine Runs.bind (releaseParents_runs h.pendingKeys _ _) (Runs.bind (runs_get r) ?_)
  rw [hcount]
  refine Runs.bind addPending_zero_runs (Runs.bind (storeTable_runs hput) ?_)
  exact cascade_waypoint (h.stored os ss _ 0) fuel row

theorem id_of_row? {t : Table} {id : Int} {row : Row} (h : t.row? id = some row) : row.id = id := by
  have := List.find?_some h
  simpa using this

/-- Deleting a waypoint by the id of one of its rows drops that row and counts one change. -/
theorem deleteRow_waypoint (h : r.OnStore os ss ws) (fuel : Nat) {id : Int} {row : Row}
    (hrow : (waypointsHolding ws).row? id = some row) :
    Runs (deleteRow (fuel + 3) active "obstacle_waypoints" id) r () (r.stored os ss (ws.filter (·.id != id)) 1) := by
  have ht : r.db.table? "obstacle_waypoints" = some (waypointsHolding ws) := by
    rw [h.db]
    exact table?_waypoints os ss ws
  have hid := id_of_row? hrow
  subst hid
  rw [deleteRow]
  refine Runs.bind (currentTable_runs ht) ?_
  simp only [hrow]
  refine Runs.bind (fireTriggers_runs ht h.temporary h.triggers fuel _ _ _ _) ?_
  rw [if_pos rfl]
  refine Runs.bind (currentTable_runs ht) ?_
  simp only [hrow]
  refine Runs.bind (dropRow_waypoint h fuel row) (Runs.bind countChange_runs ?_)
  refine Runs.bind (fireTriggers_runs (t := waypointsHolding (ws.filter (·.id != row.id))) ?_ ?_ ?_ fuel _ _ _ _)
    (runs_pure _ ())
  · exact table?_waypoints os ss _
  · exact h.temporary
  · rfl

/-- A trigger program's run that deletes nothing leaves the state as it was: it puts back the
counts it set aside and counted no change of its own. -/
theorem inProgram_deleteNone_runs (r : Run) (fuel : Nat) (name : String) :
    Runs (inProgram (do deleteEach (fuel + 1) active name []; settleChanges)) r () r := by
  have hnone : ∀ r', Runs (deleteEach (fuel + 1) active name []) r' () r' := fun r' =>
    runs_forM_nil (g := fun id => deleteRow fuel active name id) r'
  unfold inProgram
  refine Runs.bind (runs_get r) (Runs.bind (runs_modify r _) ?_)
  refine Runs.bind (Runs.bind (hnone _) (runs_modify _ _)) ?_
  exact Runs.bind (runs_modify _ _) (runs_pure _ ())

/-- Nothing cascades from an obstacle's row that no waypoint refers to. -/
theorem cascade_obstacle (h : r.OnStore os' ss ws) (fuel : Nat) {row : Row}
    (hnone : childRows (waypointsHolding ws) ownerKey (obstaclesHolding os) row = []) :
    Runs (cascade (fuel + 2) active (obstaclesHolding os) row) r () r := by
  rw [cascade]
  refine Runs.bind (runs_get r) ?_
  rw [h.db, obstaclesHolding_name, referencesTo_obstacles, List.forIn_cons]
  refine Runs.bind (Runs.bind (a := ForInStep.yield PUnit.unit) ?_ (runs_pure r _)) (runs_pure r ())
  dsimp only
  rw [hnone]
  exact Runs.bind (inProgram_deleteNone_runs r fuel _) (runs_pure r _)

/-- An obstacle's row that no waypoint refers to goes, and that is all. -/
theorem dropRow_obstacle (h : r.OnStore os ss ws) (fuel : Nat) {row : Row}
    (hnone : childRows (waypointsHolding ws) ownerKey (obstaclesHolding os) row = []) :
    Runs (dropRow (fuel + 3) active (obstaclesHolding os) row) r () (r.stored (os.filter (·.id != row.id)) ss ws 0) := by
  have hcount : r.db.childCount (obstaclesHolding os) row = 0 := by
    rw [h.db]
    simp [Database.childCount, referencesTo_obstacles, hnone]
  have hput : r.db.putTable ((obstaclesHolding os).withoutRow row.id) =
      Database.storeOf (os.filter (·.id != row.id)) ss ws := by
    rw [h.db]
    exact putTable_obstacles os ss ws _
  rw [dropRow]
  refine Runs.bind (runs_get r) ?_
  dsimp only
  rw [if_pos h.enforceKeys, if_pos h.enforceKeys]
  refine Runs.bind (releaseParents_runs h.pendingKeys _ _) (Runs.bind (runs_get r) ?_)
  rw [hcount]
  refine Runs.bind addPending_zero_runs (Runs.bind (storeTable_runs hput) ?_)
  exact cascade_obstacle (h.stored _ ss ws 0) fuel hnone

/-- Deleting an obstacle by the id of its row, when no waypoint refers to it, drops that row
and counts one change. -/
theorem deleteRow_obstacle (h : r.OnStore os ss ws) (fuel : Nat) {id : Int} {row : Row}
    (hrow : (obstaclesHolding os).row? id = some row)
    (hnone : childRows (waypointsHolding ws) ownerKey (obstaclesHolding os) row = []) :
    Runs (deleteRow (fuel + 4) active "moving_obstacles" id) r () (r.stored (os.filter (·.id != id)) ss ws 1) := by
  have ht : r.db.table? "moving_obstacles" = some (obstaclesHolding os) := by
    rw [h.db]
    exact table?_obstacles os ss ws
  have hid := id_of_row? hrow
  subst hid
  rw [deleteRow]
  refine Runs.bind (currentTable_runs ht) ?_
  simp only [hrow]
  refine Runs.bind (fireTriggers_runs ht h.temporary h.triggers (fuel + 1) _ _ _ _) ?_
  rw [if_pos rfl]
  refine Runs.bind (currentTable_runs ht) ?_
  simp only [hrow]
  refine Runs.bind (dropRow_obstacle h fuel hnone) (Runs.bind countChange_runs ?_)
  refine Runs.bind (fireTriggers_runs (t := obstaclesHolding (os.filter (·.id != row.id))) ?_ ?_ ?_ (fuel + 1)
    _ _ _ _) (runs_pure _ ())
  · exact table?_obstacles _ ss ws
  · exact h.temporary
  · rfl

/-- Deleting, in table order, the rows a condition picks from the rows after some it keeps, when
deleting any one picked row drops just that row and counts one change: the picked rows go, with
one change counted for each. The induction runs over the rows still to be looked at, moving each
row the condition leaves into the kept part. -/
theorem forM_delete_of_step (del : Int → Exec Unit) (st : List Row → Nat → Run) (p : Row → Bool)
    (keep ws : List Row)
    (hstep : ∀ keep w rest n, w ∈ ws → p w = true → (keep ++ w :: rest).Pairwise (·.id < ·.id) →
      Runs (del w.id) (st (keep ++ w :: rest) n) () (st (keep ++ rest) (n + 1)))
    (hord : (keep ++ ws).Pairwise (·.id < ·.id)) (n : Nat) :
    Runs (((ws.filter p).map (·.id)).forM del) (st (keep ++ ws) n) ()
      (st (keep ++ ws.filter (!p ·)) (n + (ws.filter p).length)) := by
  induction ws generalizing keep n with
  | nil =>
    simp only [List.filter_nil, List.map_nil, List.length_nil, Nat.add_zero]
    exact runs_forM_nil _
  | cons w ws ih =>
    have htail : ∀ keep v rest n, v ∈ ws → p v = true → (keep ++ v :: rest).Pairwise (·.id < ·.id) →
        Runs (del v.id) (st (keep ++ v :: rest) n) () (st (keep ++ rest) (n + 1)) :=
      fun keep v rest n hv => hstep keep v rest n (List.mem_cons_of_mem w hv)
    by_cases hp : p w
    · have hdel := hstep keep w ws n List.mem_cons_self hp hord
      have hrest := ih keep htail (hord.sublist (by simp)) (n + 1)
      simp only [List.filter_cons_of_pos hp, List.map_cons, List.length_cons, hp, Bool.not_true,
        Bool.false_eq_true, not_false_eq_true, List.filter_cons_of_neg]
      rw [Nat.add_comm _ 1, ← Nat.add_assoc]
      exact runs_forM_cons hdel hrest
    · have hrest := ih (keep ++ [w]) htail (by simpa using hord) n
      simp only [List.filter_cons_of_neg hp, List.filter_cons_of_pos (p := fun x => !p x) (by simpa using hp)]
      simpa using hrest

/-- Deleting one waypoint of a table whose rows go up by id drops just that row. -/
theorem deleteRow_waypoint_step (h : r.OnStore os ss ws) (fuel : Nat) (keep : List Row) (w : Row)
    (rest : List Row) (n : Nat) (hord : (keep ++ w :: rest).Pairwise (·.id < ·.id)) :
    Runs (deleteRow (fuel + 3) active "obstacle_waypoints" w.id) (r.stored os ss (keep ++ w :: rest) n) ()
      (r.stored os ss (keep ++ rest) (n + 1)) := by
  have hdel : Runs (deleteRow (fuel + 3) active "obstacle_waypoints" w.id) _ () _ :=
    deleteRow_waypoint (h.stored os ss _ n) fuel (find?_id_of_pairwise (w := w) hord (by simp))
  rw [filter_id_ne_of_pairwise hord, Run.stored_stored] at hdel
  exact hdel

/-- The waypoints that refer to an obstacle's row are those whose owner is its id. -/
theorem childRows_ownerKey (pts : List StoredPoint) (os : List Row) {row : Row} (h0 : row.get 0 = .integer row.id) :
    childRows (waypointsHolding (pts.map StoredPoint.row)) ownerKey (obstaclesHolding os) row =
      (pts.filter (·.owner == row.id)).map StoredPoint.row := by
  have hparent : (obstaclesHolding os).valuesOf row ownerKey.parentKey = [.integer row.id] := by
    simp [Table.valuesOf, ForeignKey.parentKey, ownerKey, obstaclesHolding_columnIndex_id, h0]
  have hchild : ∀ p : StoredPoint,
      (waypointsHolding (pts.map StoredPoint.row)).valuesOf p.row ownerKey.columns = [.integer p.owner] := by
    intro p
    simp [Table.valuesOf, ownerKey, waypointsHolding_columnIndex_owner]
  simp only [childRows, hparent, List.any_cons, Cell.isNull, List.any_nil, Bool.or_false, Bool.false_eq_true,
    if_false, waypointsHolding_rows, List.filter_map]
  congr 1
  apply List.filter_congr
  intro p _
  simp [hchild, Cell.isNull, compareUnder_integer (show some Affinity.numeric ≠ some .text by decide),
    compare_beq_eq_int]

/-- Deleting one obstacle that no waypoint refers to, from a table whose rows go up by id, drops
just that row. -/
theorem deleteRow_obstacle_step {pts : List StoredPoint} (h : r.OnStore os ss (pts.map StoredPoint.row)) (fuel : Nat)
    {key : Int} (hfree : ∀ p ∈ pts, p.owner ≠ key) (keep : List Row) (w : Row) (rest : List Row) (n : Nat)
    (hw0 : w.get 0 = .integer w.id) (hwk : w.id = key) (hord : (keep ++ w :: rest).Pairwise (·.id < ·.id)) :
    Runs (deleteRow (fuel + 4) active "moving_obstacles" w.id)
      (r.stored (keep ++ w :: rest) ss (pts.map StoredPoint.row) n) ()
      (r.stored (keep ++ rest) ss (pts.map StoredPoint.row) (n + 1)) := by
  have hnone : childRows (waypointsHolding (pts.map StoredPoint.row)) ownerKey
      (obstaclesHolding (keep ++ w :: rest)) w = [] := by
    rw [childRows_ownerKey _ _ hw0, List.map_eq_nil_iff, List.filter_eq_nil_iff]
    intro p hp
    simpa [hwk] using hfree p hp
  have hdel : Runs (deleteRow (fuel + 4) active "moving_obstacles" w.id) _ () _ :=
    deleteRow_obstacle (h.stored _ ss _ n) fuel (find?_id_of_pairwise (w := w) hord (by simp)) hnone
  rw [filter_id_ne_of_pairwise hord, Run.stored_stored] at hdel
  exact hdel

/-- `DELETE FROM obstacle_waypoints WHERE obstacle_id = key`: the waypoints of that owner go, one
change counted for each. -/
theorem deleteFrom_waypoints {pts : List StoredPoint} (h : r.OnStore os ss (pts.map StoredPoint.row))
    (hord : (pts.map StoredPoint.row).Pairwise (·.id < ·.id)) (fuel : Nat) (key : Int) :
    Runs (deleteFrom (fuel + 5) active {}
        (.delete (storeTarget "obstacle_waypoints") (some (columnIs "obstacle_id" key))))
      r () (r.stored os ss ((pts.filter (·.owner != key)).map StoredPoint.row) (pts.filter (·.owner == key)).length) := by
  have ht : r.db.table? "obstacle_waypoints" = some (waypointsHolding (pts.map StoredPoint.row)) := by
    rw [h.db]
    exact table?_waypoints os ss _
  have hval : ∀ row ∈ (waypointsHolding (pts.map StoredPoint.row)).rows,
      row.get 1 = .integer (row.get 1).intValue := by
    intro row hrow
    obtain ⟨p, -, rfl⟩ := List.mem_map.mp hrow
    rfl
  rw [deleteFrom]
  refine Runs.bind (currentTable_runs ht) (Runs.bind (selectIds_columnIs r
    (waypointsHolding_columnIndex_owner _) (waypointsHolding_affinity_owner _) (waypointsHolding_collation _) _
    hval key) ?_)
  have hrun := forM_delete_of_step (deleteRow (fuel + 3) active "obstacle_waypoints")
    (fun rows n => r.stored os ss rows n) (fun row => (row.get 1).intValue == key) [] _
    (fun keep w rest n _ _ hord => deleteRow_waypoint_step h fuel keep w rest n hord) hord 0
  simp only [List.nil_append, h.stored_self, Nat.zero_add] at hrun
  rw [deleteEach]
  simp only [waypointsHolding_name, waypointsHolding_rows, List.filter_map]
  simpa [List.filter_map, Function.comp_def, bne] using hrun

/-- `DELETE FROM moving_obstacles WHERE id = key`, once no waypoint refers to `key`: the obstacle
of that id goes, if there is one, with one change counted. -/
theorem deleteFrom_obstacles {pts : List StoredPoint} (h : r.OnStore os ss (pts.map StoredPoint.row))
    (hord : os.Pairwise (·.id < ·.id)) (hkey : ∀ row ∈ os, row.get 0 = .integer row.id) {key : Int}
    (hfree : ∀ p ∈ pts, p.owner ≠ key) (fuel : Nat) :
    Runs (deleteFrom (fuel + 6) active {} (.delete (storeTarget "moving_obstacles") (some (columnIs "id" key))))
      r () (r.stored (os.filter (·.id != key)) ss (pts.map StoredPoint.row) (os.filter (·.id == key)).length) := by
  have ht : r.db.table? "moving_obstacles" = some (obstaclesHolding os) := by
    rw [h.db]
    exact table?_obstacles os ss _
  rw [deleteFrom]
  refine Runs.bind (currentTable_runs ht) (Runs.bind (selectIds_columnIs r
    (obstaclesHolding_columnIndex_id _) (obstaclesHolding_affinity_id _) (obstaclesHolding_collation _) _
    hkey key) ?_)
  have hrun := forM_delete_of_step (deleteRow (fuel + 4) active "moving_obstacles")
    (fun rows n => r.stored rows ss (pts.map StoredPoint.row) n) (fun row => row.id == key) [] os
    (fun keep w rest n hw hp hord =>
      deleteRow_obstacle_step h fuel hfree keep w rest n (hkey w hw) (by simpa using hp) hord) hord 0
  simp only [List.nil_append, h.stored_self, Nat.zero_add] at hrun
  rw [deleteEach]
  simpa [bne] using hrun

/-- A `DELETE` from a stored table runs as the table's `DELETE` does. -/
theorem runChange_delete {r' : Run} {scope : Scope} {top : Bool} {target : Target} {cond : Option Expr}
    (fuel : Nat) (hview : r.db.viewTarget? target.name = none)
    (hdel : Runs (deleteFrom fuel active scope (.delete target cond)) r () r') :
    Runs (runChange (fuel + 1) active scope top (.delete target cond)) r () r' := by
  rw [runChange]
  refine Runs.bind (runs_get r) ?_
  simp only [hview]
  exact hdel

end OnStore

end Airspace.Store
