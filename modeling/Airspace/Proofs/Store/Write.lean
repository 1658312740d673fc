import Airspace.Proofs.Store.Read
import Airspace.Proofs.Store.Insert

/-!
# The store's writes on a catalogue

The store's own database runs each write of a transaction as statements: a delete of an id's
waypoint rows; a delete of its obstacle row, which counts it; and a create, which inserts the
obstacle row, under the definition's id or under the one the sequence table gives next, and then the
waypoint rows, numbered on from the waypoint counter. A transaction holds some entries
(`Session.Holds`) when its tables hold a catalogue with them.

On such a transaction each write does to the entries what the store's contract says: the deletes
clear an id's waypoints and drop its entry (`Session.Holds.deletePoints`,
`Session.Holds.deleteObstacle`), and a create that succeeds puts the definition under the id it
gives, or under the one after the largest used (`Session.Holds.create_given`,
`Session.Holds.create_new`). A create can fail: an id whose signed 64-bit form is negative does not
read back as unsigned, and the counters run out at the largest signed 64-bit integer.
-/

namespace Airspace.Store

open Airspace.Obstacle Airspace.Geo

/-- A transaction the store starts on a database of its layout is on its tables. -/
theorem Session.onStore_storeOf (os ss ws : List Row) :
    ({ db := Database.storeOf os ss ws, enforceKeys := true } : Session).OnStore os ss ws :=
  ⟨rfl, rfl, rfl⟩

/-- A transaction on tables that hold a catalogue with the entries `es`. -/
def Session.Holds (tx : Session) (es : List Definition) : Prop :=
  ∃ (c : Catalog) (pts : List StoredPoint), c.entries = es ∧ c.Stores pts ∧
    tx.OnStore (es.map Definition.row) (sequenceRows c.lastObstacle c.lastPoint) (pts.map StoredPoint.row)

namespace Catalog.Stores

variable {c : Catalog} {pts : List StoredPoint}

/-- After a save under a positive id, the catalogue with the definition put there is stored by the
waypoint rows of the other ids and the definition's waypoints numbered on from the last id used. A
kept row belongs to an entry of another id, which `put` keeps; the definition's rows are the
numbered ones; and another entry keeps its rows, none of the numbered ones being its. -/
theorem saved (hs : c.Stores pts) {d : Definition} (hpos : 0 < d.id) (hid : (d.id : Int) ≤ largestInt)
    (hfit : ((c.lastPoint + d.waypoints.length : Nat) : Int) ≤ largestInt) :
    Catalog.Stores { entries := put d c.entries, lastObstacle := max c.lastObstacle d.id,
                     lastPoint := c.lastPoint + d.waypoints.length }
      (pts.filter (·.owner != (d.id : Int)) ++ numbered c.lastPoint d.id d.waypoints) where
  sorted := pairwise_put hs.sorted
  pos := by
    intro e he
    rcases mem_put hs.sorted he with rfl | ⟨he, -⟩
    · exact hpos
    · exact hs.pos e he
  below := by
    intro e he
    rcases mem_put hs.sorted he with rfl | ⟨he, -⟩
    · exact Nat.le_max_right _ _
    · exact le_trans (hs.below e he) (Nat.le_max_left _ _)
  lastObstacle_le := by
    have := hs.lastObstacle_le
    simp only [Nat.cast_max]
    omega
  pointsSorted := by
    refine List.pairwise_append.mpr ⟨hs.pointsSorted.filter _, numbered_sorted _ _, fun p hp q hq => ?_⟩
    have := hs.pointsBelow p (List.mem_filter.mp hp).1
    have := (mem_numbered hq).2.1
    omega
  pointsPos := by
    intro p hp
    rcases List.mem_append.mp hp with hp | hp
    · exact hs.pointsPos p (List.mem_filter.mp hp).1
    · have := (mem_numbered hp).2.1
      omega
  pointsBelow := by
    intro p hp
    rcases List.mem_append.mp hp with hp | hp
    · have := hs.pointsBelow p (List.mem_filter.mp hp).1
      simp only [Nat.cast_add]
      omega
    · exact (mem_numbered hp).2.2
  lastPoint_le := hfit
  started := fun _ => by
    show max c.lastObstacle d.id ≠ 0
    omega
  owned := by
    intro p hp
    rcases List.mem_append.mp hp with hp | hp
    · obtain ⟨hp, hne⟩ := List.mem_filter.mp hp
      obtain ⟨e, he, ho⟩ := hs.owned p hp
      refine ⟨e, mem_put_of_ne he ?_, ho⟩
      simp only [bne_iff_ne, ne_eq] at hne
      omega
    · exact ⟨d, mem_put_self d c.entries, (mem_numbered hp).1⟩
  points := by
    intro e he
    rcases mem_put hs.sorted he with rfl | ⟨he, hne⟩
    · have hnone : (pts.filter (·.owner != (e.id : Int))).filter (·.owner == (e.id : Int)) = [] := by
        rw [List.filter_filter, List.filter_eq_nil_iff]
        intro p _
        simp
      have hall : (numbered c.lastPoint e.id e.waypoints).filter (·.owner == (e.id : Int)) =
          numbered c.lastPoint e.id e.waypoints := by
        rw [List.filter_eq_self]
        intro p hp
        simp [(mem_numbered hp).1]
      rw [List.filter_append, hnone, hall, List.nil_append, numbered_points]
    · have hkept : (pts.filter (·.owner != (d.id : Int))).filter (·.owner == (e.id : Int)) =
          pts.filter (·.owner == (e.id : Int)) := by
        rw [List.filter_filter]
        apply List.filter_congr
        intro p _
        by_cases ho : p.owner = e.id
        · simp [ho]
          omega
        · simp [ho]
      have hnone : (numbered c.lastPoint d.id d.waypoints).filter (·.owner == (e.id : Int)) = [] := by
        rw [List.filter_eq_nil_iff]
        intro p hp
        simp [(mem_numbered hp).1]
        omega
      rw [List.filter_append, hkept, hnone, List.append_nil, hs.points e he]


theorem rowsSorted (hs : c.Stores pts) : (c.entries.map Definition.row).Pairwise (·.id < ·.id) :=
  List.pairwise_map.mpr (hs.sorted.imp fun h => by simpa [Definition.row] using h)

theorem pointRowsSorted (hs : c.Stores pts) : (pts.map StoredPoint.row).Pairwise (·.id < ·.id) :=
  List.pairwise_map.mpr (by simpa using hs.pointsSorted)

theorem rowsBelow (hs : c.Stores pts) : ∀ row ∈ c.entries.map Definition.row, row.id ≤ c.lastObstacle := by
  intro row hrow
  obtain ⟨e, he, rfl⟩ := List.mem_map.mp hrow
  have := hs.below e he
  simp only [Definition.row, obstacleRow_id]
  omega

/-- An entry's id is the signed form of an unsigned 64-bit id exactly when it is that id. -/
theorem id_eq_signed_iff (hs : c.Stores pts) {e : Definition} (he : e ∈ c.entries) {k : Nat} (hk : k < 2 ^ 64) :
    (e.id : Int) = signed k ↔ e.id = k :=
  eq_signed_iff (hs.id_lt he) hk

/-- A waypoint row's owner is the signed form of an unsigned 64-bit id exactly when it is that id. -/
theorem owner_eq_signed_iff (hs : c.Stores pts) {p : StoredPoint} (hp : p ∈ pts) {k : Nat} (hk : k < 2 ^ 64) :
    p.owner = signed k ↔ p.owner = k := by
  obtain ⟨e, he, ho⟩ := hs.owned p hp
  rw [ho, hs.id_eq_signed_iff he hk, Nat.cast_inj]

/-- Filtering the obstacle rows by how their ids compare with the signed form of an unsigned 64-bit
id is filtering the entries by how theirs compare with the id. -/
theorem filter_rows_signed (hs : c.Stores pts) {k : Nat} (hk : k < 2 ^ 64) (f : Bool → Bool) :
    (c.entries.map Definition.row).filter (fun r => f (r.id == signed k)) =
      (c.entries.filter fun e => f (e.id == k)).map Definition.row := by
  rw [List.filter_map]
  congr 1
  refine List.filter_congr fun e he => ?_
  have hsame : ((e.id : Int) == signed k) = (e.id == k) := by
    simp only [beq_eq_beq]
    exact hs.id_eq_signed_iff he hk
  simp only [Function.comp, Definition.row, obstacleRow_id, hsame]

/-- An entry with no waypoints owns no waypoint row. -/
theorem unowned (hs : c.Stores pts) {e : Definition} (he : e ∈ c.entries) (hnone : e.waypoints = []) :
    ∀ p ∈ pts, p.owner ≠ e.id := by
  intro p hp hown
  have hmem : p.point ∈ (pts.filter (·.owner == (e.id : Int))).map (·.point) :=
    List.mem_map_of_mem (List.mem_filter.mpr ⟨hp, by simp [hown]⟩)
  rw [hs.points e he, hnone] at hmem
  cases hmem

/-- An id that no entry has owns no waypoint row. -/
theorem filter_absent (hs : c.Stores pts) {key : Int} (habsent : ∀ e ∈ c.entries, (e.id : Int) ≠ key) :
    pts.filter (·.owner != key) = pts := by
  rw [List.filter_eq_self]
  intro p hp
  obtain ⟨e, he, ho⟩ := hs.owned p hp
  simpa [ho] using habsent e he

/-- After the waypoint rows of an id go, the catalogue with that entry's waypoints cleared is stored
by the other rows. -/
theorem cleared (hs : c.Stores pts) {k : Nat} (hk : k < 2 ^ 64) :
    Catalog.Stores { c with entries := Catalog.clear k c.entries } (pts.filter (·.owner != signed k)) where
  sorted := List.pairwise_map.mpr (hs.sorted.imp fun {a b} h => by split <;> split <;> exact h)
  pos := by
    intro x hx
    obtain ⟨e, he, rfl⟩ := List.mem_map.mp hx
    split <;> exact hs.pos e he
  below := by
    intro x hx
    obtain ⟨e, he, rfl⟩ := List.mem_map.mp hx
    split <;> exact hs.below e he
  lastObstacle_le := hs.lastObstacle_le
  pointsSorted := hs.pointsSorted.filter _
  pointsPos := fun p hp => hs.pointsPos p (List.mem_filter.mp hp).1
  pointsBelow := fun p hp => hs.pointsBelow p (List.mem_filter.mp hp).1
  lastPoint_le := hs.lastPoint_le
  started := hs.started
  owned := by
    intro p hp
    obtain ⟨e, he, ho⟩ := hs.owned p (List.mem_filter.mp hp).1
    obtain ⟨x, hx, hxid⟩ := Catalog.exists_id_clear.mpr ⟨e, he, rfl⟩
    exact ⟨x, hx, by rw [ho, hxid]⟩
  points := by
    intro x hx
    obtain ⟨e, he, rfl⟩ := List.mem_map.mp hx
    rw [List.filter_filter]
    by_cases hek : e.id = k
    · have hkey : (e.id : Int) = signed k := (hs.id_eq_signed_iff he hk).mpr hek
      rw [hek] at hkey
      simp [hek, hkey]
    · have hkey : (e.id : Int) ≠ signed k := fun h => hek ((hs.id_eq_signed_iff he hk).mp h)
      simp only [hek, if_false]
      rw [← hs.points e he]
      congr 1
      apply List.filter_congr
      intro p _
      by_cases ho : p.owner = e.id
      · simp [ho, hkey]
      · simp [ho]

/-- Once no waypoint row belongs to an id, the catalogue without its entry is stored by the same
rows. -/
theorem dropped (hs : c.Stores pts) {k : Nat} (hfree : ∀ p ∈ pts, p.owner ≠ k) :
    Catalog.Stores { c with entries := Catalog.drop k c.entries } pts where
  sorted := hs.sorted.filter _
  pos := fun e he => hs.pos e (List.mem_filter.mp he).1
  below := fun e he => hs.below e (List.mem_filter.mp he).1
  lastObstacle_le := hs.lastObstacle_le
  pointsSorted := hs.pointsSorted
  pointsPos := hs.pointsPos
  pointsBelow := hs.pointsBelow
  lastPoint_le := hs.lastPoint_le
  started := hs.started
  owned := by
    intro p hp
    obtain ⟨e, he, ho⟩ := hs.owned p hp
    refine ⟨e, List.mem_filter.mpr ⟨he, ?_⟩, ho⟩
    have := hfree p hp
    simp only [bne_iff_ne, ne_eq]
    omega
  points := fun e he => hs.points e (List.mem_filter.mp he).1

end Catalog.Stores

/-! ## The statements of a create -/

section Create

variable {s s₁ s₂ : Session} {os ss : List Row} {pts : List StoredPoint} {a b : Nat} {d : Definition}

/-- A create's obstacle insert, as a statement of values. -/
theorem Session.insertObstacle_eq (s : Session) (key : Int) (d : Definition) :
    s.insertObstacle key d =
      s.storeChange (valuesInsert "moving_obstacles" (obstacleColumns key) [obstacleValues key d.name d.speed d.radius]) := by
  by_cases hk : key = 0
  · subst hk
    simp [Session.insertObstacle, valuesInsert, obstacleColumns, obstacleValues, obstacleCells]
  · simp [Session.insertObstacle, valuesInsert, obstacleColumns, obstacleValues, obstacleCells, hk]

/-- A create's waypoint insert, as a statement of values, when there are waypoints. -/
theorem Session.insertPoints_eq (s : Session) (owner : Int) {ws : List (Waypoint Float)} (hw : ws ≠ []) :
    s.insertPoints owner ws =
      (s.storeChange (valuesInsert "obstacle_waypoints" pointColumns (ws.map (pointCells owner)))).map Prod.fst := by
  have hvalues : valuesInsert "obstacle_waypoints" pointColumns (ws.map (pointCells owner)) =
      .insert .abort (storeTarget "obstacle_waypoints")
        (some ["obstacle_id", "order", "latitude", "longitude", "altitude_msl"]) (.values (ws.map (waypointValues owner))) [] := by
    simp only [valuesInsert, pointColumns, List.map_map]
    rfl
  have hne : ws.isEmpty = false := by simpa using hw
  rw [hvalues]
  unfold Session.insertPoints
  rw [hne]
  cases s.storeChange _ <;> rfl

/-- A create whose obstacle row went in and gave back `key`: refused when `key` is negative, and
otherwise the waypoint rows go in under it. -/
theorem Session.create_of_inserted (h : s.insertObstacle (signed d.id) d = .ok (s₁, ⟨1, [key]⟩)) :
    s.create d = if key < 0 then .error (.scan ⟨0, "id", .integer key, "uint", .malformed⟩)
      else (s₁.insertPoints key d.waypoints).map (·, key.toNat) := by
  unfold Session.create
  simp only [h, bind, Except.bind, List.headD_cons]
  by_cases hneg : key < 0
  · simp only [hneg, if_true]
    rfl
  · simp only [hneg, if_false]
    cases s₁.insertPoints key d.waypoints <;> rfl

/-- A create that succeeds once its obstacle row went in and gave back `key`: `key` is not negative,
the waypoint rows went in under it, and it is the id given. -/
theorem Session.create_ok_of_inserted {id : Nat} (h : s.insertObstacle (signed d.id) d = .ok (s₁, ⟨1, [key]⟩))
    (hc : s.create d = .ok (s₂, id)) : 0 ≤ key ∧ s₁.insertPoints key d.waypoints = .ok s₂ ∧ id = key.toNat := by
  rw [Session.create_of_inserted h] at hc
  by_cases hneg : key < 0
  · rw [if_pos hneg] at hc
    cases hc
  rw [if_neg hneg] at hc
  cases hp : s₁.insertPoints key d.waypoints with
  | error e => rw [hp] at hc; cases hc
  | ok s' =>
    rw [hp] at hc
    simp only [Except.map, Except.ok.injEq, Prod.mk.injEq] at hc
    obtain ⟨rfl, rfl⟩ := hc
    exact ⟨by omega, rfl, rfl⟩

/-- A create whose obstacle insert fails fails with it. -/
theorem Session.create_of_refused {e : Cause} (h : s.insertObstacle (signed d.id) d = .error e) :
    s.create d = .error e := by
  unfold Session.create
  simp only [h, bind, Except.bind]

/-- The waypoint rows of an obstacle in the table go in, numbered on from the waypoint counter,
when their ids fit. -/
theorem Session.OnStore.insertPoints_ok (h : s.OnStore os (sequenceRows a b) (pts.map StoredPoint.row)) (ha : a ≠ 0)
    (hbelow : ∀ p ∈ pts, p.id ≤ b) {owner : Int} (hparent : ((obstaclesHolding os).row? owner).isSome)
    (ws : List (Waypoint Float)) (hfit : ((b + ws.length : Nat) : Int) ≤ largestInt) :
    ∃ s', s.insertPoints owner ws = .ok s' ∧
      s'.OnStore os (sequenceRows a (b + ws.length)) ((pts ++ numbered b owner ws).map StoredPoint.row) := by
  by_cases hw : ws = []
  · subst hw
    exact ⟨s, rfl, by simpa [numbered] using h⟩
  · obtain ⟨s', o, hins, h'⟩ := h.insertPoints ha hbelow hparent ws hfit
    exact ⟨s', by rw [Session.insertPoints_eq s owner hw, hins]; rfl, h'⟩

/-- Waypoint rows whose ids would run past the largest find the database full. -/
theorem Session.OnStore.insertPoints_full (h : s.OnStore os (sequenceRows a b) (pts.map StoredPoint.row))
    (ha : a ≠ 0) (hbelow : ∀ p ∈ pts, p.id ≤ b) {owner : Int} (hparent : ((obstaclesHolding os).row? owner).isSome)
    (ws : List (Waypoint Float)) (hlast : (b : Int) ≤ largestInt)
    (hfull : largestInt < ((b + ws.length : Nat) : Int)) :
    s.insertPoints owner ws = .error Fault.full.cause := by
  have hw : ws ≠ [] := by
    rintro rfl
    simp only [List.length_nil, Nat.add_zero] at hfull
    omega
  rw [Session.insertPoints_eq s owner hw, h.insertPointsFull ha hbelow hparent ws hlast hfull]
  rfl

/-- Once a definition's obstacle row is in under its id, which is positive, fits and no entry had,
and its waypoint rows go in: the transaction holds the entries with the definition put there. -/
theorem Catalog.Stores.holds_put {c : Catalog} (hs : c.Stores pts) (hfresh : ∀ e ∈ c.entries, e.id ≠ d.id)
    (hpos : 0 < d.id) (hid : (d.id : Int) ≤ largestInt)
    (h₁ : s₁.OnStore (insertById (Definition.row d) (c.entries.map Definition.row))
      (sequenceRows (max c.lastObstacle d.id) c.lastPoint) (pts.map StoredPoint.row))
    (hp : s₁.insertPoints d.id d.waypoints = .ok s₂) : s₂.Holds (Catalog.put d c.entries) := by
  have hkept : pts.filter (·.owner != (d.id : Int)) = pts :=
    hs.filter_absent fun e he h => hfresh e he (by exact_mod_cast h)
  have hparent : ((obstaclesHolding (insertById (Definition.row d) (c.entries.map Definition.row))).row?
      (d.id : Int)).isSome := row?_insertById_self _ _
  have hbelow : ∀ p ∈ pts, p.id ≤ c.lastPoint := hs.pointsBelow
  by_cases hfit : ((c.lastPoint + d.waypoints.length : Nat) : Int) ≤ largestInt
  · obtain ⟨s', hp', h₂⟩ := h₁.insertPoints_ok (by omega) hbelow hparent d.waypoints hfit
    rw [hp, Except.ok.injEq] at hp'
    subst hp'
    have hstores := hs.saved hpos hid hfit
    rw [hkept] at hstores
    refine ⟨_, _, rfl, hstores, ?_⟩
    rw [Catalog.map_put]
    exact h₂
  · have := h₁.insertPoints_full (by omega) hbelow hparent d.waypoints hs.lastPoint_le (by omega)
    rw [hp] at this
    cases this

end Create

/-! ## Each write on a transaction that holds entries -/

section Writes

variable {tx tx' : Session} {es : List Definition} {k : Nat} {d : Definition} {id : Nat}

/-- Deleting the waypoints of an id leaves its entry with none. -/
theorem Session.Holds.deletePoints (h : tx.Holds es) (hk : k < 2 ^ 64) :
    ∃ tx', tx.deletePoints k = .ok tx' ∧ tx'.Holds (Catalog.clear k es) := by
  obtain ⟨c, pts, rfl, hs, hon⟩ := h
  obtain ⟨tx', hdel, hon'⟩ := hon.deletePoints hs.pointRowsSorted (signed k)
  refine ⟨tx', by simp [Session.deletePoints, hdel, bind, Except.bind, pure, Except.pure], ?_⟩
  refine ⟨_, _, rfl, hs.cleared hk, ?_⟩
  rw [Catalog.map_row_clear]
  exact hon'

/-- Deleting an obstacle with no waypoints left takes its entry out and counts it. -/
theorem Session.Holds.deleteObstacle (h : tx.Holds es) (hk : k < 2 ^ 64)
    (hnone : ∀ e ∈ es, e.id = k → e.waypoints = []) :
    ∃ tx', tx.deleteObstacle k = .ok (tx', (es.filter (·.id == k)).length) ∧ tx'.Holds (Catalog.drop k es) := by
  obtain ⟨c, pts, rfl, hs, hon⟩ := h
  have hunowned : ∀ p ∈ pts, p.owner ≠ (k : Int) := by
    intro p hp hown
    obtain ⟨e, he, ho⟩ := hs.owned p hp
    exact hs.unowned he (hnone e he (by omega)) p hp ho
  have hfree : ∀ p ∈ pts, p.owner ≠ signed k := fun p hp =>
    (hs.owner_eq_signed_iff hp hk).not.mpr (hunowned p hp)
  obtain ⟨tx', hdel, hon'⟩ := hon.deleteObstacle hs.rowsSorted (Catalog.row_keys _) hfree
  have hgone : (c.entries.map Definition.row).filter (·.id == signed k) =
      (c.entries.filter (·.id == k)).map Definition.row := hs.filter_rows_signed hk id
  have hkept : (c.entries.map Definition.row).filter (·.id != signed k) =
      (Catalog.drop k c.entries).map Definition.row := hs.filter_rows_signed hk not
  refine ⟨tx', by simp [Session.deleteObstacle, hdel, hgone, bind, Except.bind, pure, Except.pure], ?_⟩
  refine ⟨_, _, rfl, hs.dropped hunowned, ?_⟩
  rw [← hkept]
  exact hon'

/-- A definition with no id, once created, is under the id after the largest the obstacle table has
used, which is above every entry's. -/
theorem Session.Holds.create_new (h : tx.Holds es) (hd : d.id = 0) (hc : tx.create d = .ok (tx', id)) :
    0 < id ∧ (∀ e ∈ es, e.id < id) ∧ tx'.Holds (Catalog.put { d with id } es) := by
  obtain ⟨c, pts, rfl, hs, hon⟩ := h
  have hkey : signed d.id = 0 := by rw [hd]; rfl
  by_cases hroom : (c.lastObstacle : Int) < largestInt
  · obtain ⟨s₁, hins, h₁⟩ := hon.insertObstacleNew (fun hb => hs.started hb) hs.rowsBelow hroom d.name d.speed d.radius
    rw [← hkey, ← Session.insertObstacle_eq] at hins
    obtain ⟨-, hp, rfl⟩ := Session.create_ok_of_inserted hins hc
    have hid : ((c.lastObstacle : Int) + 1).toNat = c.lastObstacle + 1 := by omega
    rw [hid]
    refine ⟨by omega, fun e he => Nat.lt_succ_of_le (hs.below e he), ?_⟩
    have hfresh : ∀ e ∈ c.entries, e.id ≠ ({ d with id := c.lastObstacle + 1 } : Definition).id :=
      fun e he => by have := hs.below e he; simp only; omega
    refine hs.holds_put hfresh (by simp) (by simp only; omega) ?_ (by simpa using hp)
    rw [show max c.lastObstacle (c.lastObstacle + 1) = c.lastObstacle + 1 by omega]
    simpa [Definition.row] using h₁
  · have hrefused := hon.insertObstacleFull (by omega) d.name d.speed d.radius
    rw [← hkey, ← Session.insertObstacle_eq] at hrefused
    rw [Session.create_of_refused hrefused] at hc
    cases hc

/-- A definition with an id that no entry has, once created, is under that id. -/
theorem Session.Holds.create_given (h : tx.Holds es) (hd : d.id ≠ 0) (hk : d.id < 2 ^ 64)
    (hfresh : ∀ e ∈ es, e.id ≠ d.id) (hc : tx.create d = .ok (tx', id)) :
    id = d.id ∧ tx'.Holds (Catalog.put d es) := by
  obtain ⟨c, pts, rfl, hs, hon⟩ := h
  have hkey0 : signed d.id ≠ 0 := by
    intro h0
    have := lt_of_signed_nonneg hk (by omega)
    rw [signed_of_lt this] at h0
    omega
  have habsent : ∀ e ∈ c.entries, (e.id : Int) ≠ signed d.id :=
    fun e he h => hfresh e he ((hs.id_eq_signed_iff he hk).mp h)
  have hfree : (obstaclesHolding (c.entries.map Definition.row)).row? (signed d.id) = none := by
    apply Table.row?_eq_none
    intro row hrow
    obtain ⟨e, he, rfl⟩ := List.mem_map.mp hrow
    simpa [Definition.row] using habsent e he
  obtain ⟨s₁, hins, h₁⟩ := hon.insertObstacle (fun hb => hs.started hb) hkey0 hfree d.name d.speed d.radius
  rw [← Session.insertObstacle_eq] at hins
  obtain ⟨hnonneg, hp, rfl⟩ := Session.create_ok_of_inserted hins hc
  have hsigned : signed d.id = d.id := signed_of_lt (lt_of_signed_nonneg hk hnonneg)
  rw [hsigned] at hp h₁
  refine ⟨by rw [hsigned, Int.toNat_natCast], hs.holds_put hfresh (by omega) ?_ ?_ hp⟩
  · have := signed_lt d.id
    rw [largestInt_eq]
    omega
  · simpa [Definition.row] using h₁

end Writes

end Airspace.Store
