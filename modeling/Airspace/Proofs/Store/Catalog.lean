import Mathlib
import Airspace.Proofs.Store.Layout
import Airspace.Proofs.Store.Contract

/-!
# The store's tables as a catalogue

The store's database holds a catalogue (`Catalog`): its entries by increasing id, and the largest
obstacle id and waypoint id its tables have used, which their counters never give again.

A definition comes back as a real column keeps its floats (`storedFloat`: NaN as zero, a zero of
either sign as zero) with its waypoints by order, those of equal order as they were given
(`Definition.stored`). The store writes an id in its signed 64-bit form, and a lookup compares that
form (`Catalog.names`).

`Database.Holds db c` ties a database to the catalogue it stores: the obstacle rows are the
entries', the waypoint rows are the entries' waypoints in order, and the sequence table holds the two
counters (`Catalog.Stores`).
-/

namespace Airspace.Store

open Airspace.Obstacle Airspace.Geo

/-! ## Values as they come back -/

/-- A float as a real column keeps it and the store reads it back: NaN is kept as null and read as
zero, and a zero of either sign is kept as zero. -/
def storedFloat (x : Float) : Float := if x.isNaN then 0 else if x == 0 then 0 else x

/-- A waypoint as it comes back: its position's floats as stored. -/
def storedWaypoint (w : Waypoint Float) : Waypoint Float :=
  ⟨w.order, ⟨storedFloat w.position.latitude, storedFloat w.position.longitude,
    storedFloat w.position.altitudeMsl⟩⟩

/-- Waypoints by order, those of equal order as they were given. -/
def byWaypointOrder (ws : List (Waypoint Float)) : List (Waypoint Float) :=
  ws.mergeSort fun a b => decide (a.order ≤ b.order)

/-- A definition as the store gives it back. -/
def Definition.stored (d : Definition) : Definition :=
  { d with speed := storedFloat d.speed, radius := storedFloat d.radius,
           waypoints := (byWaypointOrder d.waypoints).map storedWaypoint }

/-- The obstacle row of a definition. -/
def Definition.row (d : Definition) : Row := obstacleRow d.id d.name d.speed d.radius

/-! ## The catalogue and its operations -/

/-- The definitions the store holds, by increasing id, and the largest obstacle id and waypoint id
it has used. -/
structure Catalog where
  entries : List Definition := []
  lastObstacle : Nat := 0
  lastPoint : Nat := 0

namespace Catalog

/-- Whether an entry is the one a client's id names. -/
def names (k : Nat) (e : Definition) : Bool := (e.id : Int) == signed k

end Catalog

/-! ## Ids in their signed form -/

theorem int_pow_two_64 : Int.pow 2 64 = 2 ^ 64 := rfl

theorem largestInt_eq : largestInt = 2 ^ 63 - 1 := rfl

/-- An id below `2^63` is its own signed form. -/
theorem signed_of_lt {n : Nat} (h : n < 2 ^ 63) : signed n = n := by
  unfold signed
  have hm : n % 2 ^ 64 = n := Nat.mod_eq_of_lt (by omega)
  simp only [Nat.pow_eq, hm]
  rw [if_neg (by omega)]

theorem signed_lt (n : Nat) : signed n < 2 ^ 63 := by
  unfold signed
  have := Nat.mod_lt n (show 0 < 2 ^ 64 by decide)
  simp only [Nat.pow_eq, int_pow_two_64]
  split <;> omega

/-- An unsigned 64-bit id whose signed form is not negative is below `2^63`. -/
theorem lt_of_signed_nonneg {k : Nat} (hk : k < 2 ^ 64) (h : 0 ≤ signed k) : k < 2 ^ 63 := by
  unfold signed at h
  have hm : k % 2 ^ 64 = k := Nat.mod_eq_of_lt hk
  simp only [Nat.pow_eq, hm, int_pow_two_64] at h
  split at h <;> omega

/-- A number below `2^63` is the signed form of an unsigned 64-bit id exactly when it is the id. -/
theorem eq_signed_iff {n k : Nat} (hn : n < 2 ^ 63) (hk : k < 2 ^ 64) : (n : Int) = signed k ↔ n = k := by
  unfold signed
  have hm : k % 2 ^ 64 = k := Nat.mod_eq_of_lt hk
  simp only [Nat.pow_eq, hm, int_pow_two_64]
  split <;> omega

namespace Catalog

/-- Each entry's row has its id in the row-id column. -/
theorem row_keys (es : List Definition) : ∀ row ∈ es.map Definition.row, row.get 0 = .integer row.id := by
  intro row hrow
  obtain ⟨e, -, rfl⟩ := List.mem_map.mp hrow
  rfl

/-- Clearing waypoints leaves the obstacle rows. -/
theorem map_row_clear (k : Nat) (es : List Definition) : (clear k es).map Definition.row = es.map Definition.row := by
  induction es with
  | nil => rfl
  | cons e es ih => by_cases h : e.id = k <;> simp [h, ih, Definition.row]

/-- The rows of the entries after `put` are the rows before with the definition's row stored. -/
theorem map_put (d : Definition) (es : List Definition) :
    (put d es).map Definition.row = insertById (Definition.row d) (es.map Definition.row) := by
  induction es with
  | nil => rfl
  | cons e es ih =>
    have hrow : ∀ x : Definition, (Definition.row x).id = x.id := fun _ => rfl
    unfold put
    by_cases hlt : d.id < e.id
    · have hlt' : (d.id : Int) < e.id := by omega
      simp [hlt, insertById, hrow, hlt']
    · by_cases heq : d.id = e.id
      · simp [insertById, hrow, heq]
      · have h1 : ¬(d.id : Int) < e.id := by omega
        have h2 : ¬(d.id : Int) = e.id := by omega
        simp [hlt, heq, insertById, hrow, h1, h2, ih]

end Catalog

/-! ## The store holding a catalogue -/

/-- The waypoint rows `pts` hold the catalogue's waypoints, and the catalogue is one the store can
hold: its ids increase, are positive and within the counters, which are within the signed range, and
the waypoint counter starts only after the obstacle counter; each waypoint row belongs to an entry,
and the rows of an entry, in order, are its waypoints. -/
structure Catalog.Stores (c : Catalog) (pts : List StoredPoint) : Prop where
  sorted : c.entries.Pairwise (·.id < ·.id)
  pos : ∀ e ∈ c.entries, 0 < e.id
  below : ∀ e ∈ c.entries, e.id ≤ c.lastObstacle
  lastObstacle_le : (c.lastObstacle : Int) ≤ largestInt
  pointsSorted : pts.Pairwise (·.id < ·.id)
  pointsPos : ∀ p ∈ pts, 0 < p.id
  pointsBelow : ∀ p ∈ pts, p.id ≤ c.lastPoint
  lastPoint_le : (c.lastPoint : Int) ≤ largestInt
  started : c.lastPoint ≠ 0 → c.lastObstacle ≠ 0
  owned : ∀ p ∈ pts, ∃ e ∈ c.entries, p.owner = e.id
  points : ∀ e ∈ c.entries, (pts.filter (·.owner == (e.id : Int))).map (·.point) = e.waypoints

/-- A database holds a catalogue: its tables have the entries' rows, the rows of their waypoints,
and the counters in the sequence table. -/
def Database.Holds (db : Database) (c : Catalog) : Prop :=
  ∃ pts, c.Stores pts ∧
    db = Database.storeOf (c.entries.map Definition.row) (sequenceRows c.lastObstacle c.lastPoint)
      (pts.map StoredPoint.row)

/-- The store's database when it is made holds the empty catalogue. -/
theorem Database.holds_tracker : Database.tracker.Holds {} :=
  ⟨[], ⟨by simp, by simp, by simp, by decide, by simp, by simp, by simp, by decide, by simp, by simp, by simp⟩, rfl⟩

end Airspace.Store
