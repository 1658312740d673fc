import Airspace.Proofs.Store.Catalog
import Airspace.Proofs.Store.Step
import Airspace.Proofs.Text.Utf8
import Airspace.Proofs.Obstacle.Circuit

/-!
# Reading the store back

The store reads back what it wrote. An integer reaches the client as its decimal text, which the
unsigned reader reads back as the number (`readNat_integer`); a float in a real column comes back
as `storedFloat` says (`readFloat_ofReal`). So an obstacle's row reads as its id, name, speed and
radius as stored (`readObstacle_row`), and a waypoint's row as its owner and its waypoint as stored
(`readWaypoint_row`).

The waypoints of the obstacles read are sorted by order all together and then picked out for each
obstacle. A stable sort commutes with picking (`filter_mergeSort`), so each obstacle gets its own
waypoints by order, those of equal order in the order they were saved (`waypoints_read`).

Main statements: listing a store that holds a catalogue gives the catalogue's entries as they come
back (`Database.Holds.list`), and a lookup by id finds the entry the id names, as it comes back
(`Database.Holds.first`).
-/

namespace Airspace.Store

open Airspace.Obstacle Airspace.Geo Airspace.Text

/-! ## Integers through their decimal text -/

section Digits

theorem bytesOf_eq_toList (s : String) : bytesOf s = s.toUTF8.toList := by
  rw [bytesOf, ByteArray.toList, byteArray_toList_loop]
  simp

/-- The text the client hands over for the bytes of a text is that text. -/
theorem toText_bytesOf (s : String) : toText (bytesOf s) = s := by
  rw [bytesOf_eq_toList, toText_toUTF8]

/-- Reading digits goes on from where reading the ones before them left off. -/
theorem readUnsigned_append {acc m : Nat} {xs : List Char} (h : Decimal.readUnsigned acc xs = .ok m)
    (ys : List Char) : Decimal.readUnsigned acc (xs ++ ys) = Decimal.readUnsigned m ys := by
  induction xs generalizing acc with
  | nil =>
    simp only [Decimal.readUnsigned, Except.ok.injEq] at h
    subst h
    rfl
  | cons c xs ih =>
    rw [List.cons_append]
    rw [Decimal.readUnsigned.eq_2] at h ⊢
    by_cases hd : c.isDigit
    · by_cases hr : 10 * acc + (c.toNat - 0x30) ≥ Nat.pow 2 64
      · simp [hd, hr] at h
      · simp only [hd, hr, Bool.not_true, Bool.false_eq_true, if_false] at h ⊢
        exact ih h
    · simp [hd] at h

/-- The decimal digits of a number below `2^64` read back as the number. The induction peels off
the last digit, as `Nat.toDigits_of_base_le` writes it. -/
theorem readUnsigned_toDigits (n : Nat) (h : n < 2 ^ 64) :
    Decimal.readUnsigned 0 (Nat.toDigits 10 n) = .ok n := by
  induction n using Nat.strong_induction_on with
  | _ n ih =>
    by_cases hn : n < 10
    · rw [Nat.toDigits_of_lt_base hn]
      simp [Decimal.readUnsigned, Nat.isDigit_digitChar, hn, Nat.toNat_digitChar_sub_48_of_lt_ten hn]
      omega
    · have hd : n % 10 < 10 := Nat.mod_lt n (by decide)
      rw [Nat.toDigits_of_base_le (by decide) (by omega), readUnsigned_append (ih (n / 10) (by omega) (by omega))]
      simp [Decimal.readUnsigned, Nat.isDigit_digitChar, hd, Nat.toNat_digitChar_sub_48_of_lt_ten hd]
      rw [Nat.div_add_mod, if_neg (by omega)]

theorem parseUnsigned_toString (n : Nat) (h : n < 2 ^ 64) : Decimal.parseUnsigned (toString n) = .ok n := by
  unfold Decimal.parseUnsigned
  simp [readUnsigned_toDigits n h]

/-- A stored integer within the unsigned range reads back as itself through its decimal text. -/
theorem readNat_integer (col : Column) {n : Int} (h0 : 0 ≤ n) (h : n < 2 ^ 64) :
    (Cell.integer n).readNat col = .ok n.toNat := by
  have hs : toString n = toString n.toNat := by
    rw [Int.toString_eq_repr, Int.repr_eq_if, if_pos h0]
    rfl
  simp only [Cell.readNat, Cell.handedText, Cell.handed, toText_bytesOf, hs, parseUnsigned_toString n.toNat (by omega)]
  rfl

end Digits

/-! ## Floats, texts and times -/

section Values

/-- A float kept in a real column reads back as `storedFloat` says. -/
theorem readFloat_ofReal (col : Column) (x : Float) : (Cell.ofReal x).readFloat col = .ok (storedFloat x) := by
  unfold Cell.ofReal storedFloat
  by_cases hn : x.isNaN
  · simp only [hn, if_true]
    rfl
  · by_cases hz : x == 0
    · simp only [hn, hz, if_true, if_false, Bool.false_eq_true]
      rfl
    · simp only [hn, hz, if_false, Bool.false_eq_true]
      rfl

/-- The store's time of change reads as a time. -/
theorem readsAsTime_changeTime : readsAsTime changeTime = true := by decide

theorem readTime_changeTime (column : Nat) (name : String) : readTime column name (.text changeTime) = .ok () := by
  simp [readTime, readsAsTime_changeTime]

/-- A text with no ASCII capital is its own lower case; the store's column names are such texts. -/
theorem lowerAscii_eq_self {s : String} (h : s.toList.all (fun c => !('A' ≤ c && c ≤ 'Z')) = true) :
    lowerAscii s = s := by
  have hsame : ∀ c ∈ s.toList, lowerAsciiChar c = c := by
    intro c hc
    have hc := List.all_eq_true.mp h c hc
    simp only [Bool.not_eq_true', Bool.and_eq_false_iff, decide_eq_false_iff_not] at hc
    unfold lowerAsciiChar
    rw [if_neg (by tauto)]
  rw [lowerAscii, List.map_congr_left hsame]
  simp

end Values

/-! ## Rows -/

section Rows

/-- An obstacle's row, read under the obstacle table's own column names: its id, its name, and its
speed and radius as stored. -/
theorem readObstacle_row (e : Definition) (h0 : 0 < e.id) (h : e.id < 2 ^ 64) :
    readObstacle (obstacleTable.columns.map (·.name)) (Definition.row e) =
      .ok (e.id, e.name, storedFloat e.speed, storedFloat e.radius) := by
  simp (disch := decide) [readObstacle, obstacleTable, idColumn, plainColumn, List.zipIdx, lowerAscii_eq_self,
    Definition.row, obstacleRow, obstacleCells, Row.get, readNat_integer _ (Int.natCast_nonneg e.id) (by omega : (e.id : Int) < 2 ^ 64),
    readFloat_ofReal, readTime_changeTime, List.getElem?_cons_zero, Option.getD_some]
  rfl

/-- A waypoint's row: its owner and its waypoint as stored. -/
theorem readWaypoint_row (ws : List Row) (p : StoredPoint) (hid : 0 ≤ p.id) (hid' : p.id < 2 ^ 64)
    (ho : 0 ≤ p.owner) (ho' : p.owner < 2 ^ 64) :
    readWaypoint (waypointsHolding ws) p.row = .ok (p.owner.toNat, storedWaypoint p.point) := by
  simp (disch := decide) [readWaypoint, waypointsHolding, waypointTable, idColumn, plainColumn, List.zipIdx,
    lowerAscii_eq_self, StoredPoint.row, pointCells, Row.get, readNat_integer _ hid hid', readNat_integer _ ho ho',
    Cell.readInt, readFloat_ofReal, List.getElem?_cons_zero, Option.getD_some]
  rfl

end Rows

/-! ## Sorting and picking -/

section Order

variable {α : Type} {le : α → α → Bool}

/-- Two cuts of one list, each where a test turns from false to true for good, are the same cut. -/
theorem append_eq_append_of_cut {q : α → Bool} {m₁ m₂ f₁ f₂ : List α} (h : m₁ ++ m₂ = f₁ ++ f₂)
    (hm₁ : ∀ b ∈ m₁, q b = false) (hm₂ : ∀ b ∈ m₂, q b = true)
    (hf₁ : ∀ b ∈ f₁, q b = false) (hf₂ : ∀ b ∈ f₂, q b = true) : m₁ = f₁ ∧ m₂ = f₂ := by
  rcases List.append_eq_append_iff.mp h with ⟨a, rfl, rfl⟩ | ⟨c, rfl, rfl⟩
  · cases a with
    | nil => simp
    | cons x a =>
      have h1 := hf₁ x (by simp)
      have h2 := hm₂ x (by simp)
      simp [h1] at h2
  · cases c with
    | nil => simp
    | cons x c =>
      have h1 := hm₁ x (by simp)
      have h2 := hf₂ x (by simp)
      simp [h1] at h2

/-- In a sorted list, what follows an element is not below it. -/
theorem le_of_mergeSort_eq (trans : ∀ a b c, le a b → le b c → le a c) (total : ∀ a b, le a b || le b a)
    {a : α} {l l₁ l₂ : List α} (h : (a :: l).mergeSort le = l₁ ++ a :: l₂) : ∀ b ∈ l₂, le a b = true := by
  have hs := List.pairwise_mergeSort trans total (a :: l)
  rw [h, List.pairwise_append] at hs
  exact (List.pairwise_cons.mp hs.2.1).1

/-- A stable sort commutes with a filter. The induction runs over the list with
`List.mergeSort_cons`: the head goes in after the elements below it and before the rest, and the
sorted filtered list is cut around it at the same place as the filtered sorted list. -/
theorem filter_mergeSort (trans : ∀ a b c, le a b → le b c → le a c) (total : ∀ a b, le a b || le b a)
    (p : α → Bool) (l : List α) : (l.mergeSort le).filter p = (l.filter p).mergeSort le := by
  induction l with
  | nil => simp
  | cons a l ih =>
    obtain ⟨l₁, l₂, hsplit, hrest, hbefore⟩ := List.mergeSort_cons trans total a l
    have hafter := le_of_mergeSort_eq trans total hsplit
    by_cases hp : p a
    · obtain ⟨m₁, m₂, msplit, mrest, mbefore⟩ := List.mergeSort_cons trans total a (l.filter p)
      have mafter := le_of_mergeSort_eq trans total msplit
      have hcut : m₁ ++ m₂ = l₁.filter p ++ l₂.filter p := by
        rw [← mrest, ← ih, hrest, List.filter_append]
      obtain ⟨h1, h2⟩ := append_eq_append_of_cut hcut (fun b hb => by simpa using mbefore b hb) mafter
        (fun b hb => by simpa using hbefore b (List.mem_filter.mp hb).1) (fun b hb => hafter b (List.mem_filter.mp hb).1)
      rw [hsplit, List.filter_append, List.filter_cons_of_pos hp, List.filter_cons_of_pos hp, msplit, h1, h2]
    · rw [hsplit, List.filter_append, List.filter_cons_of_neg hp, List.filter_cons_of_neg hp, ← ih, hrest,
        List.filter_append]

end Order

/-! ## The store's tables as the reads see them -/

section Tables

/-- Two integers in order compare as not greater. -/
theorem compare_ne_gt_int (x y : Int) : (compare x y != .gt) = decide (x ≤ y) := by
  cases hc : compare x y with
  | lt =>
    have := Int.compare_eq_lt.mp hc
    rw [decide_eq_true (by omega)]
    rfl
  | eq =>
    have := Int.compare_eq_eq.mp hc
    rw [decide_eq_true (by omega)]
    rfl
  | gt =>
    have := Int.compare_eq_gt.mp hc
    rw [decide_eq_false (by omega)]
    rfl

theorem columnIndex_order (rows : List Row) : (waypointsHolding rows).columnIndex? "order" = some 2 := by
  have h : waypointTable.columnIndex? "order" = some 2 := by decide
  exact h

theorem storeTable_waypoints (os ss ws : List Row) :
    (Database.storeOf os ss ws).storeTable "obstacle_waypoints" = .ok (waypointsHolding ws) := by
  simp [Database.storeTable, table?_waypoints]

theorem storeTable_obstacles (os ss ws : List Row) :
    (Database.storeOf os ss ws).storeTable "moving_obstacles" = .ok (obstaclesHolding os) := by
  simp [Database.storeTable, table?_obstacles]

theorem cellOf_owner (ws : List Row) (p : StoredPoint) :
    (waypointsHolding ws).cellOf p.row "obstacle_id" = .integer p.owner := by
  simp [Table.cellOf, waypointsHolding_columnIndex_owner]

theorem cellOf_order (ws : List Row) (p : StoredPoint) :
    (waypointsHolding ws).cellOf p.row "order" = .integer p.point.order := by
  simp [Table.cellOf, columnIndex_order]

theorem needs_owner (ws : List Row) :
    (waypointsHolding ws).needs "obstacle_waypoints.obstacle_id" "obstacle_id" = .ok () := by
  simp [Table.needs, waypointsHolding_columnIndex_owner]

theorem needs_order (ws : List Row) : (waypointsHolding ws).needs "order" "order" = .ok () := by
  simp [Table.needs, columnIndex_order]

theorem needs_id (os : List Row) (shown : String) : (obstaclesHolding os).needs shown "id" = .ok () := by
  simp [Table.needs, obstaclesHolding_columnIndex_id]

end Tables

/-! ## What a stored catalogue bounds -/

namespace Catalog.Stores

variable {c : Catalog} {pts : List StoredPoint}

/-- Entry ids are below `2^63`, so each is its own signed form. -/
theorem id_lt (hs : c.Stores pts) {e : Definition} (he : e ∈ c.entries) : e.id < 2 ^ 63 := by
  have h1 := hs.below e he
  have h2 := hs.lastObstacle_le
  rw [largestInt_eq] at h2
  omega

/-- A waypoint's owner is an entry's id. -/
theorem owner_bounds (hs : c.Stores pts) {p : StoredPoint} (hp : p ∈ pts) : 0 < p.owner ∧ p.owner < 2 ^ 63 := by
  obtain ⟨e, he, ho⟩ := hs.owned p hp
  have := hs.pos e he
  have := hs.id_lt he
  omega

theorem point_id_bounds (hs : c.Stores pts) {p : StoredPoint} (hp : p ∈ pts) : 0 < p.id ∧ p.id < 2 ^ 63 := by
  have h1 := hs.pointsPos p hp
  have h2 := hs.pointsBelow p hp
  have h3 := hs.lastPoint_le
  rw [largestInt_eq] at h3
  omega

end Catalog.Stores

/-! ## The definitions read from some obstacle rows -/

section Definitions

variable {c : Catalog} {pts : List StoredPoint}

/-- Picking the waypoint rows whose owner is among some stored obstacles. -/
theorem filter_owned (hs : c.Stores pts) {sel : List Definition}
    (hsel : ∀ e ∈ sel, e ∈ c.entries) (ws : List Row) :
    (pts.map StoredPoint.row).filter (fun r => (sel.map fun e => Cell.integer (signed e.id)).any fun o =>
        compareUnder (some .integer) .binary ((waypointsHolding ws).cellOf r "obstacle_id") o == .eq) =
      (pts.filter fun p => sel.any fun e => p.owner == (e.id : Int)).map StoredPoint.row := by
  rw [List.filter_map]
  congr 1
  apply List.filter_congr
  intro p _
  simp only [Function.comp, cellOf_owner, List.any_map]
  rw [Bool.eq_iff_iff, List.any_eq_true, List.any_eq_true]
  constructor <;> rintro ⟨e, he, h⟩ <;> refine ⟨e, he, ?_⟩ <;>
    simpa [compareUnder_integer, compare_beq_eq_int, signed_of_lt (hs.id_lt (hsel e he))] using h

/-- Waypoint rows by order are the waypoints by order, as rows. -/
theorem byOrder_points (ws : List Row) (ps : List StoredPoint) :
    byOrder (waypointsHolding ws) (ps.map StoredPoint.row) =
      (ps.mergeSort fun p q => decide (p.point.order ≤ q.point.order)).map StoredPoint.row := by
  unfold byOrder
  rw [List.map_mergeSort]
  intro p _ q _
  simp only [cellOf_order, Cell.compare]
  exact (compare_ne_gt_int _ _).symm

/-- The waypoint rows of a stored catalogue read back one by one. -/
theorem mapM_readWaypoint (hs : c.Stores pts) {ps : List StoredPoint}
    (hps : ∀ p ∈ ps, p ∈ pts) (ws : List Row) :
    (ps.map StoredPoint.row).mapM (readWaypoint (waypointsHolding ws)) =
      .ok (ps.map fun p => (p.owner.toNat, storedWaypoint p.point)) := by
  rw [List.mapM_map]
  refine mapM_eq_ok fun p hp => ?_
  have ho := hs.owner_bounds (hps p hp)
  have hi := hs.point_id_bounds (hps p hp)
  exact readWaypoint_row ws p (by omega) (by omega) (by omega) (by omega)

/-- The waypoints read for one obstacle among some stored ones: its own, by order, as stored. An
obstacle's rows among those read are its own rows. -/
theorem waypoints_read (hs : c.Stores pts) {sel : List Definition}
    (hsel : ∀ e ∈ sel, e ∈ c.entries) {e : Definition} (he : e ∈ sel) :
    ((((pts.filter fun p => sel.any fun e => p.owner == (e.id : Int)).mergeSort
        fun p q => decide (p.point.order ≤ q.point.order)).map
          fun p => (p.owner.toNat, storedWaypoint p.point)).filter fun x => x.1 == e.id).map Prod.snd =
      (byWaypointOrder e.waypoints).map storedWaypoint := by
  have trans : ∀ a b c : StoredPoint, decide (a.point.order ≤ b.point.order) → decide (b.point.order ≤ c.point.order) →
      decide (a.point.order ≤ c.point.order) := by
    intro a b c
    simp only [decide_eq_true_eq]
    omega
  have total : ∀ a b : StoredPoint, decide (a.point.order ≤ b.point.order) || decide (b.point.order ≤ a.point.order) := by
    intro a b
    simp only [Bool.or_eq_true, decide_eq_true_eq]
    omega
  have hpick : (pts.filter fun p => (p.owner.toNat == e.id) && sel.any fun e => p.owner == (e.id : Int)) =
      pts.filter (·.owner == (e.id : Int)) := by
    apply List.filter_congr
    intro p hp
    have ho := hs.owner_bounds hp
    by_cases hpe : p.owner = e.id
    · simp only [hpe, Int.toNat_natCast, beq_self_eq_true, Bool.true_and]
      exact List.any_eq_true.mpr ⟨e, he, by simp⟩
    · have : (p.owner.toNat == e.id) = false := by simp; omega
      simp [this, hpe]
  have hsorted : ((pts.filter (·.owner == (e.id : Int))).mergeSort
      fun p q => decide (p.point.order ≤ q.point.order)).map (·.point) = byWaypointOrder e.waypoints := by
    have hmap : ((pts.filter (·.owner == (e.id : Int))).mergeSort
        fun p q => decide (p.point.order ≤ q.point.order)).map (·.point) =
          ((pts.filter (·.owner == (e.id : Int))).map (·.point)).mergeSort fun a b => decide (a.order ≤ b.order) :=
      List.map_mergeSort fun _ _ _ _ => rfl
    rw [hmap, hs.points e (hsel e he)]
    rfl
  rw [List.filter_map, List.map_map, filter_mergeSort trans total, List.filter_filter]
  simp only [Function.comp_def]
  rw [hpick, ← hsorted, List.map_map]
  rfl

/-- The definitions of some entries' rows, read from a store that holds the catalogue: the entries
as they come back. -/
theorem definitions_stored (hs : c.Stores pts) (ss : List Row)
    {sel : List Definition} (hsel : ∀ e ∈ sel, e ∈ c.entries) {t : Table} (ht : t.columns = obstacleTable.columns) :
    (Database.storeOf (c.entries.map Definition.row) ss (pts.map StoredPoint.row)).definitions none t
      (sel.map Definition.row) = .ok (sel.map Definition.stored) := by
  have hheads : (sel.map Definition.row).mapM (readObstacle (columnNamesSeen none t)) =
      .ok (sel.map fun e => (e.id, e.name, storedFloat e.speed, storedFloat e.radius)) := by
    rw [List.mapM_map]
    refine mapM_eq_ok fun e he => ?_
    have := hs.pos e (hsel e he)
    have := hs.id_lt (hsel e he)
    simp only [Function.comp, columnNamesSeen, Option.bind_none, ht]
    exact readObstacle_row e (by omega) (by omega)
  unfold Database.definitions
  rw [hheads]
  by_cases hnil : sel = []
  · subst hnil
    rfl
  have hne : (sel.map fun e => (e.id, e.name, storedFloat e.speed, storedFloat e.radius)).isEmpty = false := by
    simp [hnil]
  simp only [bind, Except.bind, hne, storeTable_waypoints, needs_owner, needs_order, List.map_map, Function.comp_def,
    waypointsHolding_rows, Bool.false_eq_true, if_false]
  rw [filter_owned hs hsel, byOrder_points,
    mapM_readWaypoint hs fun p hp => (List.mem_filter.mp (List.mem_mergeSort.mp hp)).1]
  show Except.ok _ = _
  congr 1
  apply List.map_congr_left
  intro e he
  simp only [Definition.stored, waypoints_read hs hsel he]

end Definitions

/-! ## Listing and looking up -/

/-- Finding an obstacle's row by `id = key` finds the row of the entry the key names. -/
theorem find?_rows (k : Nat) (es : List Definition) (os : List Row) :
    (es.map Definition.row).find? (fun r => compareUnder (some .integer) .binary
        ((obstaclesHolding os).cellOf r "id") (.integer (signed k)) == .eq) =
      (es.find? (Catalog.names k)).map Definition.row := by
  rw [List.find?_map]
  congr 2
  funext e
  simp [Table.cellOf, obstaclesHolding_columnIndex_id, compareUnder_integer, compare_beq_eq_int, Catalog.names,
    Definition.row, obstacleRow, Row.get]

/-- Listing a store that holds a catalogue gives its entries by id, as they come back. -/
theorem Database.Holds.list {db : Database} {c : Catalog} (h : db.Holds c) :
    db.list none = .ok (c.entries.map Definition.stored) := by
  obtain ⟨pts, hs, rfl⟩ := h
  unfold Database.list
  simp only [bind, Except.bind, storeTable_obstacles, needs_id, obstaclesHolding_rows]
  exact definitions_stored hs _ (fun e he => he) rfl

/-- Looking an id up in a store that holds a catalogue finds the entry the id names, as it comes
back. -/
theorem Database.Holds.first {db : Database} {c : Catalog} (h : db.Holds c) (k : Nat) :
    db.first none k = .ok ((c.entries.find? (Catalog.names k)).map Definition.stored) := by
  obtain ⟨pts, hs, rfl⟩ := h
  unfold Database.first
  simp only [bind, Except.bind, storeTable_obstacles, needs_id, obstaclesHolding_rows, find?_rows]
  cases hf : c.entries.find? (Catalog.names k) with
  | none => rfl
  | some e =>
    have hmem : ∀ x ∈ [e], x ∈ c.entries := by
      intro x hx
      rw [List.mem_singleton.mp hx]
      exact List.mem_of_find?_eq_some hf
    have hd := definitions_stored hs (sequenceRows c.lastObstacle c.lastPoint) hmem
      (rfl : (obstaclesHolding (c.entries.map Definition.row)).columns = obstacleTable.columns)
    simp only [List.map_cons, List.map_nil] at hd
    simp only [Option.map_some, hd]
    rfl

end Airspace.Store
