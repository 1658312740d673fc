import Mathlib
import Airspace.Store.Library

/-!
# The store's contract

A client sees the obstacle store as a finite map from obstacle ids to definitions: the catalogue,
held as its entries by increasing id. `Catalog.Answers keep es q r es'` says how the store may answer
a call `q` while it holds the entries `es`, and what it holds after:

* a save with id 0 puts the definition under a positive id above every id in use and returns that
  id; a save with id `k` puts it under `k`, in place of entry `k` if there was one; a save that fails
  changes nothing;
* a removal of an id that has an entry takes the entry out; of any other id, it is not found and
  changes nothing;
* a lookup gives the entry of the id as it reads back, or is not found; a listing gives every entry
  by increasing id, each as it reads back, and a load gives their moving obstacles.

An entry reads back (`ReadsAs keep`) with its id and name, its floats as the database keeps them
(`keep`), and its waypoints, so kept, sorted by order; waypoints of equal order may come back in
any order.

`Library.Lawful` is what the store assumes of its database library, one named hypothesis for each
thing it relies on: a store that holds entries starts a transaction on them; a commit keeps what the
transaction did and a rollback undoes it; the deletes the store sends delete what they name and
count it; a created obstacle gets a fresh id, or the one it gives; reads come ordered by id and by
order; and a real column gives back every float that is not NaN.
-/

namespace Airspace.Store

open Airspace.Obstacle Airspace.Geo

/-! ## The catalogue's entries -/

namespace Catalog

/-- A definition in its place by id, in place of the one of the same id. -/
def put (d : Definition) : List Definition → List Definition
  | [] => [d]
  | e :: es => if d.id < e.id then d :: e :: es else if d.id = e.id then d :: es else e :: put d es

/-- The entries with the waypoints of an id gone. -/
def clear (k : Nat) (es : List Definition) : List Definition :=
  es.map fun e => if e.id = k then { e with waypoints := [] } else e

/-- The entries without the one of an id. -/
def drop (k : Nat) (es : List Definition) : List Definition := es.filter (·.id != k)

section Entries

variable {d : Definition} {es : List Definition} {k : Nat}

@[simp] theorem drop_nil : drop k [] = [] := rfl

@[simp] theorem drop_cons (e : Definition) (es : List Definition) :
    drop k (e :: es) = if e.id = k then drop k es else e :: drop k es := by
  by_cases h : e.id = k <;> simp [drop, h]

@[simp] theorem clear_nil : clear k [] = [] := rfl

@[simp] theorem clear_cons (e : Definition) (es : List Definition) :
    clear k (e :: es) = (if e.id = k then { e with waypoints := [] } else e) :: clear k es := rfl

theorem mem_put_self (d : Definition) (es : List Definition) : d ∈ put d es := by
  induction es with
  | nil => simp [put]
  | cons e es ih =>
    unfold put
    by_cases hlt : d.id < e.id
    · simp [hlt]
    · by_cases heq : d.id = e.id
      · simp [heq]
      · simp [hlt, heq, ih]

theorem mem_put_of_ne {x : Definition} (hx : x ∈ es) (hne : x.id ≠ d.id) : x ∈ put d es := by
  induction es with
  | nil => simp at hx
  | cons e es ih =>
    unfold put
    rcases List.mem_cons.mp hx with rfl | hx
    · by_cases hlt : d.id < x.id
      · simp [hlt]
      · simp [hlt, Ne.symm hne]
    · by_cases hlt : d.id < e.id
      · simp [hlt, hx]
      · by_cases heq : d.id = e.id
        · simp [heq, hx]
        · simp [hlt, heq, ih hx]

/-- What `put` leaves: the definition put, and the entries of other ids. -/
theorem mem_put (hs : es.Pairwise (·.id < ·.id)) {x : Definition} (h : x ∈ put d es) :
    x = d ∨ (x ∈ es ∧ x.id ≠ d.id) := by
  induction es with
  | nil => simpa [put] using h
  | cons e es ih =>
    obtain ⟨he, hes⟩ := List.pairwise_cons.mp hs
    unfold put at h
    by_cases hlt : d.id < e.id
    · rw [if_pos hlt] at h
      rcases List.mem_cons.mp h with rfl | h
      · exact .inl rfl
      · right
        refine ⟨h, ?_⟩
        rcases List.mem_cons.mp h with rfl | h
        · omega
        · have := he x h
          omega
    · by_cases heq : d.id = e.id
      · rw [if_neg hlt, if_pos heq] at h
        rcases List.mem_cons.mp h with rfl | h
        · exact .inl rfl
        · have := he x h
          exact .inr ⟨List.mem_cons_of_mem e h, by omega⟩
      · rw [if_neg hlt, if_neg heq] at h
        rcases List.mem_cons.mp h with rfl | h
        · exact .inr ⟨List.mem_cons_self, Ne.symm heq⟩
        · rcases ih hes h with rfl | ⟨hx, hne⟩
          · exact .inl rfl
          · exact .inr ⟨List.mem_cons_of_mem e hx, hne⟩

theorem pairwise_put (hs : es.Pairwise (·.id < ·.id)) : (put d es).Pairwise (·.id < ·.id) := by
  induction es with
  | nil => simp [put]
  | cons e es ih =>
    obtain ⟨he, hes⟩ := List.pairwise_cons.mp hs
    unfold put
    by_cases hlt : d.id < e.id
    · rw [if_pos hlt]
      refine List.pairwise_cons.mpr ⟨?_, hs⟩
      intro y hy
      rcases List.mem_cons.mp hy with rfl | hy
      · exact hlt
      · have := he y hy
        omega
    · by_cases heq : d.id = e.id
      · rw [if_neg hlt, if_pos heq]
        refine List.pairwise_cons.mpr ⟨fun y hy => ?_, hes⟩
        have := he y hy
        omega
      · rw [if_neg hlt, if_neg heq]
        refine List.pairwise_cons.mpr ⟨fun y hy => ?_, ih hes⟩
        rcases mem_put hes hy with rfl | ⟨hy, -⟩
        · omega
        · exact he y hy

/-- Entries whose ids are all above the definition's: it goes first. -/
theorem put_of_lt (h : ∀ e ∈ es, d.id < e.id) : put d es = d :: es := by
  cases es with
  | nil => rfl
  | cons e es => simp [put, h e List.mem_cons_self]

/-- Dropping an id no entry has leaves the entries. -/
theorem drop_of_absent (h : ∀ e ∈ es, e.id ≠ k) : drop k es = es :=
  List.filter_eq_self.mpr fun e he => by simpa using h e he

/-- Putting a definition where its id's entry was taken out is putting it in that entry's place. -/
theorem put_drop (hs : es.Pairwise (·.id < ·.id)) : put d (drop d.id es) = put d es := by
  induction es with
  | nil => rfl
  | cons e es ih =>
    obtain ⟨he, hes⟩ := List.pairwise_cons.mp hs
    have habove : ∀ x ∈ es, e.id < x.id := he
    by_cases hlt : d.id < e.id
    · have hkeep : drop d.id es = es := drop_of_absent fun x hx => by have := habove x hx; omega
      simp [put, hlt, hkeep, show e.id ≠ d.id by omega]
    · by_cases heq : d.id = e.id
      · have hkeep : drop d.id es = es := drop_of_absent fun x hx => by have := habove x hx; omega
        have hfirst : put d es = d :: es := put_of_lt fun x hx => by have := habove x hx; omega
        rw [drop_cons, if_pos heq.symm, hkeep, hfirst]
        simp only [put, if_neg hlt, if_pos heq]
      · simp [put, hlt, heq, Ne.symm heq, ih hes]

/-- Dropping an id after clearing its waypoints is dropping it. -/
theorem drop_clear : drop k (clear k es) = drop k es := by
  induction es with
  | nil => rfl
  | cons e es ih => by_cases h : e.id = k <;> simp [h, ih]

/-- Clearing an id's waypoints keeps the entries that have the id. -/
theorem length_filter_clear : ((clear k es).filter (·.id == k)).length = (es.filter (·.id == k)).length := by
  induction es with
  | nil => rfl
  | cons e es ih => by_cases h : e.id = k <;> simp [h, ih]

/-- Clearing waypoints keeps every entry's id. -/
theorem exists_id_clear {j : Nat} : (∃ e ∈ clear k es, e.id = j) ↔ ∃ e ∈ es, e.id = j := by
  simp only [clear, List.mem_map, exists_exists_and_eq_and]
  exact exists_congr fun e => and_congr_right fun _ => by split <;> rfl

/-- After clearing an id's waypoints, its entry has none. -/
theorem waypoints_clear {e : Definition} (he : e ∈ clear k es) (hk : e.id = k) : e.waypoints = [] := by
  obtain ⟨x, -, rfl⟩ := List.mem_map.mp he
  by_cases h : x.id = k
  · simp [h]
  · simp [h] at hk

/-- No entry has an id exactly when none counts for it. -/
theorem count_eq_zero_iff : (es.filter (·.id == k)).length = 0 ↔ ∀ e ∈ es, e.id ≠ k := by
  simp [List.filter_eq_nil_iff]

end Entries

end Catalog

/-! ## Definitions as they read back -/

/-- A waypoint as the database keeps it: its order, and its position's floats as kept. -/
def keepWaypoint (keep : Float → Float) (w : Waypoint Float) : Waypoint Float :=
  ⟨w.order, ⟨keep w.position.latitude, keep w.position.longitude, keep w.position.altitudeMsl⟩⟩

/-- A definition `d` is how the entry `e` reads back: the same id and name, the floats as the
database keeps them, and the waypoints so kept, sorted by order. -/
structure ReadsAs (keep : Float → Float) (e d : Definition) : Prop where
  id : d.id = e.id
  name : d.name = e.name
  speed : d.speed = keep e.speed
  radius : d.radius = keep e.radius
  waypoints : d.waypoints.Perm (e.waypoints.map (keepWaypoint keep))
  byOrder : d.waypoints.Pairwise (·.order ≤ ·.order)

/-! ## Calls and what the catalogue allows them to answer -/

/-- The calls a client makes on the store. -/
inductive Call where
  | save (d : Definition)
  | remove (id : Nat)
  | get (id : Nat)
  | list
  | load

/-- What the store answers a call. -/
inductive Reply where
  | saved (r : Except Failure Nat)
  | removed (r : Except Failure Unit)
  | got (r : Except Failure Definition)
  | listed (r : Except Failure (List Definition))
  | loaded (r : Except Failure (List (MovingObstacle Float)))

/-- The ids of a call are unsigned 64-bit numbers, as the store's clients give them. -/
def Call.Unsigned : Call → Prop
  | .save d => d.id < 2 ^ 64
  | .remove k => k < 2 ^ 64
  | .get k => k < 2 ^ 64
  | .list => True
  | .load => True

instance Call.decidableUnsigned : DecidablePred Call.Unsigned := fun q => by
  cases q <;> unfold Call.Unsigned <;> infer_instance

namespace Catalog

/-- How the store may answer a call while it holds the entries `es`, and the entries it holds after;
`keep` is how the database keeps a float. -/
inductive Answers (keep : Float → Float) : List Definition → Call → Reply → List Definition → Prop
  /-- A save with no id goes under a positive id above every one in use. -/
  | saveNew {es : List Definition} {d : Definition} {id : Nat} (hd : d.id = 0) (hpos : 0 < id)
      (hfresh : ∀ e ∈ es, e.id < id) :
      Answers keep es (.save d) (.saved (.ok id)) (put { d with id } es)
  /-- A save with an id goes under it, in place of its entry. -/
  | saveGiven {es : List Definition} {d : Definition} (hd : d.id ≠ 0) :
      Answers keep es (.save d) (.saved (.ok d.id)) (put d es)
  /-- A save that fails names the obstacle and changes nothing. -/
  | saveFailed {es : List Definition} {d : Definition} (e : Cause) :
      Answers keep es (.save d) (.saved (.error ⟨"save obstacle " ++ Text.quoteBytes d.name ++ ": ", e⟩)) es
  | removePresent {es : List Definition} {k : Nat} (hk : ∃ e ∈ es, e.id = k) :
      Answers keep es (.remove k) (.removed (.ok ())) (drop k es)
  | removeAbsent {es : List Definition} {k : Nat} (hk : ∀ e ∈ es, e.id ≠ k) :
      Answers keep es (.remove k) (.removed (.error ⟨"", .notFound⟩)) es
  | getPresent {es : List Definition} {k : Nat} {e d : Definition} (he : e ∈ es) (hk : e.id = k)
      (hd : ReadsAs keep e d) :
      Answers keep es (.get k) (.got (.ok d)) es
  | getAbsent {es : List Definition} {k : Nat} (hk : ∀ e ∈ es, e.id ≠ k) :
      Answers keep es (.get k) (.got (.error ⟨"", .notFound⟩)) es
  | list {es ds : List Definition} (hsorted : es.Pairwise (·.id < ·.id)) (hds : List.Forall₂ (ReadsAs keep) es ds) :
      Answers keep es .list (.listed (.ok ds)) es
  | load {es ds : List Definition} (hsorted : es.Pairwise (·.id < ·.id)) (hds : List.Forall₂ (ReadsAs keep) es ds) :
      Answers keep es .load (.loaded (.ok (ds.map Definition.build))) es

/-- Replies to calls made one after another, each as the catalogue allows from the entries the call
before left. -/
inductive Follows (keep : Float → Float) : List Definition → List Call → List Reply → Prop
  | nil {es : List Definition} : Follows keep es [] []
  | cons {es es' : List Definition} {q : Call} {r : Reply} {qs : List Call} {rs : List Reply} :
      Answers keep es q r es' → Follows keep es' qs rs → Follows keep es (q :: qs) (r :: rs)

end Catalog

/-! ## The store over a library, and what it assumes of the library -/

namespace Library

variable {σ τ : Type}

/-- A call on the store over a library. -/
def call (L : Library σ τ) (s : σ) : Call → σ × Reply
  | .save d => let (s, r) := L.save s d; (s, .saved r)
  | .remove id => let (s, r) := L.remove s id; (s, .removed r)
  | .get id => let (s, r) := L.get s id; (s, .got r)
  | .list => let (s, r) := L.list s; (s, .listed r)
  | .load => let (s, r) := L.load s; (s, .loaded r)

/-- The answers to calls made one after another. -/
def replies (L : Library σ τ) (s : σ) : List Call → List Reply
  | [] => []
  | q :: qs => (L.call s q).2 :: L.replies (L.call s q).1 qs

/-- What the store assumes of its database library. `Holds s es` says that the connection `s` is
open and its database holds the entries `es`; `HoldsTx tx es` says the same of a transaction; `keep`
is what a real column gives back for a float. -/
structure Lawful (L : Library σ τ) (Holds : σ → List Definition → Prop)
    (HoldsTx : τ → List Definition → Prop) (keep : Float → Float) : Prop where
  /-- The entries a connection holds are by increasing id. -/
  sorted : ∀ {s es}, Holds s es → es.Pairwise (·.id < ·.id)
  /-- A connection starts a transaction on what it holds. -/
  begin : ∀ {s es}, Holds s es → ∃ tx, L.begin s = .ok tx ∧ HoldsTx tx es
  /-- A commit leaves the connection holding what the transaction held. -/
  commit : ∀ {s tx es es'}, Holds s es → HoldsTx tx es' → Holds (L.commit s tx) es'
  /-- A rollback leaves the connection holding what it held before the transaction. -/
  rollback : ∀ {s es}, Holds s es → Holds (L.rollback s) es
  /-- Deleting the waypoints of an id leaves its entry with none. -/
  deletePoints : ∀ {tx es k}, HoldsTx tx es → k < 2 ^ 64 →
    ∃ tx', L.deletePoints tx k = .ok tx' ∧ HoldsTx tx' (Catalog.clear k es)
  /-- Deleting an obstacle with no waypoints left takes its entry out, and counts it. -/
  deleteObstacle : ∀ {tx es k}, HoldsTx tx es → k < 2 ^ 64 → (∀ e ∈ es, e.id = k → e.waypoints = []) →
    ∃ tx', L.deleteObstacle tx k = .ok (tx', (es.filter (·.id == k)).length) ∧ HoldsTx tx' (Catalog.drop k es)
  /-- A definition with no id, once created, is under a positive id above every one in use. -/
  createNew : ∀ {tx es d tx' id}, HoldsTx tx es → d.id = 0 → L.create tx d = .ok (tx', id) →
    0 < id ∧ (∀ e ∈ es, e.id < id) ∧ HoldsTx tx' (Catalog.put { d with id } es)
  /-- A definition with an id that no entry has, once created, is under that id. -/
  createGiven : ∀ {tx es d tx' id}, HoldsTx tx es → d.id ≠ 0 → d.id < 2 ^ 64 → (∀ e ∈ es, e.id ≠ d.id) →
    L.create tx d = .ok (tx', id) → id = d.id ∧ HoldsTx tx' (Catalog.put d es)
  /-- Listing gives every entry in the order held, each as it reads back. -/
  find : ∀ {s es}, Holds s es →
    ∃ s' ds, L.find s = (s', .ok ds) ∧ Holds s' es ∧ List.Forall₂ (ReadsAs keep) es ds
  /-- Looking an id up gives its entry as it reads back, or nothing when it has none. -/
  first : ∀ {s es k}, Holds s es → k < 2 ^ 64 →
    ∃ s' r, L.first s k = (s', .ok r) ∧ Holds s' es ∧ Option.Rel (ReadsAs keep) (es.find? (·.id == k)) r
  /-- A real column gives back every float that is not NaN, up to the sign of a zero. -/
  keep_beq : ∀ x : Float, x.isNaN = false → (keep x == x) = true

end Library

end Airspace.Store
