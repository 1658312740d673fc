import Mathlib
import Airspace.Proofs.Store.Write
import Airspace.Proofs.Binary64.Order

/-!
# The store's database is a lawful library

The store's own database (`Connection.library`) meets every assumption the store makes of its
database library (`Connection.library_lawful`). A connection holds some entries
(`Connection.Holds`) when it is open, holds no schema older than its database's, and its database
holds a catalogue with them; a transaction holds them when its tables do (`Session.Holds`).

An entry reads back as `Definition.stored` gives it (`readsAs_stored`): a real column keeps a float
as `storedFloat` does, which gives back every float that is not NaN (`storedFloat_beq`); NaN is kept
as null and read as zero, and a negative zero comes back as zero.
-/

namespace Airspace.Store

open Airspace.Obstacle Airspace.Geo

/-- A connection holds some entries: it is open, holds no schema older than its database's, and its
database holds a catalogue with them. -/
structure Connection.Holds (s : Connection) (es : List Definition) : Prop where
  isOpen : s.isOpen = true
  cached : s.cached = none
  holds : ∃ c : Catalog, c.entries = es ∧ s.db.Holds c

/-- A store just opened holds no entries. -/
theorem Connection.holds_empty : ({} : Connection).Holds [] :=
  ⟨rfl, rfl, {}, rfl, Database.holds_tracker⟩

/-- A real column gives back every float that is not NaN, up to the sign of a zero. -/
theorem storedFloat_beq {x : Float} (hx : x.isNaN = false) : (storedFloat x == x) = true := by
  unfold storedFloat
  rw [hx, if_neg Bool.false_ne_true]
  by_cases hz : (x == 0) = true
  · obtain ⟨-, h0, hkey⟩ := IEEE754.beq_iff.mp hz
    rw [if_pos hz]
    exact IEEE754.beq_iff.mpr ⟨h0, hx, hkey.symm⟩
  · rw [if_neg hz]
    exact IEEE754.beq_iff.mpr ⟨hx, hx, rfl⟩

/-- An entry reads back as the store gives it back: its waypoints sorted by order, by a stable sort,
and every float as a real column keeps it. -/
theorem readsAs_stored (e : Definition) : ReadsAs storedFloat e (Definition.stored e) where
  id := rfl
  name := rfl
  speed := rfl
  radius := rfl
  waypoints := (List.mergeSort_perm _ _).map storedWaypoint
  byOrder := by
    have trans : ∀ a b c : Waypoint Float, decide (a.order ≤ b.order) → decide (b.order ≤ c.order) →
        decide (a.order ≤ c.order) := by
      intro a b c
      simp only [decide_eq_true_eq]
      omega
    have total : ∀ a b : Waypoint Float, decide (a.order ≤ b.order) || decide (b.order ≤ a.order) := by
      intro a b
      simp only [Bool.or_eq_true, decide_eq_true_eq]
      omega
    exact List.pairwise_map.mpr ((List.pairwise_mergeSort trans total e.waypoints).imp of_decide_eq_true)

/-- A lookup by an unsigned 64-bit id in a stored catalogue compares ids, not their signed forms. -/
theorem Catalog.Stores.find?_names {c : Catalog} {pts : List StoredPoint} (hs : c.Stores pts) {k : Nat}
    (hk : k < 2 ^ 64) : c.entries.find? (Catalog.names k) = c.entries.find? (·.id == k) :=
  List.find?_congr fun e he => by
    simp only [Catalog.names, beq_eq_beq]
    exact hs.id_eq_signed_iff he hk

/-- The store's own database meets every assumption the store makes of its library. -/
theorem Connection.library_lawful : Connection.library.Lawful Connection.Holds Session.Holds storedFloat where
  sorted h := by
    obtain ⟨c, rfl, pts, hs, -⟩ := h.holds
    exact hs.sorted
  begin {s es} h := by
    obtain ⟨c, rfl, pts, hs, hdb⟩ := h.holds
    refine ⟨{ db := s.db, enforceKeys := true }, by simp [Connection.library, h.isOpen], c, pts, rfl, hs, ?_⟩
    rw [hdb]
    exact Session.onStore_storeOf _ _ _
  commit h htx := by
    obtain ⟨c, pts, rfl, hs, hon⟩ := htx
    exact ⟨h.isOpen, rfl, c, rfl, pts, hs, hon.db⟩
  rollback h := ⟨h.isOpen, rfl, h.holds⟩
  deletePoints h hk := h.deletePoints hk
  deleteObstacle h hk hnone := h.deleteObstacle hk hnone
  createNew h hd hc := h.create_new hd hc
  createGiven h hd hk hfresh hc := h.create_given hd hk hfresh hc
  find {s es} h := by
    obtain ⟨c, rfl, hdb⟩ := h.holds
    refine ⟨{ s with cached := none }, _, ?_, ⟨h.isOpen, rfl, c, rfl, hdb⟩,
      List.forall₂_map_right_iff.mpr (List.forall₂_same.mpr fun e _ => readsAs_stored e)⟩
    simp [Connection.library, h.isOpen, h.cached, hdb.list]
  first {s es k} h hk := by
    obtain ⟨c, rfl, hdb⟩ := h.holds
    obtain ⟨pts, hs, -⟩ := id hdb
    refine ⟨{ s with cached := none }, (c.entries.find? (Catalog.names k)).map Definition.stored, ?_,
      ⟨h.isOpen, rfl, c, rfl, hdb⟩, ?_⟩
    · simp only [Connection.library, h.isOpen, h.cached, hdb.first, if_true]
    · rw [← hs.find?_names hk]
      cases c.entries.find? (Catalog.names k) with
      | none => exact .none
      | some e => exact .some (readsAs_stored e)
  keep_beq _ hx := storedFloat_beq hx

end Airspace.Store
