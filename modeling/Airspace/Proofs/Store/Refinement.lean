import Mathlib
import Airspace.Proofs.Store.Lawful

/-!
# The store is its catalogue

Over any database library that meets the store's assumptions (`Library.Lawful`), each call with
unsigned ids answers as the catalogue allows and leaves the store holding the entries after it
(`Library.Lawful.call`). A save with an id first clears the id's waypoints and drops its entry, so
the definition created takes that entry's place; a create that fails is rolled back. A removal that
deletes no obstacle row is not found, and is rolled back too. Calls made one after another then
follow the catalogue from whatever entries the store held before them
(`Library.replies_follow_catalog`); the store's own database is such a library.
-/

namespace Airspace.Store

open Airspace.Obstacle

namespace Library

variable {σ τ β : Type} {L : Library σ τ} {s : σ} {tx : τ} {body : τ → Except Cause (τ × β)}

theorem transact_ok {tx' : τ} {b : β} (hbegin : L.begin s = .ok tx) (hbody : body tx = .ok (tx', b)) :
    L.transact s body = (L.commit s tx', .ok b) := by
  simp [transact, hbegin, hbody]

theorem transact_error {e : Cause} (hbegin : L.begin s = .ok tx) (hbody : body tx = .error e) :
    L.transact s body = (L.rollback s, .error e) := by
  simp [transact, hbegin, hbody]

namespace Lawful

variable {Holds : σ → List Definition → Prop} {HoldsTx : τ → List Definition → Prop} {keep : Float → Float}
  {es : List Definition} {d : Definition} {k : Nat}

/-- Deleting an id's waypoints and then its obstacle, as a save under an id and a removal both do,
takes the id's entry out, and counts the entries that had the id. -/
theorem deletePoints_deleteObstacle (lawful : L.Lawful Holds HoldsTx keep) (htx : HoldsTx tx es)
    (hk : k < 2 ^ 64) : ∃ tx₁ tx₂, L.deletePoints tx k = .ok tx₁ ∧
      L.deleteObstacle tx₁ k = .ok (tx₂, (es.filter (·.id == k)).length) ∧ HoldsTx tx₂ (Catalog.drop k es) := by
  obtain ⟨tx₁, hdel₁, htx₁⟩ := lawful.deletePoints htx hk
  obtain ⟨tx₂, hdel₂, htx₂⟩ := lawful.deleteObstacle htx₁ hk fun e he => Catalog.waypoints_clear he
  rw [Catalog.drop_clear, Catalog.length_filter_clear] at *
  exact ⟨tx₁, tx₂, hdel₁, hdel₂, htx₂⟩

/-- What a save does in its transaction, when it succeeds, is a save the catalogue allows. -/
theorem saveIn_ok (lawful : L.Lawful Holds HoldsTx keep) (htx : HoldsTx tx es) (hsorted : es.Pairwise (·.id < ·.id))
    (hk : d.id < 2 ^ 64) {tx' : τ} {id : Nat} (h : L.saveIn tx d = .ok (tx', id)) :
    ∃ es', Catalog.Answers keep es (.save d) (.saved (.ok id)) es' ∧ HoldsTx tx' es' := by
  by_cases hd : d.id = 0
  · have hc : L.create tx d = .ok (tx', id) := by simpa [saveIn, hd] using h
    obtain ⟨hpos, hfresh, htx'⟩ := lawful.createNew htx hd hc
    exact ⟨_, .saveNew hd hpos hfresh, htx'⟩
  · obtain ⟨tx₁, tx₂, hdel₁, hdel₂, htx₂⟩ := lawful.deletePoints_deleteObstacle htx hk
    have hc : L.create tx₂ d = .ok (tx', id) := by
      simpa [saveIn, hd, hdel₁, hdel₂, bind, Except.bind, pure, Except.pure] using h
    have hfree : ∀ e ∈ Catalog.drop d.id es, e.id ≠ d.id := fun e he => by
      simpa using (List.mem_filter.mp he).2
    obtain ⟨rfl, htx'⟩ := lawful.createGiven htx₂ hd hk hfree hc
    rw [Catalog.put_drop hsorted] at htx'
    exact ⟨_, .saveGiven hd, htx'⟩

theorem save (lawful : L.Lawful Holds HoldsTx keep) (hs : Holds s es) (hk : d.id < 2 ^ 64) :
    ∃ es', Catalog.Answers keep es (.save d) (.saved (L.save s d).2) es' ∧ Holds (L.save s d).1 es' := by
  obtain ⟨tx, hbegin, htx⟩ := lawful.begin hs
  cases h : L.saveIn tx d with
  | error e =>
    rw [Library.save, transact_error hbegin h]
    exact ⟨es, .saveFailed e, lawful.rollback hs⟩
  | ok r =>
    obtain ⟨tx', id⟩ := r
    obtain ⟨es', hans, htx'⟩ := lawful.saveIn_ok htx (lawful.sorted hs) hk h
    rw [Library.save, transact_ok hbegin h]
    exact ⟨es', hans, lawful.commit hs htx'⟩

theorem remove (lawful : L.Lawful Holds HoldsTx keep) (hs : Holds s es) (hk : k < 2 ^ 64) :
    ∃ es', Catalog.Answers keep es (.remove k) (.removed (L.remove s k).2) es' ∧ Holds (L.remove s k).1 es' := by
  obtain ⟨tx, hbegin, htx⟩ := lawful.begin hs
  obtain ⟨tx₁, tx₂, hdel₁, hdel₂, htx₂⟩ := lawful.deletePoints_deleteObstacle htx hk
  by_cases h0 : (es.filter (·.id == k)).length = 0
  · have hrm : L.removeIn tx k = .error .notFound := by
      simp only [removeIn, hdel₁, hdel₂, h0, bind, Except.bind, if_true]
      rfl
    rw [Library.remove, transact_error hbegin hrm]
    exact ⟨es, .removeAbsent (Catalog.count_eq_zero_iff.mp h0), lawful.rollback hs⟩
  · have hrm : L.removeIn tx k = .ok (tx₂, ()) := by
      simp [removeIn, hdel₁, hdel₂, h0, bind, Except.bind, pure, Except.pure]
    have hpresent : ∃ e ∈ es, e.id = k := by
      by_contra hno
      exact h0 (Catalog.count_eq_zero_iff.mpr fun e he hek => hno ⟨e, he, hek⟩)
    rw [Library.remove, transact_ok hbegin hrm]
    exact ⟨_, .removePresent hpresent, lawful.commit hs htx₂⟩

theorem get (lawful : L.Lawful Holds HoldsTx keep) (hs : Holds s es) (hk : k < 2 ^ 64) :
    ∃ es', Catalog.Answers keep es (.get k) (.got (L.get s k).2) es' ∧ Holds (L.get s k).1 es' := by
  obtain ⟨s', r, hfirst, hs', hrel⟩ := lawful.first hs hk
  generalize hfound : es.find? (·.id == k) = found at hrel
  cases hrel with
  | none =>
    have habsent : ∀ e ∈ es, e.id ≠ k := fun e he => by
      simpa using List.find?_eq_none.mp hfound e he
    simp only [Library.get, hfirst]
    exact ⟨es, .getAbsent habsent, hs'⟩
  | @some e d hd =>
    have hk' : e.id = k := by simpa using List.find?_some hfound
    simp only [Library.get, hfirst]
    exact ⟨es, .getPresent (List.mem_of_find?_eq_some hfound) hk' hd, hs'⟩

theorem list (lawful : L.Lawful Holds HoldsTx keep) (hs : Holds s es) :
    ∃ es', Catalog.Answers keep es .list (.listed (L.list s).2) es' ∧ Holds (L.list s).1 es' := by
  obtain ⟨s', ds, hfind, hs', hds⟩ := lawful.find hs
  simp only [Library.list, hfind, Except.mapError]
  exact ⟨es, .list (lawful.sorted hs) hds, hs'⟩

theorem load (lawful : L.Lawful Holds HoldsTx keep) (hs : Holds s es) :
    ∃ es', Catalog.Answers keep es .load (.loaded (L.load s).2) es' ∧ Holds (L.load s).1 es' := by
  obtain ⟨s', ds, hfind, hs', hds⟩ := lawful.find hs
  simp only [Library.load, Library.list, hfind, Except.mapError, Except.map]
  exact ⟨es, .load (lawful.sorted hs) hds, hs'⟩

/-- One call with unsigned ids answers as the catalogue allows, and the store then holds the
entries after it. -/
theorem call (lawful : L.Lawful Holds HoldsTx keep) (hs : Holds s es) {q : Call} (hq : q.Unsigned) :
    ∃ es', Catalog.Answers keep es q (L.call s q).2 es' ∧ Holds (L.call s q).1 es' := by
  cases q with
  | save d => exact lawful.save hs hq
  | remove k => exact lawful.remove hs hq
  | get k => exact lawful.get hs hq
  | list => exact lawful.list hs
  | load => exact lawful.load hs

end Lawful

/-- Over any database library that meets the store's assumptions, calls with unsigned ids made one
after another on a store that holds some entries answer as the catalogue allows, each from the
entries the call before left. -/
theorem replies_follow_catalog {Holds : σ → List Definition → Prop} {HoldsTx : τ → List Definition → Prop}
    {keep : Float → Float} (lawful : L.Lawful Holds HoldsTx keep) {es : List Definition} (hs : Holds s es)
    {calls : List Call} (hcalls : ∀ q ∈ calls, q.Unsigned) : Catalog.Follows keep es calls (L.replies s calls) := by
  induction calls generalizing s es with
  | nil => exact .nil
  | cons q qs ih =>
    obtain ⟨es', hans, hs'⟩ := lawful.call hs (hcalls q List.mem_cons_self)
    exact .cons hans (ih hs' fun q' hq' => hcalls q' (List.mem_cons_of_mem q hq'))

end Library

/-- On the store's own database, just opened: a definition saved with no id, read back, and
removed. -/
theorem replies_follow_catalog_on_store :
    Catalog.Follows storedFloat [] [.save ⟨0, [], 0, 0, []⟩, .get 1, .remove 1]
      (Connection.library.replies {} [.save ⟨0, [], 0, 0, []⟩, .get 1, .remove 1]) :=
  Library.replies_follow_catalog Connection.library_lawful Connection.holds_empty (by decide)

end Airspace.Store
