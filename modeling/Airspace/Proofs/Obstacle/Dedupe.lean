import Mathlib.Data.List.Chain
import Mathlib.Data.List.GetD
import Airspace.Obstacle.Circuit
import Airspace.Scalar.Binary64

/-!
# What collapsing coincident waypoints keeps, in any arithmetic

Dropping repeats keeps the first waypoint and each waypoint that does not coincide with the
one given just before it; dropping the closing run then keeps the first few, the last of which
does not coincide with the first. In any arithmetic the circuit is therefore a subsequence of
the waypoints that starts with the first (`dedupe_sublist`, `head?_dedupe`), and its closing
leg joins two waypoints that do not coincide (`dropClosing_last_first`).

A waypoint is compared with the one given just before it, not with the last one kept, so the
inner legs need more. Where coinciding is symmetric and transitive among the waypoints
(`CoincidenceTransitive`), as it is over exact arithmetic, a dropped waypoint coincides with
the last one kept, and so does the next one if it is dropped in turn: no two waypoints kept one
after the other coincide (`CoincidenceTransitive.dedupe_legs_apart`), and a second pass keeps
everything (`CoincidenceTransitive.dedupe_dedupe`). In binary64 coinciding is not transitive:
latitudes `1e-160` and `-1e-160` are each at distance zero from the equator, their haversine
terms underflowing, but not from each other (`dedupe_leaves_underflowing_coincidence`).
-/

namespace Airspace.Obstacle

open Airspace.Geo Airspace.Scalar
open scoped List

section Coincidence

variable {α : Type} [Scalar α]

/-- A waypoint coincides with another when its distance to it is exactly zero; a NaN distance
is no coincidence. -/
def Coincide (a b : Waypoint α) : Prop := (waypointDistance a b == 0) = true

instance (a b : Waypoint α) : Decidable (Coincide a b) :=
  inferInstanceAs (Decidable ((waypointDistance a b == 0) = true))

theorem not_coincide_iff {a b : Waypoint α} :
    ¬ Coincide a b ↔ (waypointDistance a b != 0) = true := by
  simp [Coincide, bne]

/-- Among the waypoints of a list, coinciding is symmetric and transitive. It need not be
reflexive: a waypoint with a NaN coordinate coincides with nothing. -/
structure CoincidenceTransitive (ws : List (Waypoint α)) : Prop where
  symm : ∀ a ∈ ws, ∀ b ∈ ws, Coincide a b → Coincide b a
  trans : ∀ a ∈ ws, ∀ b ∈ ws, ∀ c ∈ ws, Coincide a b → Coincide b c → Coincide a c

theorem CoincidenceTransitive.not_coincide_symm {ws : List (Waypoint α)}
    (hws : CoincidenceTransitive ws) {a b : Waypoint α} (ha : a ∈ ws) (hb : b ∈ ws)
    (h : ¬ Coincide a b) : ¬ Coincide b a :=
  fun hba => h (hws.symm b hb a ha hba)

/-! ## Dropping repeats -/

theorem keepMoved_sublist (prev : Waypoint α) (rest : List (Waypoint α)) :
    dropRepeats.keepMoved prev rest <+ rest := by
  induction rest generalizing prev with
  | nil => exact List.Sublist.slnil
  | cons w rest ih =>
    simp only [dropRepeats.keepMoved]
    split
    · exact (ih w).cons_cons w
    · exact (ih w).cons w

theorem dropRepeats_sublist (ws : List (Waypoint α)) : dropRepeats ws <+ ws := by
  cases ws with
  | nil => exact List.Sublist.slnil
  | cons w rest => exact (keepMoved_sublist w rest).cons_cons w

/-- What follows an anchor in a chain of kept waypoints, each not coinciding with the one kept
before it. The anchor is the last waypoint kept and `prev` the last one seen, which coincides
with the anchor when it is not the anchor itself: a dropped waypoint coincides with the one
before it, and transitivity carries that back to the anchor. A kept waypoint becomes the anchor,
and could coincide with the old one only through `prev`. -/
theorem CoincidenceTransitive.isChain_keepMoved {ws : List (Waypoint α)}
    (hws : CoincidenceTransitive ws) {a prev : Waypoint α} (ha : a ∈ ws) (hprev : prev ∈ ws)
    (hsame : prev = a ∨ Coincide prev a) (rest : List (Waypoint α)) (hrest : rest ⊆ ws) :
    (a :: dropRepeats.keepMoved prev rest).IsChain fun x y => ¬ Coincide y x := by
  induction rest generalizing a prev with
  | nil => exact List.isChain_singleton a
  | cons w rest ih =>
    have hw : w ∈ ws := hrest List.mem_cons_self
    have hrest' : rest ⊆ ws := fun v hv => hrest (List.mem_cons_of_mem w hv)
    simp only [dropRepeats.keepMoved]
    split
    · rename_i hmoved
      have hwp : ¬ Coincide w prev := not_coincide_iff.mpr hmoved
      rw [List.isChain_cons_cons]
      refine ⟨fun hwa => ?_, ih hw hw (.inl rfl) hrest'⟩
      rcases hsame with rfl | hpa
      · exact hwp hwa
      · exact hwp (hws.trans w hw a ha prev hprev hwa (hws.symm prev hprev a ha hpa))
    · rename_i hstill
      have hwp : Coincide w prev := not_not.mp (mt not_coincide_iff.mp hstill)
      refine ih ha hw (.inr ?_) hrest'
      rcases hsame with rfl | hpa
      · exact hwp
      · exact hws.trans w hw prev hprev a ha hwp hpa

theorem CoincidenceTransitive.isChain_dropRepeats {ws : List (Waypoint α)}
    (hws : CoincidenceTransitive ws) : (dropRepeats ws).IsChain fun x y => ¬ Coincide y x := by
  cases ws with
  | nil => exact List.IsChain.nil
  | cons w rest =>
    exact hws.isChain_keepMoved List.mem_cons_self List.mem_cons_self (.inl rfl) rest
      (List.subset_cons_self w rest)

/-- A chain of waypoints each not coinciding with the one before it has no repeat to drop. -/
theorem keepMoved_of_isChain {prev : Waypoint α} {rest : List (Waypoint α)}
    (h : (prev :: rest).IsChain fun x y => ¬ Coincide y x) :
    dropRepeats.keepMoved prev rest = rest := by
  induction rest generalizing prev with
  | nil => rfl
  | cons w rest ih =>
    rw [List.isChain_cons_cons] at h
    simp only [dropRepeats.keepMoved, not_coincide_iff.mp h.1, if_true, ih h.2]

theorem dropRepeats_of_isChain {ws : List (Waypoint α)}
    (h : ws.IsChain fun x y => ¬ Coincide y x) : dropRepeats ws = ws := by
  cases ws with
  | nil => rfl
  | cons w rest => rw [dropRepeats, keepMoved_of_isChain h]

/-! ## Closing the loop -/

/-- Dropping trailing waypoints keeps the first `k` of them, for some `k`. -/
theorem dropClosing_eq_take (ws : List (Waypoint α)) : ∃ k, dropClosing ws = ws.take k := by
  fun_induction dropClosing ws with
  | case1 ws _ _ _ _ _ _ ih =>
    obtain ⟨k, hk⟩ := ih
    exact ⟨min k (ws.length - 1), by rw [hk, List.dropLast_eq_take, List.take_take]⟩
  | case2 ws => exact ⟨ws.length, List.take_length.symm⟩
  | case3 ws => exact ⟨ws.length, List.take_length.symm⟩
  | case4 ws => exact ⟨ws.length, List.take_length.symm⟩

theorem head?_dropClosing (ws : List (Waypoint α)) : (dropClosing ws).head? = ws.head? := by
  fun_induction dropClosing ws with
  | case1 ws hlong _ _ _ _ _ ih => rw [ih, List.head?_dropLast, if_pos hlong]
  | case2 ws => rfl
  | case3 ws => rfl
  | case4 ws => rfl

/-- With two or more waypoints left, the last does not coincide with the first. -/
theorem dropClosing_last_first (ws : List (Waypoint α)) (hlong : 2 ≤ (dropClosing ws).length)
    {first last : Waypoint α} (hfirst : (dropClosing ws).head? = some first)
    (hlast : (dropClosing ws).getLast? = some last) : ¬ Coincide last first := by
  fun_induction dropClosing ws with
  | case1 ws _ _ _ _ _ _ ih => exact ih hlong hfirst hlast
  | case2 ws _ first' last' hlast' hfirst' hkeep =>
    rw [hfirst, Option.some.injEq] at hfirst'
    rw [hlast, Option.some.injEq] at hlast'
    subst hfirst' hlast'
    exact hkeep
  | case3 ws _ hnone => exact (hnone first last hfirst hlast).elim
  | case4 ws hshort => omega

/-- A list whose last waypoint does not coincide with its first has no closing run. -/
theorem dropClosing_eq_self {ws : List (Waypoint α)}
    (h : 2 ≤ ws.length → ∀ first ∈ ws.head?, ∀ last ∈ ws.getLast?, ¬ Coincide last first) :
    dropClosing ws = ws := by
  rw [dropClosing]
  split
  · rename_i hlong
    split
    · rename_i first last hfirst hlast
      exact if_neg (h (by omega) first hfirst last hlast)
    · rfl
  · rfl

theorem dropClosing_dropClosing (ws : List (Waypoint α)) :
    dropClosing (dropClosing ws) = dropClosing ws :=
  dropClosing_eq_self fun hlong _ hfirst _ hlast =>
    dropClosing_last_first ws hlong (Option.mem_def.mp hfirst) (Option.mem_def.mp hlast)

/-! ## The circuit -/

theorem dedupe_sublist (ws : List (Waypoint α)) : dedupe ws <+ ws := by
  obtain ⟨k, hk⟩ := dropClosing_eq_take (dropRepeats ws)
  rw [dedupe, hk]
  exact (List.take_sublist k _).trans (dropRepeats_sublist ws)

theorem head?_dedupe (ws : List (Waypoint α)) : (dedupe ws).head? = ws.head? := by
  rw [dedupe, head?_dropClosing]
  cases ws <;> rfl

theorem CoincidenceTransitive.isChain_dedupe {ws : List (Waypoint α)}
    (hws : CoincidenceTransitive ws) : (dedupe ws).IsChain fun x y => ¬ Coincide y x := by
  obtain ⟨k, hk⟩ := dropClosing_eq_take (dropRepeats ws)
  rw [dedupe, hk]
  exact hws.isChain_dropRepeats.take k

/-- Every leg of a circuit of two or more waypoints, the closing one included, joins two
waypoints neither of which coincides with the other: an inner leg joins consecutive waypoints of
the chain, and the closing leg goes back to the first waypoint. -/
theorem CoincidenceTransitive.dedupe_legs_apart {ws : List (Waypoint α)}
    (hws : CoincidenceTransitive ws) (hn : 2 ≤ (dedupe ws).length) :
    ∀ i < (dedupe ws).length,
      ¬ Coincide ((dedupe ws).getD i ⟨0, Position.origin⟩)
          ((dedupe ws).getD ((i + 1) % (dedupe ws).length) ⟨0, Position.origin⟩) ∧
        ¬ Coincide ((dedupe ws).getD ((i + 1) % (dedupe ws).length) ⟨0, Position.origin⟩)
          ((dedupe ws).getD i ⟨0, Position.origin⟩) := by
  intro i hi
  have hnext := Nat.mod_lt (i + 1) (show 0 < (dedupe ws).length by omega)
  have hmem : ∀ j (hj : j < (dedupe ws).length), (dedupe ws)[j] ∈ ws :=
    fun j hj => (dedupe_sublist ws).subset (List.getElem_mem hj)
  rw [List.getD_eq_getElem _ _ hi, List.getD_eq_getElem _ _ hnext]
  by_cases hlast : i + 1 < (dedupe ws).length
  · simp only [Nat.mod_eq_of_lt hlast]
    have hleg : ¬ Coincide (dedupe ws)[i + 1] (dedupe ws)[i] := hws.isChain_dedupe.getElem i hlast
    exact ⟨hws.not_coincide_symm (hmem _ hlast) (hmem i hi) hleg, hleg⟩
  · have hi' : i = (dedupe ws).length - 1 := by omega
    simp only [show i + 1 = (dedupe ws).length by omega, Nat.mod_self]
    have hleg : ¬ Coincide (dedupe ws)[i] (dedupe ws)[0] := by
      refine dropClosing_last_first (dropRepeats ws) hn ?_ ?_
      · exact List.head?_eq_getElem?.trans (List.getElem?_eq_getElem _)
      · change (dedupe ws).getLast? = _
        rw [List.getLast?_eq_getElem?, ← hi']
        exact List.getElem?_eq_getElem hi
    exact ⟨hleg, hws.not_coincide_symm (hmem i hi) (hmem 0 (by omega)) hleg⟩

/-- A second pass finds nothing to drop. -/
theorem CoincidenceTransitive.dedupe_dedupe {ws : List (Waypoint α)}
    (hws : CoincidenceTransitive ws) : dedupe (dedupe ws) = dedupe ws := by
  rw [dedupe, dropRepeats_of_isChain hws.isChain_dedupe, dedupe, dropClosing_dropClosing]

/-- Collapsing coincident waypoints leaves a subsequence that starts with the first waypoint and
whose closing leg has nonzero length. Where coinciding is symmetric and transitive among the
waypoints, every leg has nonzero length either way round, and a second pass changes nothing. -/
theorem dedupe_collapses_coincident_runs (ws : List (Waypoint α)) :
    dedupe ws <+ ws ∧ (dedupe ws).head? = ws.head? ∧
      (2 ≤ (dedupe ws).length → ∀ first ∈ (dedupe ws).head?, ∀ last ∈ (dedupe ws).getLast?,
        (waypointDistance last first != 0) = true) ∧
      (CoincidenceTransitive ws →
        (2 ≤ (dedupe ws).length → ∀ i < (dedupe ws).length,
          (waypointDistance ((dedupe ws).getD i ⟨0, Position.origin⟩)
              ((dedupe ws).getD ((i + 1) % (dedupe ws).length) ⟨0, Position.origin⟩) != 0) = true ∧
            (waypointDistance ((dedupe ws).getD ((i + 1) % (dedupe ws).length) ⟨0, Position.origin⟩)
              ((dedupe ws).getD i ⟨0, Position.origin⟩) != 0) = true) ∧
        dedupe (dedupe ws) = dedupe ws) := by
  refine ⟨dedupe_sublist ws, head?_dedupe ws, fun hn first hfirst last hlast => ?_,
    fun hws => ⟨fun hn i hi => ?_, hws.dedupe_dedupe⟩⟩
  · exact not_coincide_iff.mp (dropClosing_last_first (dropRepeats ws) hn hfirst hlast)
  · obtain ⟨hto, hfrom⟩ := hws.dedupe_legs_apart hn i hi
    exact ⟨not_coincide_iff.mp hto, not_coincide_iff.mp hfrom⟩

end Coincidence

/-! ## In binary64 -/

/-- A fix given twice at the origin, then one a hundred feet above it. -/
def repeatedFix : List (Waypoint Float) :=
  [⟨0, ⟨0, 0, 0⟩⟩, ⟨1, ⟨0, 0, 0⟩⟩, ⟨2, ⟨0, 0, 100⟩⟩]

theorem dedupe_collapses_coincident_runs_repeated_fix :
    CoincidenceTransitive repeatedFix ∧ dedupe (dedupe repeatedFix) = dedupe repeatedFix :=
  have hws : CoincidenceTransitive repeatedFix := ⟨by decide +kernel, by decide +kernel⟩
  ⟨hws, ((dedupe_collapses_coincident_runs repeatedFix).2.2.2 hws).2⟩

/-- Fixes on the prime meridian a hair north and south of the equator, after one on it:
each is at distance zero from the one on the equator but not from the other. -/
def underflowingFixes : List (Waypoint Float) :=
  [⟨0, ⟨0, 0, 0⟩⟩, ⟨1, ⟨1e-160, 0, 0⟩⟩, ⟨2, ⟨-1e-160, 0, 0⟩⟩, ⟨3, ⟨1, 1, 0⟩⟩]

/-- The fix south of the equator is kept after the one on it, at distance zero from it, and a
second pass drops it. -/
theorem dedupe_leaves_underflowing_coincidence :
    2 ≤ (dedupe underflowingFixes).length ∧
      (waypointDistance ((dedupe underflowingFixes).getD 0 ⟨0, Position.origin⟩)
        ((dedupe underflowingFixes).getD 1 ⟨0, Position.origin⟩) != 0) = false ∧
      dedupe (dedupe underflowingFixes) ≠ dedupe underflowingFixes := by
  have hruns : (dedupe underflowingFixes).length = 3 ∧
      (waypointDistance ((dedupe underflowingFixes).getD 0 ⟨0, Position.origin⟩)
        ((dedupe underflowingFixes).getD 1 ⟨0, Position.origin⟩) != 0) = false ∧
      (dedupe (dedupe underflowingFixes)).length = 2 := by
    decide +kernel
  refine ⟨by omega, hruns.2.1, fun hsame => ?_⟩
  have hlen := congrArg List.length hsame
  omega

end Airspace.Obstacle
