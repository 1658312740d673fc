import Airspace.Proofs.Collision.Detector
import Airspace.Command.Replay

/-!
# Adding samples in any order

The replay reads every partition of the telemetry topic at once, each partition's samples in
offset order, all into one buffer. The buffer's lock puts the adds in some order, and which one
depends on timing. This module shows that the order does not matter.

A well-formed buffer is determined by its view, the sample it holds at each vehicle and
instant (`Buffer.WellFormed.ext`), and adding a sample changes the view at one vehicle and one
instant only. So two adds commute exactly when they touch different entries of the view or put
the same sample there (`Buffer.WellFormed.add_add_comm_iff`). After any sequence of adds, the
entry at a vehicle and an instant is the last sample added there (`Reference.foldl_add_apply`).
When no two partitions carry different samples of one vehicle at one instant, that last sample
is the same in every interleaving of the partitions: either a single partition writes the
entry, and its own order decides, or several do, and then they all write the same sample
(`getLast?_filter_interleaving`).
-/

namespace Airspace.Track

open Airspace.Time Airspace.Telemetry

/-! ## A buffer is what it holds -/

/-- Two lists strictly increasing in a key and with the same members are the same list. -/
theorem eq_of_pairwise_lt_of_mem_iff {α β : Type} [Preorder β] (key : α → β) {l l' : List α}
    (h : l.Pairwise fun a b => key a < key b) (h' : l'.Pairwise fun a b => key a < key b)
    (hmem : ∀ x, x ∈ l ↔ x ∈ l') : l = l' := by
  have hnodup : ∀ {m : List α}, (m.Pairwise fun a b => key a < key b) → m.Nodup :=
    fun hm => hm.imp fun hlt heq => hlt.ne (congrArg key heq)
  exact List.Perm.eq_of_pairwise (fun _ _ _ _ hab hba => absurd (hab.trans hba) (lt_irrefl _))
    h h' ((List.perm_ext_iff_of_nodup (hnodup h) (hnodup h')).mpr hmem)

namespace Buffer.WellFormed

variable {b : Buffer} (hb : b.WellFormed)
include hb

theorem mem_track_iff (v : String) (x : Sample) : x ∈ b.track v ↔ b.view v (instant x) = some x := by
  rw [hb.view_eq_some_iff]
  simp

/-- A well-formed buffer lists each of its vehicles with that vehicle's track. -/
theorem tracks_eq : b.tracks = b.vehicles.map fun v => (v, b.track v) := by
  rw [Buffer.vehicles, List.map_map]
  conv_lhs => rw [← List.map_id b.tracks]
  exact List.map_congr_left fun e he => Prod.ext rfl (Buffer.track_eq_of_mem hb.increasing he).symm

end Buffer.WellFormed

/-- Two well-formed buffers that hold the same samples are the same buffer: the vehicles and
each track are lists in strictly increasing order, so their members fix them. -/
theorem Buffer.WellFormed.ext {b b' : Buffer} (hb : b.WellFormed) (hb' : b'.WellFormed)
    (hview : b.view = b'.view) : b = b' := by
  have htrack : ∀ v, b.track v = b'.track v := fun v =>
    eq_of_pairwise_lt_of_mem_iff instant (hb.ordered_track v) (hb'.ordered_track v) fun x => by
      rw [hb.mem_track_iff, hb'.mem_track_iff, hview]
  have hvehicles : b.vehicles = b'.vehicles :=
    eq_of_pairwise_lt_of_mem_iff id (List.pairwise_map.mpr hb.increasing)
      (List.pairwise_map.mpr hb'.increasing) fun v => by
        rw [hb.mem_vehicles_iff, hb'.mem_vehicles_iff, hview]
  show Buffer.mk b.tracks = Buffer.mk b'.tracks
  rw [hb.tracks_eq, hb'.tracks_eq, hvehicles]
  simp only [htrack]

/-! ## Two adds -/

theorem Reference.add_apply (M : Reference) (s : Sample) (v : String) (i : Int) :
    M.add s v i = if s.vehicle = v ∧ instant s = i then some s else M v i := by
  by_cases hv : s.vehicle = v
  · subst hv
    by_cases hi : instant s = i
    · subst hi
      simp [Reference.add]
    · simp [Reference.add, hi, Ne.symm hi]
  · simp [Reference.add, hv, Ne.symm hv]

/-- Two adds to the reference commute unless they put different samples at one vehicle and one
instant. -/
theorem Reference.add_add_comm (M : Reference) {a s : Sample}
    (h : a.vehicle ≠ s.vehicle ∨ instant a ≠ instant s ∨ a = s) :
    (M.add a).add s = (M.add s).add a := by
  funext v i
  simp only [Reference.add_apply]
  grind

namespace Buffer.WellFormed

variable {b : Buffer} (hb : b.WellFormed)
include hb

/-- Adding two samples in either order leaves the same buffer exactly when they are of
different vehicles, at different instants, or the same sample; of two different samples of
one vehicle at one instant, the buffer keeps the one added last. At the shared entry the one order
holds `s` and the other `a`. -/
theorem add_add_comm_iff (a s : Sample) :
    (b.add a).add s = (b.add s).add a ↔
      a.vehicle ≠ s.vehicle ∨ a.timestamp.sameInstant s.timestamp = false ∨ a = s := by
  have hviews : ∀ x y : Sample, ((b.add x).add y).view = (b.view.add x).add y := fun x y => by
    rw [(hb.add x).view_add, hb.view_add]
  have hsame : a.timestamp.sameInstant s.timestamp = false ↔ instant a ≠ instant s := by
    rw [← Bool.not_eq_true, sameInstant_eq_true_iff]
    rfl
  rw [hsame]
  constructor
  · intro hcomm
    by_contra hclash
    obtain ⟨hv, hi, hne⟩ : a.vehicle = s.vehicle ∧ instant a = instant s ∧ a ≠ s := by
      simpa only [not_or, not_not] using hclash
    have hentry := congrFun (congrFun (congrArg Buffer.view hcomm) s.vehicle) (instant s)
    rw [hviews, hviews, Reference.add_apply (b.view.add a) s,
      Reference.add_apply (b.view.add s) a, if_pos ⟨rfl, rfl⟩, if_pos ⟨hv, hi⟩] at hentry
    exact hne (Option.some.inj hentry).symm
  · intro h
    refine ext ((hb.add a).add s) ((hb.add s).add a) ?_
    rw [hviews, hviews]
    exact Reference.add_add_comm _ h

end Buffer.WellFormed

/-! ## Many adds -/

/-- Whether a sample is of a vehicle and at an instant. -/
def atEntry (v : String) (i : Int) (s : Sample) : Bool := s.vehicle == v && instant s == i

/-- After adding samples in turn, the entry at a vehicle and an instant is the last sample
added there, or what was held there before. -/
theorem Reference.foldl_add_apply (M : Reference) (l : List Sample) (v : String) (i : Int) :
    l.foldl Reference.add M v i = (l.filter (atEntry v i)).getLast?.or (M v i) := by
  induction l generalizing M with
  | nil => rfl
  | cons x l ih =>
    rw [List.foldl_cons, ih, Reference.add_apply]
    by_cases hx : atEntry v i x
    · have hkey : x.vehicle = v ∧ instant x = i := by simpa [atEntry] using hx
      rw [List.filter_cons_of_pos hx, List.getLast?_cons, if_pos hkey]
      cases (l.filter (atEntry v i)).getLast? <;> rfl
    · have hkey : ¬ (x.vehicle = v ∧ instant x = i) := by simpa [atEntry] using hx
      rw [List.filter_cons_of_neg hx, if_neg hkey]

theorem Buffer.WellFormed.foldl_add {b : Buffer} (hb : b.WellFormed) (l : List Sample) :
    (l.foldl Buffer.add b).WellFormed ∧ (l.foldl Buffer.add b).view = l.foldl Reference.add b.view := by
  have hrun := hb.perform_all (l.map Call.add)
  simp only [List.foldl_map] at hrun
  exact hrun

/-! ## Interleavings -/

/-- An order in which the adds of several sources reach the buffer: each add labelled with the
source that made it, and each source's adds in its own order. -/
def Interleaves (sources : List (List Sample)) (adds : List (Nat × Sample)) : Prop :=
  ∀ p, (adds.filter fun x => x.1 == p).map Prod.snd = sources.getD p []

/-- No two sources carry different samples of one vehicle at one instant. -/
def SourcesAgree (sources : List (List Sample)) : Prop :=
  ∀ p q, p ≠ q → ∀ x ∈ sources.getD p [], ∀ y ∈ sources.getD q [],
    x.vehicle = y.vehicle → x.timestamp.sameInstant y.timestamp = true → x = y

/-- The sources' adds one source after the other, the first labelled `p`. -/
def labelFrom : Nat → List (List Sample) → List (Nat × Sample)
  | _, [] => []
  | p, part :: rest => part.map (p, ·) ++ labelFrom (p + 1) rest

theorem filter_labelFrom (p : Nat) (sources : List (List Sample)) (q : Nat) :
    ((labelFrom p sources).filter fun x => x.1 == q).map Prod.snd =
      if p ≤ q then sources.getD (q - p) [] else [] := by
  induction sources generalizing p with
  | nil => split <;> rfl
  | cons part rest ih =>
    rw [labelFrom, List.filter_append, List.map_append, ih, List.filter_map]
    by_cases hpq : p = q
    · subst hpq
      simp
    · have hnone : List.filter ((fun x : Nat × Sample => x.1 == q) ∘ (p, ·)) part = [] := by
        simp [hpq]
      rw [hnone]
      by_cases hle : p + 1 ≤ q
      · rw [if_pos hle, if_pos (by omega), show q - p = q - (p + 1) + 1 by omega]
        rfl
      · rw [if_neg hle, if_neg (by omega)]
        rfl

/-- One source after the other is an interleaving of the sources. -/
theorem interleaves_labelFrom (sources : List (List Sample)) :
    Interleaves sources (labelFrom 0 sources) := fun q => by
  rw [filter_labelFrom, if_pos (Nat.zero_le q), Nat.sub_zero]

theorem map_snd_labelFrom (p : Nat) (sources : List (List Sample)) :
    (labelFrom p sources).map Prod.snd = sources.flatten := by
  induction sources generalizing p with
  | nil => rfl
  | cons part rest ih => simp [labelFrom, ih, Function.comp_def]

namespace Interleaves

variable {sources : List (List Sample)} {adds : List (Nat × Sample)} (h : Interleaves sources adds)
include h

/-- Each add is a sample of the source it is labelled with. -/
theorem mem_source {x : Nat × Sample} (hx : x ∈ adds) : x.2 ∈ sources.getD x.1 [] := by
  rw [← h x.1]
  exact List.mem_map_of_mem (List.mem_filter.mpr ⟨hx, beq_self_eq_true _⟩)

/-- Each sample of a source is added, labelled with that source. -/
theorem mem_adds {p : Nat} {y : Sample} (hy : y ∈ sources.getD p []) : y ∈ adds.map Prod.snd := by
  rw [← h p] at hy
  obtain ⟨x, hx, rfl⟩ := List.mem_map.mp hy
  exact List.mem_map_of_mem (List.mem_filter.mp hx).1

/-- Where a single source adds samples of the entry, the interleaving adds them in that
source's order. -/
theorem filter_eq_source {v : String} {i : Int} {p : Nat}
    (hp : ∀ r, ∀ z ∈ sources.getD r [], atEntry v i z → r = p) :
    (adds.map Prod.snd).filter (atEntry v i) = (sources.getD p []).filter (atEntry v i) := by
  rw [← h p, List.filter_map, List.filter_map, List.filter_filter]
  congr 1
  refine List.filter_congr fun x hx => ?_
  by_cases hz : atEntry v i x.2
  · have hsrc : x.1 = p := hp x.1 x.2 (h.mem_source hx) hz
    simp [hz, hsrc]
  · simp [hz]

end Interleaves

/-- A list whose every entry is `x`, and that holds `x`, ends with `x`. -/
theorem getLast?_eq_of_forall_eq {α : Type} {l : List α} {x : α} (hx : x ∈ l)
    (hall : ∀ z ∈ l, z = x) : l.getLast? = some x := by
  rw [List.getLast?_eq_some_getLast (List.ne_nil_of_mem hx)]
  exact congrArg some (hall _ (List.getLast_mem _))

/-- When the sources agree, the last sample added at an entry is the same in every
interleaving of them. Where two sources write the entry, every sample written there is the same
one; where at most one does, its own order decides. -/
theorem getLast?_filter_interleaving {sources : List (List Sample)} (hagree : SourcesAgree sources)
    {adds adds' : List (Nat × Sample)} (h : Interleaves sources adds) (h' : Interleaves sources adds')
    (v : String) (i : Int) :
    ((adds.map Prod.snd).filter (atEntry v i)).getLast? =
      ((adds'.map Prod.snd).filter (atEntry v i)).getLast? := by
  by_cases hmany : ∃ p q, p ≠ q ∧ (∃ x ∈ sources.getD p [], atEntry v i x) ∧
      ∃ y ∈ sources.getD q [], atEntry v i y
  · obtain ⟨p, q, hpq, ⟨x, hx, hxe⟩, ⟨y, hy, hye⟩⟩ := hmany
    have hkey : ∀ z w, atEntry v i z → atEntry v i w →
        z.vehicle = w.vehicle ∧ z.timestamp.sameInstant w.timestamp = true := by
      intro z w hz hw
      simp only [atEntry, Bool.and_eq_true, beq_iff_eq] at hz hw
      exact ⟨hz.1.trans hw.1.symm, sameInstant_eq_true_iff.mpr (hz.2.trans hw.2.symm)⟩
    have hall : ∀ r, ∀ z ∈ sources.getD r [], atEntry v i z → z = x := by
      intro r z hz hze
      by_cases hrp : r = p
      · subst hrp
        have hzy := hagree r q hpq z hz y hy (hkey z y hze hye).1 (hkey z y hze hye).2
        have hxy := hagree r q hpq x hx y hy (hkey x y hxe hye).1 (hkey x y hxe hye).2
        exact hzy.trans hxy.symm
      · exact hagree r p hrp z hz x hx (hkey z x hze hxe).1 (hkey z x hze hxe).2
    have hlast : ∀ {l : List (Nat × Sample)}, Interleaves sources l →
        ((l.map Prod.snd).filter (atEntry v i)).getLast? = some x := by
      intro l hl
      refine getLast?_eq_of_forall_eq (List.mem_filter.mpr ⟨hl.mem_adds hx, hxe⟩) fun z hz => ?_
      obtain ⟨hz, hze⟩ := List.mem_filter.mp hz
      obtain ⟨w, hw, rfl⟩ := List.mem_map.mp hz
      exact hall w.1 w.2 (hl.mem_source hw) hze
    rw [hlast h, hlast h']
  · obtain ⟨p, hp⟩ : ∃ p, ∀ r, ∀ z ∈ sources.getD r [], atEntry v i z → r = p := by
      by_cases hsome : ∃ p, ∃ x ∈ sources.getD p [], atEntry v i x
      · obtain ⟨p, x, hx, hxe⟩ := hsome
        refine ⟨p, fun r z hz hze => ?_⟩
        by_contra hrp
        exact hmany ⟨r, p, hrp, ⟨z, hz, hze⟩, x, hx, hxe⟩
      · exact ⟨0, fun r z hz hze => absurd ⟨r, z, hz, hze⟩ hsome⟩
    rw [h.filter_eq_source hp, h'.filter_eq_source hp]

/-- When the sources agree, adding their samples in any interleaving gives the buffer that
adding them one source after the other gives. -/
theorem foldl_add_interleaving {sources : List (List Sample)} (hagree : SourcesAgree sources)
    {adds : List (Nat × Sample)} (h : Interleaves sources adds) :
    (adds.map Prod.snd).foldl Buffer.add Buffer.empty =
      sources.foldl (fun b part => part.foldl Buffer.add b) Buffer.empty := by
  rw [← List.foldl_flatten, ← map_snd_labelFrom 0]
  obtain ⟨hwf, hview⟩ := Buffer.wellFormed_empty.foldl_add (adds.map Prod.snd)
  obtain ⟨hwf', hview'⟩ := Buffer.wellFormed_empty.foldl_add ((labelFrom 0 sources).map Prod.snd)
  refine hwf.ext hwf' ?_
  rw [hview, hview']
  funext v i
  rw [Reference.foldl_add_apply, Reference.foldl_add_apply,
    getLast?_filter_interleaving hagree h (interleaves_labelFrom sources)]

/-- The replay's buffer does not depend on how the partitions' adds interleave. After any
history, two adds commute exactly when they are of different vehicles, at different instants or
of the same sample. And when no two partitions carry different samples of one vehicle at one
instant, every interleaving of the partitions' adds, each partition in its own order, builds the
buffer that adding the partitions one after the other builds, so the report and the flight
windows drawn from it are the same. -/
theorem replay_order_irrelevant :
    (∀ (calls : List Call) (a s : Sample),
      let b := calls.foldl Buffer.perform Buffer.empty
      (b.add a).add s = (b.add s).add a ↔
        a.vehicle ≠ s.vehicle ∨ a.timestamp.sameInstant s.timestamp = false ∨ a = s) ∧
    ∀ (sources : List (List Sample)) (adds : List (Nat × Sample)), SourcesAgree sources →
      Interleaves sources adds →
      let b := (adds.map Prod.snd).foldl Buffer.add Buffer.empty
      let inTurn := sources.foldl (fun b part => part.foldl Buffer.add b) Buffer.empty
      b = inTurn ∧ ∀ obstacles densify,
        Command.reportFleet b obstacles densify = Command.reportFleet inTurn obstacles densify := by
  refine ⟨fun calls a s => ?_, fun sources adds hagree h => ?_⟩
  · exact (Buffer.wellFormed_empty.perform_all calls).1.add_add_comm_iff a s
  · have hb := foldl_add_interleaving hagree h
    exact ⟨hb, fun obstacles densify => by rw [hb]⟩

/-- A fix of `uas-1` at 300 ft some seconds after 2024-06-01T12:00:00Z. -/
def uasFix (seconds : Int) : Sample := Collision.reportAt "uas-1" seconds 300

/-- Two partitions of one vehicle's fixes that both carry the fix at two seconds. -/
def sharedFixPartitions : List (List Sample) := [[uasFix 0, uasFix 2], [uasFix 1, uasFix 2]]

/-- The second partition's fixes reaching the buffer before and between the first's. -/
def crossedAdds : List (Nat × Sample) := [(1, uasFix 1), (0, uasFix 0), (1, uasFix 2), (0, uasFix 2)]

/-- Two partitions that share a fix, replayed with their fixes crossed, leave the buffer they leave
in turn, and so the same fleet report: the fixes of the two partitions are at different instants,
except the shared one. -/
theorem replay_order_irrelevant_shared_fix :
    SourcesAgree sharedFixPartitions ∧ Interleaves sharedFixPartitions crossedAdds ∧
      let b := (crossedAdds.map Prod.snd).foldl Buffer.add Buffer.empty
      let inTurn := sharedFixPartitions.foldl (fun b part => part.foldl Buffer.add b) Buffer.empty
      b = inTurn ∧ ∀ obstacles densify,
        Command.reportFleet b obstacles densify = Command.reportFleet inTurn obstacles densify := by
  have hagree : SourcesAgree sharedFixPartitions := by
    intro p q hpq x hx y hy _ hi
    rcases p with _ | _ | p <;> rcases q with _ | _ | q <;>
      simp only [sharedFixPartitions, List.getD_cons_zero, List.getD_cons_succ, List.getD_nil,
        List.mem_cons, List.not_mem_nil, or_false] at hx hy hpq <;>
      rcases hx with rfl | rfl <;> rcases hy with rfl | rfl <;>
      simp_all [uasFix, Collision.reportAt, Timestamp.sameInstant]
  have hinter : Interleaves sharedFixPartitions crossedAdds := by
    intro p
    rcases p with _ | _ | p <;> simp [crossedAdds, sharedFixPartitions]
  exact ⟨hagree, hinter, replay_order_irrelevant.2 _ _ hagree hinter⟩

end Airspace.Track
