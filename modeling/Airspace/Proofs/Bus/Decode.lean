import Airspace.Proofs.Feed.StateVector

/-!
# Vehicle ids of decoded messages

A report names its vehicle in its body or, failing that, by the message key. The reader
normalizes a vehicle id given in the body: NUL characters go, then white space at either end,
and what is left either is empty or is a `VehicleId` (`vehicleId_normalizeVehicle`). A body
id that normalizes to nothing counts as none, and the key then stands in as it is.

So a decoded sample always has valid coordinates and a nonempty vehicle id, and that id is
normalized unless it is the message key itself (`decodeTelemetry_vehicle_normalized_or_key`).
A key with padding or NUL characters is kept with them: the normalization of the body's id is
not applied to the key.
-/

namespace Airspace.Bus

open Airspace.Telemetry Airspace.Geo

/-- A character of a trimmed text is one of the text: trimming drops a prefix of the text and a
prefix of its reverse. -/
theorem mem_of_mem_trimBlank {c : Char} {x : String} (h : c ∈ (Text.trimBlank x).toList) :
    c ∈ x.toList := by
  rw [Text.trimBlank, String.toList_ofList, List.mem_reverse] at h
  have hrev := (List.dropWhile_sublist _).subset h
  exact (List.dropWhile_sublist _).subset (List.mem_reverse.mp hrev)

/-- A normalized vehicle id that is not empty is kept as it is by the reader. -/
theorem vehicleId_normalizeVehicle {v : String} (h : normalizeVehicle v ≠ "") :
    VehicleId (normalizeVehicle v) where
  ne_empty := h
  no_nul hnul := by
    have hkept := mem_of_mem_trimBlank hnul
    rw [String.toList_ofList, List.mem_filter] at hkept
    simp at hkept
  head_not_blank := (Feed.trimBlank_ends _).1
  last_not_blank := (Feed.trimBlank_ends _).2

/-- The last step of reading a report: a vehicle id given is normalized, leaving none or a
`VehicleId`. -/
theorem vehicle_normalized (r : Sample) :
    (if r.vehicle.isEmpty then r
        else { r with vehicle := normalizeVehicle r.vehicle }).vehicle = "" ∨
      VehicleId (if r.vehicle.isEmpty then r
        else { r with vehicle := normalizeVehicle r.vehicle }).vehicle := by
  split
  · next hempty => exact .inl (String.isEmpty_iff.mp hempty)
  · by_cases hnorm : normalizeVehicle r.vehicle = ""
    · exact .inl hnorm
    · exact .inr (vehicleId_normalizeVehicle hnorm)

/-- A report read from a body names no vehicle or a normalized one. -/
theorem parse_vehicle {raw : List UInt8} {received : Time.Timestamp} {s : Sample}
    (h : Sample.parse raw received = .ok s) : s.vehicle = "" ∨ VehicleId s.vehicle := by
  simp only [Sample.parse] at h
  obtain ⟨body, -, hs⟩ := ok_of_bind_eq_ok h
  cases hs
  exact vehicle_normalized _

/-- What a message decodes to: its report, with the key standing in for a vehicle the report
does not name, provided the vehicle id is then nonempty and the coordinates are valid. The key
stands in for a missing vehicle before the sample is checked. -/
theorem decodeTelemetry_eq_ok {m : Message} {s : Sample} (h : decodeTelemetry m = .ok s) :
    ∃ body, Sample.parse m.value m.time = .ok body ∧
      s = (if body.vehicle.isEmpty then { body with vehicle := m.key } else body) ∧
      s.vehicle ≠ "" ∧ validCoordinate s.position.latitude s.position.longitude = true := by
  unfold decodeTelemetry at h
  split at h
  · cases h
  · next body hparse =>
    refine ⟨body, hparse, ?_⟩
    generalize (if body.vehicle.isEmpty then { body with vehicle := m.key } else body) = r at h ⊢
    dsimp only at h
    split at h
    · cases h
    · next hvehicle =>
      split at h
      · cases h
      · next hcoord =>
        cases h
        refine ⟨rfl, fun hnil => hvehicle (String.isEmpty_iff.mpr hnil), ?_⟩
        simpa using hcoord

/-- A decoded sample has valid coordinates and a nonempty vehicle id, which is normalized
(no NUL characters, no white space at either end) unless it is the message key as given. -/
theorem decodeTelemetry_vehicle_normalized_or_key {m : Message} {s : Sample}
    (h : decodeTelemetry m = .ok s) :
    validCoordinate s.position.latitude s.position.longitude = true ∧ s.vehicle ≠ "" ∧
      (VehicleId s.vehicle ∨ s.vehicle = m.key) := by
  obtain ⟨body, hparse, rfl, hne, hcoord⟩ := decodeTelemetry_eq_ok h
  refine ⟨hcoord, hne, ?_⟩
  split
  · exact .inr rfl
  · next hnamed =>
    rcases parse_vehicle hparse with hnone | hid
    · exact absurd (String.isEmpty_iff.mpr hnone) hnamed
    · exact .inl hid

end Airspace.Bus
