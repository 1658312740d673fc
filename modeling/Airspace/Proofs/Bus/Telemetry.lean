import Airspace.Proofs.Telemetry.Wire
import Airspace.Bus.Message

/-!
# Telemetry across the bus

Publishing writes one message per sample, in order, keyed by the vehicle and stamped with
the sample's time; decoding a message reads its value as a report received at the message's
time. For samples the wire carries (`Sample.Carried`) with valid coordinates, every message
decodes to its sample, a zero heading of either sign as `0` (`publishTelemetry_round_trip`);
a sample that cannot be written makes the whole batch fail, so nothing is written.

The run lemmas follow `publishTelemetry`, one sample at a time: a written sample puts its
message in front of the rest (`publishTelemetry_cons_ok`), a refused one stops the batch
(`publishTelemetry_cons_error`).
-/

namespace Airspace.Bus

open Airspace.Telemetry Airspace.Json Airspace.Time Airspace.Geo

/-- The message published for a sample the wire carries. -/
def publishedMessage (s : Sample) : Message :=
  ⟨s.vehicle, wireBytes (.object s.members), s.timestamp, 0, 0⟩

theorem publishTelemetry_cons_ok {s : Sample} {v : Value} (h : s.encode = .ok v) (rest : List Sample) :
    publishTelemetry (s :: rest) =
      (publishTelemetry rest).map (⟨s.vehicle, wireBytes v, s.timestamp, 0, 0⟩ :: ·) := by
  simp only [publishTelemetry, List.mapM_cons, h]
  cases publishTelemetry rest <;> rfl

theorem publishTelemetry_cons_error {s : Sample} {e : EncodeError} (h : s.encode = .error e)
    (rest : List Sample) : publishTelemetry (s :: rest) = .error ⟨"sample", s.vehicle, e⟩ := by
  simp only [publishTelemetry, List.mapM_cons, h]
  rfl

/-- Carried samples are published as their messages, in order. -/
theorem publishTelemetry_of_carried :
    ∀ samples : List Sample, (∀ s ∈ samples, s.Carried) →
      publishTelemetry samples = .ok (samples.map publishedMessage)
  | [], _ => rfl
  | s :: rest, hs => by
    rw [publishTelemetry_cons_ok (encode_of_carried (hs s List.mem_cons_self)),
      publishTelemetry_of_carried rest fun x hx => hs x (List.mem_cons_of_mem _ hx)]
    rfl

/-- One sample that cannot be written fails the batch. -/
theorem publishTelemetry_error_of_unwritable :
    ∀ samples : List Sample, (∃ s ∈ samples, s.Unwritable) → ∃ e, publishTelemetry samples = .error e
  | [], ⟨_, hs, _⟩ => absurd hs List.not_mem_nil
  | s :: rest, ⟨x, hx, hbad⟩ => by
    cases hv : s.encode with
    | error e => exact ⟨_, publishTelemetry_cons_error hv rest⟩
    | ok v =>
      rcases List.mem_cons.mp hx with rfl | hrest
      · obtain ⟨e, he⟩ := encode_error_of_unwritable hbad
        rw [he] at hv
        cases hv
      · obtain ⟨e, he⟩ := publishTelemetry_error_of_unwritable rest ⟨x, hrest, hbad⟩
        exact ⟨e, by rw [publishTelemetry_cons_ok hv, he]; rfl⟩

/-- The message of a carried sample with valid coordinates decodes to the sample. The message's
time, standing in for a zero sample time, is the sample's own. -/
theorem decodeTelemetry_publishedMessage {s : Sample} (hs : s.Carried)
    (hcoord : validCoordinate s.position.latitude s.position.longitude = true) :
    decodeTelemetry (publishedMessage s) = .ok s.wireImage := by
  have hreceived : (if s.timestamp.isZero then { s.wireImage with timestamp := s.timestamp }
      else s.wireImage) = s.wireImage := by
    split <;> rfl
  have hvehicle : s.vehicle.isEmpty = false := by
    simpa [String.isEmpty_iff] using hs.vehicle.ne_empty
  simp only [decodeTelemetry, publishedMessage, wireBytes]
  rw [parse_members hs _ rfl, hreceived]
  simp [Sample.wireImage, hvehicle, hcoord]

/-- Carried samples with valid coordinates are published as messages, one per sample and in
order, each decoding to its sample. -/
theorem publishTelemetry_decodes {samples : List Sample}
    (hs : ∀ s ∈ samples, s.Carried ∧ validCoordinate s.position.latitude s.position.longitude = true) :
    ∃ msgs, publishTelemetry samples = .ok msgs ∧
      List.Forall₂ (fun (s : Sample) (m : Message) => m.key = s.vehicle ∧ m.time = s.timestamp ∧
        decodeTelemetry m = .ok s.wireImage) samples msgs := by
  refine ⟨_, publishTelemetry_of_carried samples fun s h => (hs s h).1, ?_⟩
  rw [List.forall₂_map_right_iff, List.forall₂_same]
  intro s h
  exact ⟨rfl, rfl, decodeTelemetry_publishedMessage (hs s h).1 (hs s h).2⟩

/-- Publishing samples the wire carries, with valid coordinates, writes one message per
sample, in order, keyed by the vehicle and stamped with the sample's time, and each message
decodes to its sample, a zero heading of either sign as `0`. A batch holding a sample with a
NaN or infinite float, or a year outside 0 … 9999, fails as a whole. -/
theorem publishTelemetry_round_trip (samples : List Sample) :
    ((∀ s ∈ samples, s.Carried ∧ validCoordinate s.position.latitude s.position.longitude = true) →
      ∃ msgs, publishTelemetry samples = .ok msgs ∧
        List.Forall₂ (fun (s : Sample) (m : Message) => m.key = s.vehicle ∧ m.time = s.timestamp ∧
          decodeTelemetry m = .ok s.wireImage) samples msgs) ∧
    ((∃ s ∈ samples, s.Unwritable) → ∃ e, publishTelemetry samples = .error e) :=
  ⟨publishTelemetry_decodes, publishTelemetry_error_of_unwritable samples⟩

/-- A report of `uas-1` at 2024-06-01T12:00:00Z crosses the bus unchanged, and one with a NaN
latitude is refused. -/
theorem publishTelemetry_round_trip_uas :
    (∃ msgs, publishTelemetry [⟨"uas-1", ⟨1717243200, 0, 0, by decide⟩, ⟨38.1, -76.4, 200⟩, 90⟩] =
        .ok msgs ∧
      List.Forall₂ (fun (s : Sample) (m : Message) => m.key = s.vehicle ∧ m.time = s.timestamp ∧
        decodeTelemetry m = .ok s.wireImage)
        [⟨"uas-1", ⟨1717243200, 0, 0, by decide⟩, ⟨38.1, -76.4, 200⟩, 90⟩] msgs) ∧
    ∃ e, publishTelemetry [⟨"uas-1", ⟨1717243200, 0, 0, by decide⟩, ⟨Binary64.nan, -76.4, 200⟩, 90⟩] =
      .error e := by
  have hchars : "uas-1".toList = ['u', 'a', 's', '-', '1'] := by decide +kernel
  have hcarried : Sample.Carried ⟨"uas-1", ⟨1717243200, 0, 0, by decide⟩, ⟨38.1, -76.4, 200⟩, 90⟩ :=
    { vehicle := ⟨by decide, by decide +kernel, by simp [hchars, Text.isBlank],
        by simp [hchars, Text.isBlank]⟩
      latitude := ⟨by decide +kernel, by decide +kernel, by decide +kernel⟩
      longitude := ⟨by decide +kernel, by decide +kernel, by decide +kernel⟩
      altitude := ⟨by decide +kernel, by decide +kernel, by decide +kernel⟩
      heading := ⟨by decide +kernel, by decide +kernel, by decide +kernel⟩
      time := ⟨by decide, by decide +kernel, by decide +kernel, by decide, by decide⟩ }
  refine ⟨(publishTelemetry_round_trip _).1 ?_, (publishTelemetry_round_trip _).2 ?_⟩
  · intro s hs
    rw [List.mem_singleton.mp hs]
    exact ⟨hcarried, by decide +kernel⟩
  · exact ⟨_, List.mem_singleton_self _, .inl ⟨_, List.mem_cons_self, .inl (by decide +kernel)⟩⟩

end Airspace.Bus
