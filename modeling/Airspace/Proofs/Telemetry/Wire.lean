import Airspace.Proofs.Json.Reading
import Airspace.Proofs.Time.Rfc3339
import Airspace.Proofs.Obstacle.Domain
import Airspace.Proofs.Binary64.Order
import Airspace.Telemetry.Wire

/-!
# Samples read back from the JSON they are written as

A sample is written as an object of up to six members and read back member by member. For
the samples the wire can carry, the reading gives the sample back:

* a float travels unchanged when it is finite and the literal written for it reads back as
  itself (`JsonExact`); the second half is a property of the shortest number formatting,
  taken here as a hypothesis on each float carried;
* a vehicle id travels unchanged when it is nonempty, holds no NUL and has no white space
  at either end (`VehicleId`), for the reader normalizes ids;
* a time travels unchanged when RFC 3339 can write it (`WireTime`), by `read_format`.

`Sample.encode` succeeds on such samples with the object `Sample.members`
(`encode_of_carried`) and fails whenever a float is NaN or infinite or the year leaves
0 … 9999 (`encode_error_of_unwritable`); `Sample.parse` reads the written bytes back as the
sample, a zero heading of either sign as `0` (`parse_members`).
-/

namespace Airspace.Telemetry

open Airspace.Json Airspace.Time Airspace.Geo

theorem ok_of_bind_eq_ok {ε α β : Type} {x : Except ε α} {f : α → Except ε β} {b : β}
    (h : x >>= f = .ok b) : ∃ a, x = .ok a ∧ f a = .ok b := by
  cases x with
  | error e => cases h
  | ok a => exact ⟨a, rfl, h⟩

/-! ## Floats -/

/-- A float that JSON carries unchanged: the writer takes it, being neither NaN nor
infinite, and the literal it writes reads back as the same float. -/
structure JsonExact (x : Float) : Prop where
  not_nan : x.isNaN = false
  not_inf : x.isInf = false
  reads_back : (Decimal.Literal.ofJson? (numberNotation.render x)).map Decimal.Literal.toFloat = some x

theorem encodeNumber_of_finite {x : Float} (hnan : x.isNaN = false) (hinf : x.isInf = false) :
    encodeNumber x = .ok (Value.ofFloat x) := by
  rw [encodeNumber, hnan, hinf]
  rfl

theorem finite_of_encodeNumber {x : Float} {v : Value} (h : encodeNumber x = .ok v) :
    x.isNaN = false ∧ x.isInf = false := by
  cases hnan : x.isNaN <;> cases hinf : x.isInf <;> simp_all [encodeNumber]

/-- A float equal to zero is a number and finite. -/
theorem finite_of_beq_zero {x : Float} (h : (x == 0) = true) : x.isNaN = false ∧ x.isInf = false := by
  obtain ⟨hnan, -, hkey⟩ := IEEE754.beq_iff.mp h
  refine ⟨hnan, ?_⟩
  rw [IEEE754.view_zero] at hkey
  rw [IEEE754.isInf_eq_view]
  cases hv : IEEE754.view x with
  | infinity s =>
    rw [hv] at hkey
    cases s <;> simp [IEEE754.orderKey] at hkey
  | _ => rfl

theorem readable_ofFloat {x : Float} (hx : JsonExact x) : Readable (Value.ofFloat x) := by
  obtain ⟨l, hl, -⟩ := Option.map_eq_some_iff.mp hx.reads_back
  exact Or.inr ⟨_, l, rfl, hl⟩

theorem readFloat_ofFloat {ε : Type} (p : Place) {x : Float} (hx : JsonExact x) :
    (readFloat p (Value.ofFloat x) : Reader ε (Option Float)) = pure (some x) := by
  obtain ⟨l, hl, hval⟩ := Option.map_eq_some_iff.mp hx.reads_back
  have hrange : l.outOfRange = false := by rw [Decimal.Literal.outOfRange, hval, hx.not_inf]
  simp [readFloat, Value.ofFloat, hl, hrange, hval]

/-! ## Vehicle ids -/

/-- A vehicle id that the reader keeps as it is: nonempty, without NUL characters, and
without white space at either end. -/
structure VehicleId (v : String) : Prop where
  ne_empty : v ≠ ""
  no_nul : '\x00' ∉ v.toList
  head_not_blank : ∀ c ∈ v.toList.head?, Text.isBlank c = false
  last_not_blank : ∀ c ∈ v.toList.getLast?, Text.isBlank c = false

theorem dropWhile_isBlank_of_head {cs : List Char} (h : ∀ c ∈ cs.head?, Text.isBlank c = false) :
    cs.dropWhile Text.isBlank = cs := by
  cases cs with
  | nil => rfl
  | cons c cs => simp [h c rfl]

theorem trimBlank_of_vehicleId {v : String} (hv : VehicleId v) : Text.trimBlank v = v := by
  have hrev : ∀ c ∈ v.toList.reverse.head?, Text.isBlank c = false := by
    rw [List.head?_reverse]
    exact hv.last_not_blank
  rw [Text.trimBlank, dropWhile_isBlank_of_head hv.head_not_blank, dropWhile_isBlank_of_head hrev,
    List.reverse_reverse, String.ofList_toList]

theorem normalizeVehicle_of_vehicleId {v : String} (hv : VehicleId v) : normalizeVehicle v = v := by
  have hkeep : v.toList.filter (· ≠ '\x00') = v.toList := by
    rw [List.filter_eq_self]
    intro c hc
    have hne : c ≠ '\x00' := fun h => hv.no_nul (h ▸ hc)
    simpa using hne
  rw [normalizeVehicle, hkeep, String.ofList_toList, trimBlank_of_vehicleId hv]

/-! ## Times -/

/-- A time that RFC 3339 text carries unchanged: its seconds fit 64 bits, its year has four
digits, and its zone is a whole number of minutes from UTC and less than a day away. -/
structure WireTime (t : Timestamp) : Prop where
  in_range : t.InInt64Range
  year_nonneg : 0 ≤ t.civil.year
  year_le : t.civil.year ≤ 9999
  whole_minutes : t.offset % 60 = 0
  zone_lt_day : t.offset.natAbs < 86400

theorem encodeTime_of_wireTime {t : Timestamp} (ht : WireTime t) :
    encodeTime t = .ok (.string t.format) := by
  have hyear : ¬ (t.civil.year < 0 ∨ t.civil.year > 9999) := by
    have := ht.year_nonneg
    have := ht.year_le
    omega
  simp only [encodeTime, if_neg hyear, if_neg (Nat.not_le.mpr ht.zone_lt_day)]

theorem year_of_encodeTime {t : Timestamp} {v : Value} (h : encodeTime t = .ok v) :
    0 ≤ t.civil.year ∧ t.civil.year ≤ 9999 := by
  unfold encodeTime at h
  by_cases hy : t.civil.year < 0 ∨ t.civil.year > 9999
  · rw [if_pos hy] at h
    cases h
  · omega

theorem readTime_format (p : Place) {t : Timestamp} (ht : WireTime t) :
    readTime p (.string t.format) = pure (some t) := by
  simp only [readTime, read_format ht.in_range.1 ht.in_range.2 ht.whole_minutes ht.zone_lt_day
    ht.year_nonneg ht.year_le]

/-! ## Writing a sample -/

/-- A sample that the wire carries unchanged. -/
structure Sample.Carried (s : Sample) : Prop where
  vehicle : VehicleId s.vehicle
  latitude : JsonExact s.position.latitude
  longitude : JsonExact s.position.longitude
  altitude : JsonExact s.position.altitudeMsl
  heading : JsonExact s.heading
  time : WireTime s.timestamp

/-- The members written for a sample, in order; `heading` only when it is not zero. -/
def Sample.members (s : Sample) : List (String × Value) :=
  [("vehicle", .string s.vehicle), ("timestamp", .string s.timestamp.format),
    ("latitude", .ofFloat s.position.latitude), ("longitude", .ofFloat s.position.longitude),
    ("altitude_msl", .ofFloat s.position.altitudeMsl)] ++
  if s.heading == 0 then [] else [("heading", .ofFloat s.heading)]

/-- The sample as it comes back from the wire: a zero heading, of either sign, is not
written and comes back as `0`. -/
def Sample.wireImage (s : Sample) : Sample :=
  { s with heading := if s.heading == 0 then 0 else s.heading }

theorem encode_of_carried {s : Sample} (hs : s.Carried) : s.encode = .ok (.object s.members) := by
  have hpos : encodePosition s.position = .ok [("latitude", .ofFloat s.position.latitude),
      ("longitude", .ofFloat s.position.longitude), ("altitude_msl", .ofFloat s.position.altitudeMsl)] := by
    simp only [encodePosition, encodeNumber_of_finite hs.latitude.not_nan hs.latitude.not_inf,
      encodeNumber_of_finite hs.longitude.not_nan hs.longitude.not_inf,
      encodeNumber_of_finite hs.altitude.not_nan hs.altitude.not_inf]
    rfl
  cases hh : s.heading == 0 <;>
    simp [Sample.encode, Sample.members, encodeTime_of_wireTime hs.time, hpos, hh,
      encodeNumber_of_finite hs.heading.not_nan hs.heading.not_inf, bind, Except.bind, pure,
      Except.pure]

/-- A sample the writer refuses: one of its floats is NaN or infinite, or its year lies
outside 0 … 9999. -/
def Sample.Unwritable (s : Sample) : Prop :=
  (∃ x ∈ [s.position.latitude, s.position.longitude, s.position.altitudeMsl, s.heading],
    x.isNaN = true ∨ x.isInf = true) ∨
  s.timestamp.civil.year < 0 ∨ 9999 < s.timestamp.civil.year

/-- A written sample has finite floats and a year of four digits. The heading is written unless it
equals zero, and a heading equal to zero is finite. -/
theorem writable_of_encode {s : Sample} {v : Value} (h : s.encode = .ok v) :
    (∀ x ∈ [s.position.latitude, s.position.longitude, s.position.altitudeMsl, s.heading],
      x.isNaN = false ∧ x.isInf = false) ∧
    0 ≤ s.timestamp.civil.year ∧ s.timestamp.civil.year ≤ 9999 := by
  obtain ⟨_, htime, h⟩ := ok_of_bind_eq_ok h
  obtain ⟨_, hpos, h⟩ := ok_of_bind_eq_ok h
  obtain ⟨_, hlat, hpos⟩ := ok_of_bind_eq_ok hpos
  obtain ⟨_, hlon, hpos⟩ := ok_of_bind_eq_ok hpos
  obtain ⟨_, halt, -⟩ := ok_of_bind_eq_ok hpos
  have hheading : s.heading.isNaN = false ∧ s.heading.isInf = false := by
    cases hz : s.heading == 0
    · simp only [hz, Bool.false_eq_true, if_false] at h
      obtain ⟨_, hnum, -⟩ := ok_of_bind_eq_ok h
      exact finite_of_encodeNumber hnum
    · exact finite_of_beq_zero hz
  simp only [List.mem_cons, List.not_mem_nil, or_false, forall_eq_or_imp, forall_eq]
  exact ⟨⟨finite_of_encodeNumber hlat, finite_of_encodeNumber hlon, finite_of_encodeNumber halt,
    hheading⟩, year_of_encodeTime htime⟩

theorem encode_error_of_unwritable {s : Sample} (h : s.Unwritable) : ∃ e, s.encode = .error e := by
  cases hv : s.encode with
  | error e => exact ⟨e, rfl⟩
  | ok v =>
    obtain ⟨hfinite, hy0, hy1⟩ := writable_of_encode hv
    rcases h with ⟨x, hx, hbad⟩ | hy | hy
    · obtain ⟨hnan, hinf⟩ := hfinite x hx
      rcases hbad with hbad | hbad
      · rw [hnan] at hbad
        cases hbad
      · rw [hinf] at hbad
        cases hbad
    · omega
    · omega

/-! ## Reading a sample back -/

section Members

variable (s : Sample)

theorem readMember_vehicle (x : String) :
    s.readMember "vehicle" (.string x) = pure { s with vehicle := x } := by
  have h1 : keyMatches "vehicle" "vehicle" = true := by decide +kernel
  simp [Sample.readMember, h1, readText]

theorem readMember_timestamp {t : Timestamp} (ht : WireTime t) :
    s.readMember "timestamp" (.string t.format) = pure { s with timestamp := t } := by
  have h1 : keyMatches "timestamp" "vehicle" = false := by decide +kernel
  have h2 : keyMatches "timestamp" "timestamp" = true := by decide +kernel
  simp [Sample.readMember, h1, h2, readTime_format _ ht]

theorem readMember_latitude {x : Float} (hx : JsonExact x) :
    s.readMember "latitude" (.ofFloat x) = pure { s with position.latitude := x } := by
  have h1 : keyMatches "latitude" "vehicle" = false := by decide +kernel
  have h2 : keyMatches "latitude" "timestamp" = false := by decide +kernel
  have h3 : keyMatches "latitude" "latitude" = true := by decide +kernel
  simp [Sample.readMember, h1, h2, h3, readFloat_ofFloat _ hx]

theorem readMember_longitude {x : Float} (hx : JsonExact x) :
    s.readMember "longitude" (.ofFloat x) = pure { s with position.longitude := x } := by
  have h1 : keyMatches "longitude" "vehicle" = false := by decide +kernel
  have h2 : keyMatches "longitude" "timestamp" = false := by decide +kernel
  have h3 : keyMatches "longitude" "latitude" = false := by decide +kernel
  have h4 : keyMatches "longitude" "longitude" = true := by decide +kernel
  simp [Sample.readMember, h1, h2, h3, h4, readFloat_ofFloat _ hx]

theorem readMember_altitude {x : Float} (hx : JsonExact x) :
    s.readMember "altitude_msl" (.ofFloat x) = pure { s with position.altitudeMsl := x } := by
  have h1 : keyMatches "altitude_msl" "vehicle" = false := by decide +kernel
  have h2 : keyMatches "altitude_msl" "timestamp" = false := by decide +kernel
  have h3 : keyMatches "altitude_msl" "latitude" = false := by decide +kernel
  have h4 : keyMatches "altitude_msl" "longitude" = false := by decide +kernel
  have h5 : keyMatches "altitude_msl" "altitude_msl" = true := by decide +kernel
  simp [Sample.readMember, h1, h2, h3, h4, h5, readFloat_ofFloat _ hx]

theorem readMember_heading {x : Float} (hx : JsonExact x) :
    s.readMember "heading" (.ofFloat x) = pure { s with heading := x } := by
  have h1 : keyMatches "heading" "vehicle" = false := by decide +kernel
  have h2 : keyMatches "heading" "timestamp" = false := by decide +kernel
  have h3 : keyMatches "heading" "latitude" = false := by decide +kernel
  have h4 : keyMatches "heading" "longitude" = false := by decide +kernel
  have h5 : keyMatches "heading" "altitude_msl" = false := by decide +kernel
  have h6 : keyMatches "heading" "heading" = true := by decide +kernel
  simp [Sample.readMember, h1, h2, h3, h4, h5, h6, readFloat_ofFloat _ hx]

end Members

/-- Reading the written members over the zero sample gives the sample back. -/
theorem read_members {s : Sample} (hs : s.Carried) :
    (Sample.read Sample.zero (.object s.members) : Reader ParseError Sample) = pure s.wireImage := by
  cases hh : s.heading == 0 <;>
    simp [Sample.read, Sample.members, hh, readMember_vehicle, readMember_timestamp _ hs.time,
      readMember_latitude _ hs.latitude, readMember_longitude _ hs.longitude,
      readMember_altitude _ hs.altitude, readMember_heading _ hs.heading, Sample.wireImage,
      Sample.zero]

theorem readable_members {s : Sample} (hs : s.Carried) : ∀ m ∈ s.members, Readable m.2 := by
  have hstr : ∀ x : String, Readable (.string x) := fun x => Or.inl ⟨x, rfl⟩
  cases hh : s.heading == 0 <;>
    simp [Sample.members, hh, hstr, readable_ofFloat hs.latitude, readable_ofFloat hs.longitude,
      readable_ofFloat hs.altitude, readable_ofFloat hs.heading]

theorem decode_members {s : Sample} (hs : s.Carried) (style : Style) (hsort : style.sortKeys = false) :
    decode ((Value.object s.members).render style).toUTF8.toList (Sample.read Sample.zero) =
      .ok s.wireImage := by
  obtain ⟨m, ms, hms⟩ : ∃ m ms, s.members = m :: ms := ⟨_, _, rfl⟩
  have hparse := parse_render_object style hsort m ms (hms ▸ readable_members hs)
  rw [← hms] at hparse
  rw [decode, hparse]
  show (Sample.read Sample.zero (.object s.members)).run' = _
  rw [read_members hs]
  rfl

/-- Nothing is dropped before an object. -/
theorem dropLeadingJunk_brace (rest : List UInt8) : dropLeadingJunk (0x7B :: rest) = 0x7B :: rest := by
  rw [dropLeadingJunk, dropLeadingChars.eq_2]
  rfl

/-- The bytes written for a carried sample read back as the sample; a zero time would read
as the time of receipt. -/
theorem parse_members {s : Sample} (hs : s.Carried) (style : Style) (hsort : style.sortKeys = false)
    (received : Timestamp) :
    Sample.parse ((Value.object s.members).render style).toUTF8.toList received =
      .ok (if s.timestamp.isZero then { s.wireImage with timestamp := received } else s.wireImage) := by
  have hkeep := dropLeadingJunk_brace
    ((",".intercalate (s.members.map (memberText style))).toUTF8.toList ++ [0x7D])
  rw [← render_object_bytes style hsort] at hkeep
  have hvehicle : s.vehicle.isEmpty = false := by
    simpa [String.isEmpty_iff] using hs.vehicle.ne_empty
  rw [Sample.parse, hkeep, decode_members hs style hsort]
  by_cases hzero : s.timestamp.isZero <;>
    simp [hzero, bind, Except.bind, pure, Except.pure, Sample.wireImage, hvehicle,
      normalizeVehicle_of_vehicleId hs.vehicle]

end Airspace.Telemetry
