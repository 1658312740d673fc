import Airspace.Proofs.Bus.Telemetry
import Airspace.Proofs.Json.Mismatch
import Airspace.Feed.StateVector

/-!
# Samples of the feed on the bus

The reader gives answers whose time fits 64 bits and whose numbers all lie within binary64
(`decoded_of_read`); it keeps the first type mismatch and reads on, so a clean read is
extracted member by member. From such an answer every sample has valid, finite coordinates, a
finite heading, a UTC time whose seconds fit 64 bits and an id trimmed of white space
(`samples_feedSample`).

That is not all the bus asks. The feed's fix time is any number, so a sample's year may
leave 0 … 9999 and the batch is then refused (`samples_year_ten_thousand_refused`); an
altitude in feet may overflow; an id may hold NUL. Given those, the samples cross the bus
unchanged (`samples_cross_bus`).
-/

namespace Airspace.Feed

open Airspace.Json Airspace.Telemetry Airspace.Time Airspace.Geo Airspace.Bus

/-! ## Reading the answer -/

/-- An answer as the reader gives it: a time that fits 64 bits, and every number among the
entries of every state vector within binary64. -/
structure Response.Decoded (r : Response) : Prop where
  time_lo : -2 ^ 63 ≤ r.time
  time_hi : r.time < 2 ^ 63
  numbers : ∀ row ∈ r.states, ∀ lit, .number lit ∈ row → NumberFits lit

theorem keepsMismatch_readInt64 {ε : Type} (p : Place) (v : Value) :
    KeepsMismatch (readInt64 p v : Reader ε (Option Int)) := by
  unfold readInt64
  split
  · exact keepsMismatch_pure _
  · split
    · exact keepsMismatch_pure _
    · exact keepsMismatch_bind (keepsMismatch_mismatch _) fun _ => keepsMismatch_pure _
  · exact keepsMismatch_bind (keepsMismatch_mismatch _) fun _ => keepsMismatch_pure _

theorem keepsMismatch_readState (key : String) (i : Nat) (v : Value) :
    KeepsMismatch (readState key i v) := by
  unfold readState
  split
  · exact keepsMismatch_pure _
  · exact keepsMismatch_bind (keepsMismatch_checkItems _ _ _ _) fun _ => keepsMismatch_pure _
  · exact keepsMismatch_bind (keepsMismatch_mismatch _) fun _ => keepsMismatch_pure _

theorem keepsMismatch_readStates (key : String) (v : Value) : KeepsMismatch (readStates key v) := by
  unfold readStates
  split
  · exact keepsMismatch_pure _
  · exact keepsMismatch_bind (keepsMismatch_mapM (fun _ => keepsMismatch_readState _ _ _) _)
      fun _ => keepsMismatch_pure _
  · exact keepsMismatch_bind (keepsMismatch_mismatch _) fun _ => keepsMismatch_pure _

theorem keepsMismatch_readMember (r : Response) (k : String) (v : Value) :
    KeepsMismatch (r.readMember k v) := by
  unfold Response.readMember
  split
  · exact keepsMismatch_bind (keepsMismatch_readInt64 _ _) fun _ => keepsMismatch_pure _
  · split
    · exact keepsMismatch_bind (keepsMismatch_readStates _ _) fun _ => keepsMismatch_pure _
    · exact keepsMismatch_pure _

theorem ifRange_some {m n : Int}
    (h : (if (decide (m < -Int.pow 2 63) || decide (m ≥ Int.pow 2 63)) = true then none
      else some m) = some n) :
    -2 ^ 63 ≤ n ∧ n < 2 ^ 63 := by
  split at h
  · cases h
  · next hc =>
    simp only [Option.some.injEq] at h
    subst h
    simp only [Bool.or_eq_true, decide_eq_true_eq, not_or, Int.not_lt, Int.not_le, Int.pow] at hc
    exact ⟨hc.1, hc.2⟩

/-- An integer literal is read only within the signed 64-bit range. -/
theorem integerLiteral?_range {lit : String} {n : Int} (h : integerLiteral? lit = some n) :
    -2 ^ 63 ≤ n ∧ n < 2 ^ 63 := by
  unfold integerLiteral? at h
  split at h
  split at h
  · cases h
  · exact ifRange_some h

theorem readInt64_range {ε : Type} {p : Place} {v : Value} {t : Int} {σ : Option TypeMismatch}
    (h : StateT.run (readInt64 p v : Reader ε (Option Int)) none = .ok (some t, σ)) :
    -2 ^ 63 ≤ t ∧ t < 2 ^ 63 := by
  unfold readInt64 at h
  split at h
  · cases h
  · split at h
    · next n hn =>
      rw [run_pure] at h
      cases h
      exact integerLiteral?_range hn
    · simp [Place.mismatch, run_mismatch] at h
  · simp [Place.mismatch, run_mismatch] at h

/-- A state vector read clean holds only numbers within binary64. -/
theorem readState_clean {key : String} {i : Nat} {v : Value} {row : List Value}
    (h : StateT.run (readState key i v) none = .ok (row, none)) :
    ∀ lit, .number lit ∈ row → NumberFits lit := by
  unfold readState at h
  split at h
  · rw [run_pure] at h
    cases h
    intro lit hmem
    exact absurd hmem List.not_mem_nil
  · next items =>
    obtain ⟨_, hcheck, hpure⟩ := clean_of_bind (fun _ => keepsMismatch_pure _) h
    rw [run_pure] at hpure
    cases hpure
    exact checkItems_clean _ hcheck
  · simp [run_mismatch] at h

theorem readStates_clean {key : String} {v : Value} {rows : List (List Value)}
    (h : StateT.run (readStates key v) none = .ok (some rows, none)) :
    ∀ row ∈ rows, ∀ lit, .number lit ∈ row → NumberFits lit := by
  unfold readStates at h
  split at h
  · rw [run_pure] at h
    cases h
    intro row hrow
    exact absurd hrow List.not_mem_nil
  · obtain ⟨rows', hmap, hpure⟩ := clean_of_bind (fun _ => keepsMismatch_pure _) h
    rw [run_pure] at hpure
    cases hpure
    intro row hrow
    obtain ⟨_, -, hrun⟩ := mapM_clean (fun _ => keepsMismatch_readState _ _ _) hmap row hrow
    exact readState_clean hrun
  · simp [run_mismatch] at h

/-- Each member read clean keeps the answer decoded. -/
theorem readMember_decoded {r r' : Response} {k : String} {v : Value} (hr : r.Decoded)
    (h : StateT.run (r.readMember k v) none = .ok (r', none)) : r'.Decoded := by
  unfold Response.readMember at h
  split at h
  · obtain ⟨o, ho, hpure⟩ := clean_of_bind (fun _ => keepsMismatch_pure _) h
    rw [run_pure] at hpure
    cases hpure
    cases o with
    | none => exact hr
    | some t =>
      obtain ⟨hlo, hhi⟩ := readInt64_range ho
      exact ⟨hlo, hhi, hr.numbers⟩
  · split at h
    · obtain ⟨o, ho, hpure⟩ := clean_of_bind (fun _ => keepsMismatch_pure _) h
      rw [run_pure] at hpure
      cases hpure
      cases o with
      | none => exact hr
      | some rows => exact ⟨hr.time_lo, hr.time_hi, readStates_clean ho⟩
    · rw [run_pure] at h
      cases h
      exact hr

theorem decoded_empty : Response.Decoded {} :=
  ⟨by decide, by decide, fun _ hrow => absurd hrow List.not_mem_nil⟩

/-- Every answer the reader gives is decoded. -/
theorem decoded_of_read {v : Value} {r : Response} (h : (Response.read v).run' = .ok r) :
    r.Decoded := by
  have hrun := run_of_run'_eq_ok h
  unfold Response.read at hrun
  split at hrun
  · rw [run_pure] at hrun
    cases hrun
    exact decoded_empty
  · next members =>
    exact foldlM_clean (fun b ⟨k, v⟩ => keepsMismatch_readMember b k v) Response.Decoded
      (fun b ⟨k, v⟩ b' hb hstep => readMember_decoded hb hstep) members {} r decoded_empty hrun
  · simp [run_mismatch] at hrun

/-! ## Numbers of a state vector -/

/-- A literal reads as a number, never NaN. -/
theorem isNaN_toFloat (l : Decimal.Literal) : l.toFloat.isNaN = false := by
  unfold Decimal.Literal.toFloat
  split
  · exact IEEE754.isNaN_pack _ (by norm_num) (by norm_num)
  · dsimp only
    split
    · cases l.negative <;> decide +kernel
    · split
      · exact IEEE754.isNaN_pack _ (by norm_num) (by norm_num)
      · split <;> exact IEEE754.isNaN_ofParts _

theorem entry_mem {row : List Value} {i : Nat} {lit : String} (h : entry row i = .number lit) :
    .number lit ∈ row := by
  unfold entry at h
  rw [List.getD_eq_getElem?_getD] at h
  cases hget : row[i]? with
  | none =>
    rw [hget] at h
    cases h
  | some x =>
    rw [hget, Option.getD_some] at h
    subst h
    exact List.mem_of_getElem? hget

/-- A number read from a decoded state vector is finite. -/
theorem numberOf_finite {row : List Value} (hrow : ∀ lit, .number lit ∈ row → NumberFits lit)
    {i : Nat} {x : Float} (h : numberOf (entry row i) = some x) : x.isNaN = false ∧ x.isInf = false := by
  unfold numberOf at h
  split at h
  · next lit hentry =>
    obtain ⟨l, hl, hrange⟩ := Option.map_eq_some_iff.mp (hrow lit (entry_mem hentry))
    rw [hl, Option.map_some, Option.some.injEq] at h
    subst h
    exact ⟨isNaN_toFloat l, hrange⟩
  · cases h

/-- Valid coordinates are finite numbers. -/
theorem finite_of_validCoordinate {lat lon : Float} (h : validCoordinate lat lon = true) :
    (lat.isNaN = false ∧ lat.isInf = false) ∧ (lon.isNaN = false ∧ lon.isInf = false) := by
  simp only [validCoordinate, Bool.and_eq_true, decide_eq_true_eq] at h
  obtain ⟨⟨⟨hlat₁, hlat₂⟩, hlon₁⟩, hlon₂⟩ := h
  exact ⟨IEEE754.finite_of_le_of_le hlat₁ hlat₂ (by decide +kernel) (by decide +kernel),
    IEEE754.finite_of_le_of_le hlon₁ hlon₂ (by decide +kernel) (by decide +kernel)⟩

/-! ## State vectors as samples -/

/-- Trimmed text has no white space at either end. It starts where the text without its leading
blanks starts. -/
theorem trimBlank_ends (a : String) :
    (∀ c ∈ (Text.trimBlank a).toList.head?, Text.isBlank c = false) ∧
    (∀ c ∈ (Text.trimBlank a).toList.getLast?, Text.isBlank c = false) := by
  have htrim : (Text.trimBlank a).toList =
      (a.toList.dropWhile Text.isBlank).rdropWhile Text.isBlank := by
    rw [Text.trimBlank, String.toList_ofList]
    rfl
  rw [htrim]
  constructor
  · intro c hc
    obtain ⟨t, ht⟩ : (a.toList.dropWhile Text.isBlank).rdropWhile Text.isBlank <+:
        a.toList.dropWhile Text.isBlank := List.rdropWhile_prefix _ _
    have hhead : (a.toList.dropWhile Text.isBlank).head? = some c := by
      rw [← ht, List.head?_append, hc]
      rfl
    have hnot := List.head?_dropWhile_not Text.isBlank a.toList
    rw [hhead] at hnot
    exact hnot
  · intro c hc
    have hne : (a.toList.dropWhile Text.isBlank).rdropWhile Text.isBlank ≠ [] := by
      intro h
      rw [h] at hc
      cases hc
    rw [List.getLast?_eq_some_getLast hne, Option.mem_def, Option.some.injEq] at hc
    subst hc
    simpa using List.rdropWhile_last_not _ _ hne

theorem toInt64Trunc_range (x : Float) :
    -2 ^ 63 ≤ Binary64.toInt64Trunc x ∧ Binary64.toInt64Trunc x < 2 ^ 63 := by
  unfold Binary64.toInt64Trunc
  split
  · simp [Int.pow]
  · dsimp only
    split
    · simp [Int.pow]
    · next h =>
      simp only [Int.pow, not_or, Int.not_lt, Int.not_le] at h
      exact ⟨h.1, h.2⟩

theorem ofUnix_spec (ts : Int) :
    (Timestamp.ofUnix ts).unix = ts ∧ (Timestamp.ofUnix ts).offset = 0 := by
  simp [Timestamp.ofUnix, Timestamp.ofEpochNanos, nanosPerSecond]

theorem stateSample_spec {t : Int} {st : List Value} {s : Sample} (h : stateSample t st = some s) :
    validCoordinate s.position.latitude s.position.longitude = true ∧
    (∃ a, s.vehicle = Text.trimBlank a) ∧
    (∃ ts, s.timestamp = Timestamp.ofUnix ts ∧ (ts = t ∨ ∃ fix, ts = Binary64.toInt64Trunc fix)) ∧
    (s.heading = 0 ∨ numberOf (entry st 10) = some s.heading) := by
  simp only [stateSample, bind, pure, Option.bind_eq_some_iff, Option.some.injEq] at h
  obtain ⟨_, -, lat, -, lon, -, _, hok, rfl⟩ := h
  have hvalid : validCoordinate lat lon = true := by
    by_contra hc
    simp [guard, hc] at hok
  refine ⟨hvalid, ⟨_, rfl⟩, ⟨_, rfl, ?_⟩, ?_⟩
  · split
    · exact .inr ⟨_, rfl⟩
    · exact .inl rfl
  · cases numberOf (entry st 10) with
    | none => exact .inl rfl
    | some x => exact .inr rfl
/-- What every sample made from a decoded answer has. -/
structure FeedSample (s : Sample) : Prop where
  coordinate : validCoordinate s.position.latitude s.position.longitude = true
  utc : s.timestamp.offset = 0
  in_range : s.timestamp.InInt64Range
  head_not_blank : ∀ c ∈ s.vehicle.toList.head?, Text.isBlank c = false
  last_not_blank : ∀ c ∈ s.vehicle.toList.getLast?, Text.isBlank c = false
  latitude : s.position.latitude.isNaN = false ∧ s.position.latitude.isInf = false
  longitude : s.position.longitude.isNaN = false ∧ s.position.longitude.isInf = false
  heading : s.heading.isNaN = false ∧ s.heading.isInf = false

/-- A sample read from a state vector whose numbers fit, at an answer time within 64 bits, is a feed
sample: its seconds are the answer's time or a truncated fix time, both within 64 bits. -/
theorem feedSample_of_stateSample {t : Int} (ht : -2 ^ 63 ≤ t ∧ t < 2 ^ 63) {st : List Value}
    (hrow : ∀ lit, .number lit ∈ st → NumberFits lit) {s : Sample} (h : stateSample t st = some s) :
    FeedSample s := by
  obtain ⟨hvalid, ⟨a, ha⟩, ⟨ts, hts, hsrc⟩, hheading⟩ := stateSample_spec h
  obtain ⟨hunix, hoff⟩ := ofUnix_spec ts
  have hrange : -2 ^ 63 ≤ ts ∧ ts < 2 ^ 63 := by
    rcases hsrc with rfl | ⟨fix, rfl⟩
    · exact ht
    · exact toInt64Trunc_range fix
  obtain ⟨hlat, hlon⟩ := finite_of_validCoordinate hvalid
  obtain ⟨hhead, hlast⟩ := trimBlank_ends a
  refine ⟨hvalid, hts ▸ hoff, ?_, ha ▸ hhead, ha ▸ hlast, hlat, hlon, ?_⟩
  · rw [hts, Timestamp.InInt64Range, hunix]
    exact hrange
  · rcases hheading with h0 | hnum
    · rw [h0]
      exact ⟨by decide +kernel, by decide +kernel⟩
    · exact numberOf_finite hrow hnum

theorem samples_feedSample {r : Response} (hr : r.Decoded) : ∀ s ∈ r.samples, FeedSample s := by
  intro s hs
  obtain ⟨st, hst, h⟩ := List.mem_filterMap.mp hs
  exact feedSample_of_stateSample ⟨hr.time_lo, hr.time_hi⟩ (hr.numbers st hst) h

/-- A sample of the feed that the bus carries, once its id is nonempty without NUL, its year has
four digits, its altitude in feet is finite and its floats read back from JSON. -/
theorem carried_of_feedSample {s : Sample} (hs : FeedSample s) (hne : s.vehicle ≠ "")
    (hnul : '\x00' ∉ s.vehicle.toList) (hy0 : 0 ≤ s.timestamp.civil.year)
    (hy1 : s.timestamp.civil.year ≤ 9999)
    (halt : s.position.altitudeMsl.isNaN = false ∧ s.position.altitudeMsl.isInf = false)
    (hback : ∀ x ∈ [s.position.latitude, s.position.longitude, s.position.altitudeMsl, s.heading],
      (Decimal.Literal.ofJson? (numberNotation.render x)).map Decimal.Literal.toFloat = some x) :
    s.Carried where
  vehicle := ⟨hne, hnul, hs.head_not_blank, hs.last_not_blank⟩
  latitude := ⟨hs.latitude.1, hs.latitude.2, hback _ (by simp)⟩
  longitude := ⟨hs.longitude.1, hs.longitude.2, hback _ (by simp)⟩
  altitude := ⟨halt.1, halt.2, hback _ (by simp)⟩
  heading := ⟨hs.heading.1, hs.heading.2, hback _ (by simp)⟩
  time := ⟨hs.in_range, hy0, hy1, by rw [hs.utc]; rfl, by rw [hs.utc]; decide⟩

/-- Every sample of a decoded answer (as `decoded_of_read` says every answer read is) has
valid coordinates, finite latitude, longitude and heading, a UTC time whose seconds fit 64
bits, and an id without white space at either end. Published, the samples cross the bus
unchanged, a zero heading of either sign as `0`, provided each has a nonempty id without NUL,
a year in 0 … 9999 and a finite altitude in feet, and its floats read back from the JSON
written for them. -/
theorem samples_cross_bus {r : Response} (hr : r.Decoded) :
    (∀ s ∈ r.samples, FeedSample s) ∧
    ((∀ s ∈ r.samples, s.vehicle ≠ "" ∧ '\x00' ∉ s.vehicle.toList ∧
        0 ≤ s.timestamp.civil.year ∧ s.timestamp.civil.year ≤ 9999 ∧
        (s.position.altitudeMsl.isNaN = false ∧ s.position.altitudeMsl.isInf = false) ∧
        ∀ x ∈ [s.position.latitude, s.position.longitude, s.position.altitudeMsl, s.heading],
          (Decimal.Literal.ofJson? (numberNotation.render x)).map Decimal.Literal.toFloat = some x) →
      ∃ msgs, publishTelemetry r.samples = .ok msgs ∧
        List.Forall₂ (fun (s : Sample) (m : Message) => m.key = s.vehicle ∧ m.time = s.timestamp ∧
          decodeTelemetry m = .ok s.wireImage) r.samples msgs) := by
  have hfeed := samples_feedSample hr
  refine ⟨hfeed, fun hs => publishTelemetry_decodes fun s h => ⟨?_, (hfeed s h).coordinate⟩⟩
  obtain ⟨hne, hnul, hy0, hy1, halt, hback⟩ := hs s h
  exact carried_of_feedSample (hfeed s h) hne hnul hy0 hy1 halt hback

/-- Whether every number among a state vector's entries is within binary64. -/
def numbersFit (row : List Value) : Bool :=
  row.all fun
    | .number lit => (Decimal.Literal.ofJson? lit).map Decimal.Literal.outOfRange == some false
    | _ => true

theorem numberFits_of_numbersFit {row : List Value} (h : numbersFit row = true) :
    ∀ lit, .number lit ∈ row → NumberFits lit := by
  intro lit hlit
  simpa [NumberFits] using List.all_eq_true.mp h _ hlit

/-- An answer is decoded when its time fits 64 bits and every state vector passes the check. -/
theorem decoded_of_numbersFit {r : Response} (htime : -2 ^ 63 ≤ r.time ∧ r.time < 2 ^ 63)
    (hrows : ∀ row ∈ r.states, numbersFit row = true) : r.Decoded :=
  ⟨htime.1, htime.2, fun row hrow => numberFits_of_numbersFit (hrows row hrow)⟩

/-- An answer at 2024-06-01T12:00:00Z of one airborne state vector with the fix time `fix`. -/
def airborneAnswer (fix : String) : Response :=
  ⟨1717243200, [[.string "a1b2c3", .string "UAL1  ", .string "United States", .number fix,
    .number "1717243200", .number "-76.43", .number "38.14", .number "1000", .bool false,
    .number "120", .number "90", .number "0", .null, .number "1000", .null, .bool false,
    .number "0"]]⟩

/-- The sample of a state vector fixed at the answer's time crosses the bus. -/
theorem samples_cross_bus_airborne :
    (∀ s ∈ (airborneAnswer "1717243200").samples, FeedSample s) ∧
    ∃ msgs, publishTelemetry (airborneAnswer "1717243200").samples = .ok msgs ∧
      List.Forall₂ (fun (s : Sample) (m : Message) => m.key = s.vehicle ∧ m.time = s.timestamp ∧
        decodeTelemetry m = .ok s.wireImage) (airborneAnswer "1717243200").samples msgs := by
  have hdec : (airborneAnswer "1717243200").Decoded :=
    decoded_of_numbersFit (by decide) (by decide +kernel)
  exact ⟨(samples_cross_bus hdec).1, (samples_cross_bus hdec).2 (by decide +kernel)⟩

/-- A decoded answer whose fix time lies in the year 10000 gives a sample that cannot be
published: the batch fails. -/
theorem samples_year_ten_thousand_refused : (airborneAnswer "253402300800").Decoded ∧
    (∃ s ∈ (airborneAnswer "253402300800").samples, 9999 < s.timestamp.civil.year) ∧
    ∃ e, publishTelemetry (airborneAnswer "253402300800").samples = .error e := by
  have hdec : (airborneAnswer "253402300800").Decoded :=
    decoded_of_numbersFit (by decide) (by decide +kernel)
  have hyear : ∃ s ∈ (airborneAnswer "253402300800").samples, 9999 < s.timestamp.civil.year := by
    decide +kernel
  obtain ⟨s, hs, hy⟩ := hyear
  exact ⟨hdec, ⟨s, hs, hy⟩, publishTelemetry_error_of_unwritable _ ⟨s, hs, .inr (.inr hy)⟩⟩

end Airspace.Feed
