import Airspace.Time.Rfc3339
import Airspace.Proofs.Text.Utf8

/-!
# RFC 3339: reading back what was written

A timestamp is written as its civil date and time at its own offset, the
fraction without trailing zeros and the zone, and the layout
`2006-01-02T15:04:05Z07:00` reads that text back as the same timestamp
(`read_format`), for every timestamp that can be written: a year in 0 … 9999,
a zone a whole number of minutes from UTC and less than a day away, seconds
within the signed 64-bit range.

The calendar conversion `civilFromDays` is inverted by `daysFromCivil` and gives a
date of the calendar (`daysFromCivil_civilFromDays`, `civilFromDays_valid`). The
proofs split a day of the 400-year era into century, four-year block and day,
where the leap days fall.
-/

namespace Airspace.Time

/-! ## The calendar -/

theorem yoe_bounds {doe : Int} (h0 : 0 ≤ doe) (h1 : doe < 146097) :
    0 ≤ (doe - doe / 1460 + doe / 36524 - doe / 146096) / 365 ∧
      (doe - doe / 1460 + doe / 36524 - doe / 146096) / 365 < 400 := by
  omega

/-- A day of a 400-year era other than its last, split into the century, the four-year
block within it and the day within that block; with it, the year within the era. The leap days
passed: one per block (`q`), 24 per century, and `δ` within the block. -/
theorem era_day_split {doe yoe : Int} (h0 : 0 ≤ doe) (h1 : doe < 146096)
    (hyoe : yoe = (doe - doe / 1460 + doe / 36524 - doe / 146096) / 365) :
    ∃ c q s δ k : Int, doe = 36524 * c + 1461 * q + s ∧ 0 ≤ c ∧ c < 4 ∧ 0 ≤ q ∧ q < 25 ∧
      0 ≤ s ∧ s < 1461 ∧ (q = 24 → s < 1460) ∧ δ = (24 * c + q + s) / 1460 ∧
      k = (s - δ) / 365 ∧ 0 ≤ k ∧ k ≤ 3 ∧ yoe = 100 * c + 4 * q + k ∧
      yoe / 4 = 25 * c + q ∧ yoe / 100 = c := by
  obtain ⟨c, q, s, rfl, hc0, hc1, hq0, hq1, hs0, hs1, hend⟩ : ∃ c q s : Int,
      doe = 36524 * c + 1461 * q + s ∧ 0 ≤ c ∧ c < 4 ∧ 0 ≤ q ∧ q < 25 ∧ 0 ≤ s ∧ s < 1461 ∧
        (q = 24 → s < 1460) :=
    ⟨doe / 36524, doe % 36524 / 1461, doe % 36524 % 1461, by omega, by omega, by omega,
      by omega, by omega, by omega, by omega, by omega⟩
  have he : (36524 * c + 1461 * q + s) / 1460 = 25 * c + q + (24 * c + q + s) / 1460 := by omega
  have hc : (36524 * c + 1461 * q + s) / 36524 = c := by omega
  have hg : (36524 * c + 1461 * q + s) / 146096 = 0 := by omega
  have hyoe' : yoe = 100 * c + 4 * q + (s - (24 * c + q + s) / 1460) / 365 := by
    rw [hyoe, he, hc, hg]
    omega
  refine ⟨c, q, s, _, _, rfl, hc0, hc1, hq0, hq1, hs0, hs1, hend, rfl, rfl, by omega, by omega,
    hyoe', by omega, by omega⟩

theorem doy_bounds {doe yoe : Int} (h0 : 0 ≤ doe) (h1 : doe < 146097)
    (hyoe : yoe = (doe - doe / 1460 + doe / 36524 - doe / 146096) / 365) :
    0 ≤ doe - (365 * yoe + yoe / 4 - yoe / 100) ∧ doe - (365 * yoe + yoe / 4 - yoe / 100) < 366 := by
  by_cases hlast : doe = 146096
  · subst hlast hyoe; decide
  obtain ⟨c, q, s, δ, k, rfl, hc0, hc1, hq0, hq1, hs0, hs1, hend, hδ, hk, hk0, hk1, hy, h4, h100⟩ :=
    era_day_split h0 (by omega) hyoe
  rw [h4, h100, hy]
  clear hyoe h4 h100 hy
  omega

/-- The 366th day of a March-based year falls only in a year before a leap year. Only the last day
of a four-year block, not the last block of a century, is that day. -/
theorem doy_last {doe yoe : Int} (h0 : 0 ≤ doe) (h1 : doe < 146097)
    (hyoe : yoe = (doe - doe / 1460 + doe / 36524 - doe / 146096) / 365)
    (h365 : doe - (365 * yoe + yoe / 4 - yoe / 100) = 365) :
    (yoe + 1) % 4 = 0 ∧ ((yoe + 1) % 100 ≠ 0 ∨ yoe = 399) := by
  by_cases hlast : doe = 146096
  · subst hlast hyoe; decide
  obtain ⟨c, q, s, δ, k, rfl, hc0, hc1, hq0, hq1, hs0, hs1, hend, hδ, hk, hk0, hk1, hy, h4, h100⟩ :=
    era_day_split h0 (by omega) hyoe
  rw [h4, h100, hy] at h365
  have hk3 : k = 3 ∧ s = 1460 := by clear hyoe h4 h100 hy; omega
  obtain ⟨rfl, rfl⟩ := hk3
  rw [hy]
  clear hyoe h4 h100 hy h365
  omega

/-- What `civilFromDays` computes on its way: the 400-year era, the day within the
era, the year within the era, the day within the March-based year and the month
counted from March. -/
theorem civilFromDays_parts (z : Int) :
    ∃ era doe yoe doy mp : Int,
      z + 719468 = era * 146097 + doe ∧ 0 ≤ doe ∧ doe < 146097 ∧
      yoe = (doe - doe / 1460 + doe / 36524 - doe / 146096) / 365 ∧
      doy = doe - (365 * yoe + yoe / 4 - yoe / 100) ∧
      mp = (5 * doy + 2) / 153 ∧
      0 ≤ yoe ∧ yoe < 400 ∧ 0 ≤ doy ∧ doy < 366 ∧
      ((civilFromDays z).2.1 : Int) = (if mp < 10 then mp + 3 else mp - 9) ∧
      ((civilFromDays z).2.2 : Int) = doy - (153 * mp + 2) / 5 + 1 ∧
      (civilFromDays z).1 =
        (if (civilFromDays z).2.1 ≤ 2 then yoe + era * 400 + 1 else yoe + era * 400) := by
  obtain ⟨era, hera⟩ : ∃ era : Int, era = (z + 719468) / 146097 := ⟨_, rfl⟩
  obtain ⟨doe, hdoe⟩ : ∃ doe : Int, doe = z + 719468 - era * 146097 := ⟨_, rfl⟩
  have h0 : 0 ≤ doe := by omega
  have h1 : doe < 146097 := by omega
  obtain ⟨yoe, hyoe⟩ : ∃ yoe : Int, yoe = (doe - doe / 1460 + doe / 36524 - doe / 146096) / 365 :=
    ⟨_, rfl⟩
  have hyb := yoe_bounds h0 h1
  have hdb := doy_bounds h0 h1 hyoe
  rw [← hyoe] at hyb
  obtain ⟨doy, hdoy⟩ : ∃ doy : Int, doy = doe - (365 * yoe + yoe / 4 - yoe / 100) := ⟨_, rfl⟩
  rw [← hdoy] at hdb
  obtain ⟨mp, hmp⟩ : ∃ mp : Int, mp = (5 * doy + 2) / 153 := ⟨_, rfl⟩
  have hciv : civilFromDays z =
      (if (if mp < 10 then mp + 3 else mp - 9) ≤ 2 then yoe + era * 400 + 1 else yoe + era * 400,
        (if mp < 10 then mp + 3 else mp - 9).toNat, (doy - (153 * mp + 2) / 5 + 1).toNat) := by
    subst hera hdoe hyoe hdoy hmp
    rfl
  refine ⟨era, doe, yoe, doy, mp, by omega, h0, h1, hyoe, hdoy, hmp, hyb.1, hyb.2, hdb.1, hdb.2,
    ?_, ?_, ?_⟩
  · rw [hciv]
    dsimp only
    split <;> omega
  · rw [hciv]
    dsimp only
    omega
  · rw [hciv]
    dsimp only
    split <;> split <;> omega

theorem daysFromCivil_civilFromDays (z : Int) :
    daysFromCivil (civilFromDays z).1 (civilFromDays z).2.1 (civilFromDays z).2.2 = z := by
  obtain ⟨era, doe, yoe, doy, mp, hz, -, -, -, hdoy, hmp, hy0, hy1, hd0, hd1, hm, hd, hy⟩ :=
    civilFromDays_parts z
  generalize civilFromDays z = c at hm hd hy ⊢
  obtain ⟨y, m, d⟩ := c
  dsimp only at hm hd hy ⊢
  unfold daysFromCivil
  by_cases hm2 : m ≤ 2
  · have hgt : ¬ m > 2 := by omega
    simp only [hm2, hgt, if_true, if_false] at hy ⊢
    omega
  · have hgt : m > 2 := by omega
    simp only [hm2, hgt, if_true, if_false] at hy ⊢
    omega

theorem isLeapYear_iff (y : Int) : isLeapYear y = true ↔ y % 4 = 0 ∧ (y % 100 ≠ 0 ∨ y % 400 = 0) := by
  simp [isLeapYear]

/-- The date `civilFromDays` gives is a date of the calendar. In February the 29th is the last
day of a March-based year, which only a leap year has. -/
theorem civilFromDays_valid (z : Int) :
    1 ≤ (civilFromDays z).2.1 ∧ (civilFromDays z).2.1 ≤ 12 ∧ 1 ≤ (civilFromDays z).2.2 ∧
      (civilFromDays z).2.2 ≤ daysInMonth (civilFromDays z).1 (civilFromDays z).2.1 := by
  obtain ⟨era, doe, yoe, doy, mp, hz, h0, h1, hyoe, hdoy, hmp, hy0, hy1, hd0, hd1, hm, hd, hy⟩ :=
    civilFromDays_parts z
  have hlast : doy = 365 → (yoe + 1) % 4 = 0 ∧ ((yoe + 1) % 100 ≠ 0 ∨ yoe = 399) := by
    intro h365
    exact doy_last h0 h1 hyoe (hdoy ▸ h365)
  clear hyoe hdoy hz
  generalize civilFromDays z = c at hm hd hy ⊢
  obtain ⟨y, m, d⟩ := c
  dsimp only at hm hd hy ⊢
  have hmpb : 0 ≤ mp ∧ mp ≤ 11 := by omega
  refine ⟨by split at hm <;> omega, by split at hm <;> omega, by omega, ?_⟩
  unfold daysInMonth
  split
  · next hm2 =>
    have hmp11 : mp = 11 := by split at hm <;> omega
    have hy' : y = yoe + era * 400 + 1 := by simpa using hy
    split
    · omega
    · next hnot =>
      have h29 : d ≠ 29 := by
        intro h29
        obtain ⟨h4, h100⟩ := hlast (by omega)
        apply hnot
        rw [isLeapYear_iff]
        omega
      omega
  · split at hm <;> omega
  · split at hm <;> omega
  · split at hm <;> omega
  · split at hm <;> omega
  · split at hm <;> omega

theorem daysInMonth_le (y : Int) (m : Nat) : daysInMonth y m ≤ 31 := by
  unfold daysInMonth
  split <;> (try split) <;> decide

/-- The last day of the year 9999 is day 2932896 from 1970-01-01. -/
theorem daysFromCivil_lt {y : Int} {m d : Nat} (hy : y ≤ 9999) (hm : m ≤ 12) (hd : d ≤ 31) :
    daysFromCivil y m d < 2932897 := by
  unfold daysFromCivil
  by_cases hm2 : m ≤ 2
  · have hgt : ¬ m > 2 := by omega
    simp only [hm2, hgt, if_true, if_false]
    omega
  · have hgt : m > 2 := by omega
    simp only [hm2, hgt, if_true, if_false]
    omega

/-! ## The wall clock -/

theorem epochToUnix_eq : epochToUnix = 9223372028741760000 := by decide

theorem wrapWall_of_mem {w : Int} (h0 : -epochToUnix ≤ w) (h1 : w < 2 ^ 64 - epochToUnix) :
    wrapWall w = w := by
  unfold wrapWall
  rw [show Int.pow 2 64 = 2 ^ 64 from rfl, Int.emod_eq_of_lt (by omega) (by omega)]
  omega

/-- The civil fields of a timestamp add back up to its wall-clock seconds. -/
theorem civil_wall (t : Timestamp) :
    daysFromCivil t.civil.year t.civil.month t.civil.day * 86400 +
        ((t.civil.hour * 3600 + t.civil.minute * 60 + t.civil.second : Nat) : Int) =
      wrapWall (t.unix + t.offset) ∧
    t.civil.hour < 24 ∧ t.civil.minute < 60 ∧ t.civil.second < 60 := by
  obtain ⟨w, hw⟩ : ∃ w, w = wrapWall (t.unix + t.offset) := ⟨_, rfl⟩
  have hciv : t.civil = ⟨(civilFromDays (w / 86400)).1, (civilFromDays (w / 86400)).2.1,
      (civilFromDays (w / 86400)).2.2, (w % 86400).toNat / 3600, (w % 86400).toNat / 60 % 60,
      (w % 86400).toNat % 60⟩ := by
    subst hw
    rfl
  have hdays := daysFromCivil_civilFromDays (w / 86400)
  rw [hciv, ← hw]
  dsimp only
  refine ⟨?_, ?_, ?_, ?_⟩ <;> omega

theorem civil_valid (t : Timestamp) :
    1 ≤ t.civil.month ∧ t.civil.month ≤ 12 ∧ 1 ≤ t.civil.day ∧
      t.civil.day ≤ daysInMonth t.civil.year t.civil.month :=
  civilFromDays_valid _

/-- Within the signed 64-bit range of seconds, a timestamp whose year is at most 9999
is shown at its own wall-clock seconds: the calendar's unsigned count does not wrap, since a wrapped
clock would stand some 292 billion years ahead, past the year 9999. -/
theorem wrapWall_of_year {t : Timestamp} (hlo : -2 ^ 63 ≤ t.unix) (hhi : t.unix < 2 ^ 63)
    (hoff : t.offset.natAbs < 86400) (hyear : t.civil.year ≤ 9999) :
    wrapWall (t.unix + t.offset) = t.unix + t.offset := by
  have hE := epochToUnix_eq
  by_cases hw : -epochToUnix ≤ t.unix + t.offset
  · exact wrapWall_of_mem hw (by omega)
  · have hwrap : wrapWall (t.unix + t.offset) = t.unix + t.offset + 2 ^ 64 := by
      unfold wrapWall
      rw [show Int.pow 2 64 = 2 ^ 64 from rfl]
      omega
    obtain ⟨hwall, hh, hmi, hs⟩ := civil_wall t
    obtain ⟨-, hm, -, hd⟩ := civil_valid t
    have hdays := daysFromCivil_lt hyear hm (Nat.le_trans hd (daysInMonth_le _ _))
    omega

/-! ## Digits -/

open Airspace.Text (asciiByte)

theorem zeroPad_toList (n w : Nat) :
    (zeroPad n w).toList = List.replicate (w - (Nat.toDigits 10 n).length) '0' ++ Nat.toDigits 10 n := by
  simp only [zeroPad, String.toList_append, String.toList_ofList, toString, Nat.toList_repr]
  rw [← String.length_toList, Nat.toList_repr]

theorem ofDigitChars_zeroPad (n w : Nat) : Nat.ofDigitChars 10 (zeroPad n w).toList 0 = n := by
  rw [zeroPad_toList, Nat.ofDigitChars_append, Nat.ofDigitChars_replicate_zero, Nat.mul_zero,
    Nat.ofDigitChars_ten_toDigits]

theorem isDigit_of_mem_zeroPad {n w : Nat} {c : Char} (h : c ∈ (zeroPad n w).toList) :
    c.isDigit = true := by
  rw [zeroPad_toList, List.mem_append] at h
  rcases h with h | h
  · rw [List.eq_of_mem_replicate h]
    rfl
  · exact Nat.isDigit_of_mem_toDigits (by decide) (by decide) h

theorem length_zeroPad {n w : Nat} (hw : 0 < w) (h : n < 10 ^ w) : (zeroPad n w).toList.length = w := by
  have hlen := (Nat.length_toDigits_le_iff (by decide) hw).mpr h
  rw [zeroPad_toList, List.length_append, List.length_replicate]
  omega

/-- A number below 100 is written as two digits. -/
theorem zeroPad_two {n : Nat} (h : n < 100) :
    ∃ a b, (zeroPad n 2).toList = [a, b] ∧ a.isDigit = true ∧ b.isDigit = true ∧
      Nat.ofDigitChars 10 [a, b] 0 = n := by
  have hlen : (zeroPad n 2).toList.length = 2 := length_zeroPad (by decide) (by simpa using h)
  match hl : (zeroPad n 2).toList, hlen with
  | [a, b], _ =>
    have hval := ofDigitChars_zeroPad n 2
    rw [hl] at hval
    exact ⟨a, b, rfl, isDigit_of_mem_zeroPad (by rw [hl]; simp),
      isDigit_of_mem_zeroPad (by rw [hl]; simp), hval⟩

/-- A number below 10000 is written as four digits. -/
theorem zeroPad_four {n : Nat} (h : n < 10000) :
    ∃ a b c d, (zeroPad n 4).toList = [a, b, c, d] ∧ (∀ x ∈ [a, b, c, d], x.isDigit = true) ∧
      Nat.ofDigitChars 10 [a, b, c, d] 0 = n := by
  have hlen : (zeroPad n 4).toList.length = 4 := length_zeroPad (by decide) (by simpa using h)
  match hl : (zeroPad n 4).toList, hlen with
  | [a, b, c, d], _ =>
    have hval := ofDigitChars_zeroPad n 4
    rw [hl] at hval
    exact ⟨a, b, c, d, rfl, fun x hx => isDigit_of_mem_zeroPad (hl ▸ hx), hval⟩

theorem isDigitByte_asciiByte {c : Char} (h : c.isDigit = true) : isDigitByte (asciiByte c) = true := by
  have hc := Text.isDigit_iff.mp h
  have hb := Text.toNat_asciiByte (Text.digit_lt h)
  simp only [isDigitByte, Bool.and_eq_true, decide_eq_true_eq, UInt8.le_iff_toNat_le, hb]
  exact ⟨hc.1, hc.2⟩

theorem digitValue_asciiByte {c : Char} (h : c.isDigit = true) :
    digitValue (asciiByte c) = c.toNat - '0'.toNat := by
  rw [digitValue, Text.toNat_asciiByte (Text.digit_lt h)]
  rfl

/-- Two digits read as the number they write. -/
theorem getNumber_digits {a b : Char} (ha : a.isDigit = true) (hb : b.isDigit = true) (fixed : Bool)
    (rest : List UInt8) :
    getNumber (asciiByte a :: asciiByte b :: rest) fixed = some (Nat.ofDigitChars 10 [a, b] 0, rest) := by
  simp only [getNumber, isDigitByte_asciiByte ha, isDigitByte_asciiByte hb, Bool.not_true,
    Bool.false_eq_true, if_false, if_true, digitValue_asciiByte ha, digitValue_asciiByte hb,
    Nat.ofDigitChars_cons, Nat.ofDigitChars_nil]
  congr 2
  omega

theorem foldl_digitValue (ds : List Char) (hds : ∀ c ∈ ds, c.isDigit = true) (init : Nat) :
    (ds.map asciiByte).foldl (fun acc d => 10 * acc + (digitValue d : Int)) (init : Int) =
      (Nat.ofDigitChars 10 ds init : Int) := by
  induction ds generalizing init with
  | nil => rfl
  | cons c cs ih =>
    have hc := hds c List.mem_cons_self
    simp only [List.map_cons, List.foldl_cons, Nat.ofDigitChars_cons, digitValue_asciiByte hc]
    rw [← ih (fun x hx => hds x (List.mem_cons_of_mem c hx))]
    congr 1

/-- Digits, the first of them present, read as the number they write. A digit is neither sign. -/
theorem readSignedAll_digits {d : Char} {ds : List Char} (hds : ∀ c ∈ d :: ds, c.isDigit = true) :
    readSignedAll ((d :: ds).map asciiByte) = some (Nat.ofDigitChars 10 (d :: ds) 0 : Int) := by
  have hd := isDigitByte_asciiByte (hds d List.mem_cons_self)
  have hall : ((d :: ds).map asciiByte).all isDigitByte = true := by
    simp only [List.all_eq_true, List.mem_map]
    rintro b ⟨c, hc, rfl⟩
    exact isDigitByte_asciiByte (hds c hc)
  have hfold := foldl_digitValue (d :: ds) hds 0
  unfold readSignedAll
  split
  next negative r hsign =>
  split at hsign
  · next r' heq =>
    simp only [List.map_cons, List.cons.injEq] at heq
    rw [heq.1] at hd
    simp [isDigitByte] at hd
  · next r' heq =>
    simp only [List.map_cons, List.cons.injEq] at heq
    rw [heq.1] at hd
    simp [isDigitByte] at hd
  · cases hsign
    rw [if_pos hall]
    simp only [Bool.false_eq_true, if_false, Option.some.injEq]
    exact hfold

/-! ## The fraction -/

/-- A text is what remains after its trailing zeros, then those zeros. -/
theorem eq_append_trailing_zeros (l : List Char) :
    l = (l.reverse.dropWhile (· == '0')).reverse ++
      List.replicate (l.reverse.takeWhile (· == '0')).length '0' := by
  have hzeros : (l.reverse.takeWhile (· == '0')).reverse =
      List.replicate (l.reverse.takeWhile (· == '0')).length '0' := by
    have hall : (l.reverse.takeWhile (· == '0')).all (· == '0') = true := List.all_takeWhile
    rw [List.eq_replicate_iff, List.length_reverse]
    refine ⟨rfl, fun c hc => ?_⟩
    simpa using List.all_eq_true.mp hall c (List.mem_reverse.mp hc)
  have hsplit : l.reverse.takeWhile (· == '0') ++ l.reverse.dropWhile (· == '0') = l.reverse :=
    List.takeWhile_append_dropWhile
  calc l = l.reverse.reverse := (List.reverse_reverse l).symm
    _ = (l.reverse.takeWhile (· == '0') ++ l.reverse.dropWhile (· == '0')).reverse := by rw [hsplit]
    _ = _ := by rw [List.reverse_append, hzeros]

/-- The digits `fractionText` keeps: the nine digits of the nanoseconds without
their trailing zeros. -/
def keptDigits (nanos : Nat) : List Char :=
  ((zeroPad nanos 9).toList.reverse.dropWhile (· == '0')).reverse

theorem fractionText_eq {nanos : Nat} (h : nanos ≠ 0) :
    (fractionText nanos).toList = '.' :: keptDigits nanos := by
  simp [fractionText, h, keptDigits]

theorem keptDigits_spec {nanos : Nat} (h : nanos < 1000000000) :
    (∀ c ∈ keptDigits nanos, c.isDigit = true) ∧ (keptDigits nanos).length ≤ 9 ∧
      Nat.ofDigitChars 10 (keptDigits nanos) 0 * 10 ^ (9 - (keptDigits nanos).length) = nanos := by
  have hsplit := eq_append_trailing_zeros (zeroPad nanos 9).toList
  rw [← keptDigits] at hsplit
  have hlen : (zeroPad nanos 9).toList.length = 9 := length_zeroPad (by decide) (by simpa using h)
  have hvalue := ofDigitChars_zeroPad nanos 9
  refine ⟨fun c hc => isDigit_of_mem_zeroPad (hsplit ▸ List.mem_append_left _ hc), ?_, ?_⟩
  · rw [hsplit, List.length_append] at hlen
    omega
  · rw [hsplit, Nat.ofDigitChars_append, Nat.ofDigitChars_replicate_zero] at hvalue
    rw [hsplit, List.length_append, List.length_replicate] at hlen
    rw [show 9 - (keptDigits nanos).length =
      ((zeroPad nanos 9).toList.reverse.takeWhile (· == '0')).length by omega, Nat.mul_comm]
    exact hvalue

theorem keptDigits_ne_nil {nanos : Nat} (h0 : nanos ≠ 0) (h : nanos < 1000000000) :
    keptDigits nanos ≠ [] := by
  intro hnil
  have := (keptDigits_spec h).2.2
  rw [hnil] at this
  simp at this
  omega

theorem digitRun_digits {ds : List Char} (hds : ∀ c ∈ ds, c.isDigit = true) {b : UInt8}
    (hb : isDigitByte b = false) (rest : List UInt8) :
    digitRun (ds.map asciiByte ++ b :: rest) = ds.length := by
  induction ds with
  | nil => simp [digitRun, hb]
  | cons c cs ih =>
    have hc := isDigitByte_asciiByte (hds c List.mem_cons_self)
    have ih' := ih (fun x hx => hds x (List.mem_cons_of_mem c hx))
    simp only [digitRun] at ih' ⊢
    simp [hc, ih']

/-- A fraction mark and at most nine digits read as nanoseconds. -/
theorem readNanos_digits {ds : List Char} (hds : ∀ c ∈ ds, c.isDigit = true) (hne : ds ≠ [])
    (hlen : ds.length ≤ 9) (rest : List UInt8) :
    readNanos (0x2E :: (ds.map asciiByte ++ rest)) (1 + ds.length) =
      some (Nat.ofDigitChars 10 ds 0 * 10 ^ (9 - ds.length)) := by
  obtain ⟨d, ds', rfl⟩ := List.exists_cons_of_ne_nil hne
  have hmin : min (1 + (d :: ds').length) 10 = 1 + (d :: ds').length := by omega
  have htake : ((0x2E :: ((d :: ds').map asciiByte ++ rest)).take (1 + (d :: ds').length)).drop 1 =
      (d :: ds').map asciiByte := by
    rw [Nat.add_comm, List.take_succ_cons, List.drop_succ_cons, List.drop_zero,
      List.take_append_of_le_length (by simp), List.take_of_length_le (by simp)]
  simp only [readNanos, hmin, htake, readSignedAll_digits hds, Int.toNat_natCast]
  congr 2
  simp only [List.length_cons, Nat.pow_eq]
  congr 1
  omega

/-! ## The fields of the layout -/

section Fields

variable (next : Option Piece) (f : Fields)

theorem readField_year {a b c d : Char} (hds : ∀ x ∈ [a, b, c, d], x.isDigit = true) (rest : List UInt8) :
    readField .year next f (asciiByte a :: asciiByte b :: asciiByte c :: asciiByte d :: rest) =
      .ok { f with year := (Nat.ofDigitChars 10 [a, b, c, d] 0 : Int) } rest := by
  have ha := isDigitByte_asciiByte (hds a (by simp))
  have hread : readSignedAll ((a :: [b, c, d]).map asciiByte) =
      some (Nat.ofDigitChars 10 [a, b, c, d] 0 : Int) := readSignedAll_digits hds
  simp only [List.map_cons, List.map_nil] at hread
  simp only [readField, List.length_cons, List.getD_cons_zero, ha, Bool.not_true, Bool.or_false,
    List.take_succ_cons, List.take_zero, hread, List.drop_succ_cons, List.drop_zero]
  rw [if_neg (by simp)]

theorem readField_month {a b : Char} (ha : a.isDigit = true) (hb : b.isDigit = true)
    (h1 : 1 ≤ Nat.ofDigitChars 10 [a, b] 0) (h12 : Nat.ofDigitChars 10 [a, b] 0 ≤ 12) (rest : List UInt8) :
    readField .month next f (asciiByte a :: asciiByte b :: rest) =
      .ok { f with month := Nat.ofDigitChars 10 [a, b] 0 } rest := by
  simp only [readField, getNumber_digits ha hb]
  rw [if_neg (by omega)]

theorem readField_day {a b : Char} (ha : a.isDigit = true) (hb : b.isDigit = true) (rest : List UInt8) :
    readField .day next f (asciiByte a :: asciiByte b :: rest) =
      .ok { f with day := Nat.ofDigitChars 10 [a, b] 0 } rest := by
  simp only [readField, getNumber_digits ha hb]

theorem readField_hour {a b : Char} (ha : a.isDigit = true) (hb : b.isDigit = true)
    (h24 : Nat.ofDigitChars 10 [a, b] 0 < 24) (rest : List UInt8) :
    readField .hour next f (asciiByte a :: asciiByte b :: rest) =
      .ok { f with hour := Nat.ofDigitChars 10 [a, b] 0 } rest := by
  simp only [readField, getNumber_digits ha hb]
  rw [if_neg (by omega)]

theorem readField_minute {a b : Char} (ha : a.isDigit = true) (hb : b.isDigit = true)
    (h60 : Nat.ofDigitChars 10 [a, b] 0 < 60) (rest : List UInt8) :
    readField .minute next f (asciiByte a :: asciiByte b :: rest) =
      .ok { f with minute := Nat.ofDigitChars 10 [a, b] 0 } rest := by
  simp only [readField, getNumber_digits ha hb]
  rw [if_neg (by omega)]

/-- The first character of a zone, as `zoneText` writes it. -/
def ZoneLead (z : Char) : Prop := z = 'Z' ∨ z = '+' ∨ z = '-'

theorem zoneLead_byte {z : Char} (hz : ZoneLead z) :
    isDigitByte (asciiByte z) = false ∧ isFractionMark (asciiByte z) = false := by
  rcases hz with rfl | rfl | rfl <;> decide

/-- The seconds, then the fraction when the nanoseconds are not zero, up to the zone. With no
fraction the zone follows the seconds; otherwise the fraction mark is read first, then the
fraction's digits, then the zone. -/
theorem readField_second {a b : Char} (ha : a.isDigit = true) (hb : b.isDigit = true)
    (h60 : Nat.ofDigitChars 10 [a, b] 0 < 60) {nanos : Nat} (hn : nanos < 1000000000)
    (hf : f.nanos = 0) {z : Char} (hz : ZoneLead z) (zs : List Char) :
    readField .second (some .zone) f
        (asciiByte a :: asciiByte b :: ((fractionText nanos).toList ++ z :: zs).map asciiByte) =
      .ok { f with second := Nat.ofDigitChars 10 [a, b] 0, nanos := nanos } ((z :: zs).map asciiByte) := by
  obtain ⟨hzd, hzm⟩ := zoneLead_byte hz
  by_cases h0 : nanos = 0
  · subst h0
    have hf' : { f with second := Nat.ofDigitChars 10 [a, b] 0, nanos := 0 } =
        { f with second := Nat.ofDigitChars 10 [a, b] 0 } := by
      cases f
      simp_all
    rw [hf']
    simp only [fractionText, if_true, String.toList_empty, List.nil_append, readField,
      getNumber_digits ha hb]
    rw [if_neg (by omega)]
    split
    · next m d t heq =>
      simp only [List.map_cons, List.cons.injEq] at heq
      rw [heq.1] at hzm
      simp [hzm]
    · rfl
  · obtain ⟨hdig, hlen, hval⟩ := keptDigits_spec hn
    have hne := keptDigits_ne_nil h0 hn
    obtain ⟨k, ks, hks⟩ := List.exists_cons_of_ne_nil hne
    have hk := isDigitByte_asciiByte (hdig k (hks ▸ List.mem_cons_self))
    have hrun : digitRun ((keptDigits nanos).map asciiByte ++ (z :: zs).map asciiByte) =
        (keptDigits nanos).length := by
      rw [List.map_cons]
      exact digitRun_digits hdig hzd _
    have hnanos := readNanos_digits hdig hne hlen ((z :: zs).map asciiByte)
    rw [hval] at hnanos
    have hdrop : (0x2E :: ((keptDigits nanos).map asciiByte ++ (z :: zs).map asciiByte)).drop
        (1 + (keptDigits nanos).length) = (z :: zs).map asciiByte := by
      rw [Nat.add_comm, List.drop_succ_cons, List.drop_append_of_le_length (by simp),
        List.drop_of_length_le (by simp), List.nil_append]
    rw [fractionText_eq h0, List.cons_append, List.map_cons, show asciiByte '.' = 0x2E from rfl]
    simp only [readField, getNumber_digits ha hb]
    rw [if_neg (by omega), List.map_append]
    split
    · next m d t heq =>
      rw [hks, List.map_cons, List.cons_append, List.cons.injEq, List.cons.injEq] at heq
      obtain ⟨rfl, rfl, -⟩ := heq
      rw [if_pos (by simp [isFractionMark, hk]), List.drop_succ_cons, List.drop_zero, hrun, hnanos,
        hdrop]
    · next x hx =>
      rw [hks, List.map_cons, List.cons_append] at hx
      exact absurd rfl (hx _ _ _)

/-- A zone `±hh:mm` with hours and minutes in range reads as its offset in seconds. -/
theorem readField_zone_signed {sg h1 h2 m1 m2 : Char} (hsg : sg = '+' ∨ sg = '-')
    (hh1 : h1.isDigit = true) (hh2 : h2.isDigit = true) (hm1 : m1.isDigit = true)
    (hm2 : m2.isDigit = true) (hhour : Nat.ofDigitChars 10 [h1, h2] 0 ≤ 24)
    (hmin : Nat.ofDigitChars 10 [m1, m2] 0 ≤ 60) :
    readField .zone next f ([sg, h1, h2, ':', m1, m2].map asciiByte) =
      .ok { f with offset := some (if sg = '-' then
        -(((Nat.ofDigitChars 10 [h1, h2] 0 * 60 + Nat.ofDigitChars 10 [m1, m2] 0) * 60 : Nat) : Int)
        else (((Nat.ofDigitChars 10 [h1, h2] 0 * 60 + Nat.ofDigitChars 10 [m1, m2] 0) * 60 : Nat) : Int)) }
        [] := by
  have hcolon : asciiByte ':' = 0x3A := rfl
  rcases hsg with rfl | rfl
  · simp only [readField, List.map_cons, List.map_nil, hcolon, show asciiByte '+' = 0x2B from rfl,
      List.length_cons, List.length_nil, List.getD_cons_succ, List.getD_cons_zero, List.drop_succ_cons,
      List.drop_zero, List.take_succ_cons, List.take_zero, getNumber_digits hh1 hh2,
      getNumber_digits hm1 hm2, Option.isSome_some, if_true, Option.map_some, Option.getD_some,
      Option.isNone_some]
    rw [if_neg (by decide), if_neg (by omega), if_neg (by omega), if_neg (by decide)]
    simp
  · simp only [readField, List.map_cons, List.map_nil, hcolon, show asciiByte '-' = 0x2D from rfl,
      List.length_cons, List.length_nil, List.getD_cons_succ, List.getD_cons_zero, List.drop_succ_cons,
      List.drop_zero, List.take_succ_cons, List.take_zero, getNumber_digits hh1 hh2,
      getNumber_digits hm1 hm2, Option.isSome_some, if_true, Option.map_some, Option.getD_some,
      Option.isNone_some]
    rw [if_neg (by decide), if_neg (by omega), if_neg (by omega), if_neg (by decide)]
    simp

/-- The zone of a timestamp a whole number of minutes from UTC, less than a day away,
reads as its offset. Hours and minutes make up the whole offset, which is a whole number of
minutes. -/
theorem readField_zoneText {t : Timestamp} (hmin : t.offset % 60 = 0) (hday : t.offset.natAbs < 86400) :
    readField .zone next f (t.zoneText.toList.map asciiByte) = .ok { f with offset := some t.offset } [] := by
  unfold Timestamp.zoneText
  by_cases h0 : t.offset = 0
  · simp [h0, readField, show asciiByte 'Z' = 0x5A from rfl]
  · obtain ⟨h1, h2, hh, hh1, hh2, hhv⟩ := zeroPad_two (show t.offset.natAbs / 60 / 60 < 100 by omega)
    obtain ⟨m1, m2, hm, hm1, hm2, hmv⟩ := zeroPad_two (show t.offset.natAbs / 60 % 60 < 100 by omega)
    obtain ⟨sg, hsgtext, hsgc, hsgneg⟩ : ∃ sg, (if t.offset < 0 then "-" else "+").toList = [sg] ∧
        (sg = '+' ∨ sg = '-') ∧ (sg = '-' ↔ t.offset < 0) := by
      by_cases hneg : t.offset < 0
      · exact ⟨'-', by rw [if_pos hneg]; rfl, .inr rfl, by simp [hneg]⟩
      · exact ⟨'+', by rw [if_neg hneg]; rfl, .inl rfl, by simp [hneg]⟩
    rw [if_neg h0]
    simp only [String.toList_append, hsgtext, hh, hm, List.cons_append, List.nil_append,
      show (":" : String).toList = [':'] from rfl]
    have hoff : (if sg = '-' then
          -(((t.offset.natAbs / 60 / 60 * 60 + t.offset.natAbs / 60 % 60) * 60 : Nat) : Int)
        else (((t.offset.natAbs / 60 / 60 * 60 + t.offset.natAbs / 60 % 60) * 60 : Nat) : Int)) =
        t.offset := by
      by_cases hneg : t.offset < 0
      · rw [if_pos (hsgneg.mpr hneg)]
        omega
      · rw [if_neg (fun h => hneg (hsgneg.mp h))]
        omega
    rw [readField_zone_signed next f hsgc hh1 hh2 hm1 hm2 (by omega) (by omega), hhv, hmv, hoff]

end Fields

/-! ## Walking the layout -/

section Walk

variable (layout : Layout) (all : List UInt8)

theorem readPieces_literal {lit : String} {c : Char} (hlit : lit.toUTF8.toList = [asciiByte c])
    (ps : List Piece) (f : Fields) (rest : List UInt8) :
    readPieces layout all (.literal lit :: ps) f (asciiByte c :: rest) = readPieces layout all ps f rest := by
  rw [readPieces, hlit]
  simp [skipLiteral]

theorem readPieces_field {p : Piece} (hp : ∀ s, p ≠ .literal s) {ps : List Piece} {f f' : Fields}
    {value rest : List UInt8} (h : readField p ps.head? f value = .ok f' rest) :
    readPieces layout all (p :: ps) f value = readPieces layout all ps f' rest := by
  cases p with
  | literal s => exact absurd rfl (hp s)
  | _ => simp [readPieces, h]

end Walk

/-! ## The written text -/

theorem zeroPad_ascii {n w : Nat} {c : Char} (h : c ∈ (zeroPad n w).toList) : c.toNat < 128 :=
  Text.digit_lt (isDigit_of_mem_zeroPad h)

theorem mem_keptDigits {nanos : Nat} {c : Char} (h : c ∈ keptDigits nanos) :
    c ∈ (zeroPad nanos 9).toList :=
  List.mem_reverse.mp ((List.dropWhile_sublist _).subset (List.mem_reverse.mp h))

theorem fractionText_ascii {nanos : Nat} {c : Char} (h : c ∈ (fractionText nanos).toList) :
    c.toNat < 128 := by
  by_cases h0 : nanos = 0
  · simp [fractionText, h0] at h
  · rw [fractionText_eq h0, List.mem_cons] at h
    rcases h with rfl | h
    · decide
    · exact zeroPad_ascii (mem_keptDigits h)

theorem yearText_ascii {y : Int} {c : Char} (h : c ∈ (yearText y).toList) : c.toNat < 128 := by
  simp only [yearText, String.toList_append, List.mem_append] at h
  rcases h with h | h
  · split at h <;> simp_all
  · exact zeroPad_ascii h

theorem zoneText_ascii {t : Timestamp} {c : Char} (h : c ∈ t.zoneText.toList) : c.toNat < 128 := by
  unfold Timestamp.zoneText at h
  split at h
  · simp_all
  · simp only [String.toList_append, List.mem_append] at h
    rcases h with ((h | h) | h) | h
    · split at h <;> simp_all
    · exact zeroPad_ascii h
    · simp_all
    · exact zeroPad_ascii h

theorem format_ascii (t : Timestamp) : ∀ c ∈ t.format.toList, c.toNat < 128 := by
  simp only [Timestamp.format, Timestamp.dateTimeText, String.toList_append, List.forall_mem_append]
  refine ⟨⟨⟨⟨⟨⟨⟨⟨⟨⟨⟨⟨fun c h => yearText_ascii h, by simp⟩, fun c h => zeroPad_ascii h⟩, by simp⟩,
    fun c h => zeroPad_ascii h⟩, by simp⟩, fun c h => zeroPad_ascii h⟩, by simp⟩,
    fun c h => zeroPad_ascii h⟩, by simp⟩, fun c h => zeroPad_ascii h⟩,
    fun c h => fractionText_ascii h⟩, fun c h => zoneText_ascii h⟩

/-- A zone is written starting with `Z`, `+` or `-`. -/
theorem zoneText_lead (t : Timestamp) : ∃ z zs, t.zoneText.toList = z :: zs ∧ ZoneLead z := by
  unfold Timestamp.zoneText
  split
  · exact ⟨'Z', [], rfl, .inl rfl⟩
  · by_cases hneg : t.offset < 0
    · exact ⟨'-', _, by simp [hneg, String.toList_append]; rfl, .inr (.inr rfl)⟩
    · exact ⟨'+', _, by simp [hneg, String.toList_append]; rfl, .inr (.inl rfl)⟩

theorem ofEpochNanos_epochNanos (t : Timestamp) :
    Timestamp.ofEpochNanos (t.unix * nanosPerSecond + t.nanos) t.offset = t := by
  obtain ⟨unix, nanos, offset, hlt⟩ := t
  simp only [nanosPerSecond] at hlt
  simp only [Timestamp.ofEpochNanos, nanosPerSecond]
  congr 1 <;> omega

/-- The layout `2006-01-02T15:04:05Z07:00` reads back every timestamp that can be
written: seconds within the signed 64-bit range, a zone a whole number of minutes
from UTC and less than a day away, a year in 0 … 9999. Each field is read back from its digits. -/
theorem read_format {t : Timestamp} (hlo : -2 ^ 63 ≤ t.unix) (hhi : t.unix < 2 ^ 63)
    (hmin : t.offset % 60 = 0) (hday : t.offset.natAbs < 86400)
    (hy0 : 0 ≤ t.civil.year) (hy1 : t.civil.year ≤ 9999) :
    Layout.rfc3339.read t.format.toUTF8.toList = .ok t := by
  obtain ⟨hwall, hh, hmi, hs⟩ := civil_wall t
  obtain ⟨hm1, hm12, hd1, hdm⟩ := civil_valid t
  have hdays := daysInMonth_le t.civil.year t.civil.month
  have hnowrap := wrapWall_of_year hlo hhi hday hy1
  obtain ⟨y1, y2, y3, y4, hY, hYd, hYv⟩ := zeroPad_four (show t.civil.year.natAbs < 10000 by omega)
  obtain ⟨mo1, mo2, hM, hmo1, hmo2, hMv⟩ := zeroPad_two (show t.civil.month < 100 by omega)
  obtain ⟨d1, d2, hD, hdd1, hdd2, hDv⟩ := zeroPad_two (show t.civil.day < 100 by omega)
  obtain ⟨h1, h2, hH, hh1, hh2, hHv⟩ := zeroPad_two (show t.civil.hour < 100 by omega)
  obtain ⟨mi1, mi2, hMi, hmi1, hmi2, hMiv⟩ := zeroPad_two (show t.civil.minute < 100 by omega)
  obtain ⟨s1, s2, hS, hs1, hs2, hSv⟩ := zeroPad_two (show t.civil.second < 100 by omega)
  obtain ⟨z, zs, hZ, hzl⟩ := zoneText_lead t
  have htext : t.format.toList = [y1, y2, y3, y4, '-', mo1, mo2, '-', d1, d2, 'T', h1, h2, ':',
      mi1, mi2, ':', s1, s2] ++ ((fractionText t.nanos).toList ++ z :: zs) := by
    simp only [Timestamp.format, Timestamp.dateTimeText, yearText, if_neg (Int.not_lt.mpr hy0),
      String.toList_append, hY, hM, hD, hH, hMi, hS, hZ]
    rfl
  rw [Text.toUTF8_toList, Text.flatMap_utf8EncodeChar_of_ascii (format_ascii t), htext]
  have hwalk : ∀ all, readPieces Layout.rfc3339 all Layout.rfc3339.pieces {}
      (List.map asciiByte ([y1, y2, y3, y4, '-', mo1, mo2, '-', d1, d2, 'T', h1, h2, ':',
        mi1, mi2, ':', s1, s2] ++ ((fractionText t.nanos).toList ++ z :: zs))) =
      .ok (({ year := t.civil.year, month := t.civil.month, day := t.civil.day,
              hour := t.civil.hour, minute := t.civil.minute, second := t.civil.second,
              nanos := t.nanos, offset := some t.offset } : Fields), []) := by
    intro all
    simp only [List.cons_append, List.nil_append, List.map_cons]
    simp only [Layout.rfc3339]
    have hdash : ("-" : String).toUTF8.toList = [asciiByte '-'] := by decide +kernel
    have hT : ("T" : String).toUTF8.toList = [asciiByte 'T'] := by decide +kernel
    have hcolon : (":" : String).toUTF8.toList = [asciiByte ':'] := by decide +kernel
    rw [readPieces_field _ _ (by simp) (readField_year _ _ hYd _), readPieces_literal _ _ hdash,
      readPieces_field _ _ (by simp) (readField_month _ _ hmo1 hmo2 (by omega) (by omega) _),
      readPieces_literal _ _ hdash, readPieces_field _ _ (by simp) (readField_day _ _ hdd1 hdd2 _),
      readPieces_literal _ _ hT, readPieces_field _ _ (by simp) (readField_hour _ _ hh1 hh2 (by omega) _),
      readPieces_literal _ _ hcolon,
      readPieces_field _ _ (by simp) (readField_minute _ _ hmi1 hmi2 (by omega) _),
      readPieces_literal _ _ hcolon,
      readPieces_field _ _ (by simp) (readField_second _ hs1 hs2 (by omega) t.nanos_lt rfl hzl zs),
      ← hZ, readPieces_field _ _ (by simp) (readField_zoneText _ _ hmin hday)]
    simp only [readPieces, hYv, hMv, hDv, hHv, hMiv, hSv, Int.natAbs_of_nonneg hy0]
  simp only [Layout.read, hwalk, bind, Except.bind, List.isEmpty_nil, Bool.not_true,
    Bool.false_eq_true, if_false, Option.getD_some, pure, Except.pure]
  rw [if_neg (by omega), hwall, hnowrap, Int.add_sub_cancel, ofEpochNanos_epochNanos]

end Airspace.Time
