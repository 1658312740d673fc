import Airspace.Proofs.Text.Utf8
import Airspace.Json.Syntax
import Airspace.Decimal.Read

/-!
# Reading back what was written

The reader takes back the text the writer makes, for the values that travel in
telemetry: strings, whatever characters they hold, and numbers in the JSON
grammar. A string is read character by character, each escape the writer chose
giving back its character (`readString_escapeChar`). A number is read in the
stages of its grammar, sign, integer part, fraction and exponent, each stage
taking exactly its own characters when what follows cannot continue it
(`readNumber_chars`); every text that `Literal.ofJson?` accepts has that shape
(`exists_numberText`). An object of such members reads back as itself
(`parse_render_object`).
-/

namespace Airspace.Text

theorem utf8EncodeChar_head (c : Char) : ∃ b tail, String.utf8EncodeChar c = b :: tail ∧
    (c.toNat < 128 → b.toNat = c.toNat) ∧ (128 ≤ c.toNat → 0xC0 ≤ b.toNat) := by
  have hv : c.val.toNat = c.toNat := rfl
  unfold String.utf8EncodeChar
  simp only [hv]
  split
  · refine ⟨_, _, rfl, fun _ => ?_, fun _ => by omega⟩
    simp only [UInt8.toNat_ofNat']; omega
  · split
    · refine ⟨_, _, rfl, fun _ => by omega, fun _ => ?_⟩
      simp only [UInt8.toNat_ofNat']; omega
    · split
      · refine ⟨_, _, rfl, fun _ => by omega, fun _ => ?_⟩
        simp only [UInt8.toNat_ofNat']; omega
      · refine ⟨_, _, rfl, fun _ => by omega, fun _ => ?_⟩
        simp only [UInt8.toNat_ofNat']; omega
end Airspace.Text

namespace Airspace.Json

open Airspace.Text (asciiByte digit_lt)

/-! ## Strings -/

/-- The byte of the hexadecimal digit `k`, as `hex4` writes it. -/
def hexByte (k : Nat) : UInt8 := ("0123456789abcdef".toList.getD k '0').toNat.toUInt8

theorem utf8EncodeChar_hexDigit : ∀ k < 16,
    String.utf8EncodeChar ("0123456789abcdef".toList.getD k '0') = [hexByte k] := by
  decide

theorem hexValue?_hexByte : ∀ k < 16, hexValue? (hexByte k) = some k := by
  decide

/-- The four digits `hex4` writes, as bytes, most significant first. -/
theorem hex4_bytes (n : Nat) :
    (hex4 n).toUTF8.toList =
      [hexByte (n / 4096 % 16), hexByte (n / 256 % 16), hexByte (n / 16 % 16), hexByte (n % 16)] := by
  have hd : ∀ m, (String.singleton ("0123456789abcdef".toList.getD (m % 16) '0')).toList.flatMap
      String.utf8EncodeChar = [hexByte (m % 16)] := by
    intro m
    simp only [String.toList_singleton, List.flatMap_cons, List.flatMap_nil, List.append_nil]
    exact utf8EncodeChar_hexDigit _ (Nat.mod_lt _ (by decide))
  simp only [hex4, Text.toUTF8_toList, String.toList_append, List.flatMap_append]
  rw [hd, hd, hd, hd]
  simp [Nat.pow]

/-- Four digits written by `hex4` read back as the number, when it has at most four. -/
theorem hex4?_hex4 {n : Nat} (hn : n < 65536) : hex4? (hex4 n).toUTF8.toList = some n := by
  rw [hex4_bytes]
  simp only [hex4?, hexValue?_hexByte _ (Nat.mod_lt _ (by decide : 16 > 0))]
  show some _ = some n
  congr 1
  omega

/-- A `\u` escape of a code unit that is no surrogate reads as that character. -/
theorem readString_unicodeEscape {n : Nat} (hn : n < 0xD800 ∨ (0xDFFF < n ∧ n < 65536))
    (fuel : Nat) (acc : List Char) (more : List UInt8) :
    readString (fuel + 1) acc (("\\u" ++ hex4 n).toUTF8.toList ++ more) =
      readString fuel (Text.charOf n :: acc) more := by
  have hbytes : ("\\u" ++ hex4 n).toUTF8.toList = [0x5C, 0x75] ++ (hex4 n).toUTF8.toList := by
    rw [Text.toUTF8_toList, Text.toUTF8_toList, String.toList_append, List.flatMap_append]
    rfl
  have hlen : (hex4 n).toUTF8.toList.length = 4 := by rw [hex4_bytes]; rfl
  have hread : readHex4 (0x5C :: 0x75 :: ((hex4 n).toUTF8.toList ++ more)) = .ok (n, more) := by
    have hlong : ¬ (0x5C :: 0x75 :: ((hex4 n).toUTF8.toList ++ more)).length < 6 := by
      simp only [List.length_cons, List.length_append, hlen]; omega
    have htake : ((List.drop 2 (0x5C :: 0x75 :: ((hex4 n).toUTF8.toList ++ more))).take 4) =
        (hex4 n).toUTF8.toList := by
      simp only [List.drop_succ_cons, List.drop_zero]
      rw [List.take_append_of_le_length (by omega), List.take_of_length_le (by omega)]
    have hdrop : List.drop 6 (0x5C :: 0x75 :: ((hex4 n).toUTF8.toList ++ more)) = more := by
      simp only [List.drop_succ_cons]
      rw [List.drop_append_of_le_length (by omega), List.drop_of_length_le (by omega),
        List.nil_append]
    rw [readHex4, if_neg hlong, htake, hex4?_hex4 (by omega), hdrop]
    rfl
  have hsurrogate : (isHighSurrogate n || isLowSurrogate n) = false := by
    simp [isHighSurrogate, isLowSurrogate]; omega
  rw [hbytes, List.append_assoc, List.cons_append, List.cons_append, List.nil_append]
  simp only [String.toUTF8_eq_toByteArray] at hread
  simp [readString, hread, hsurrogate, simpleEscape, bind, Except.bind]

/-- The reader takes back, character by character, what the writer escaped. A character written as
itself has a first byte that starts no escape and ends no string. -/
theorem readString_escapeChar (style : Style) (c : Char) (fuel : Nat) (acc : List Char)
    (more : List UInt8) :
    readString (fuel + 1) acc ((escapeChar style c).toUTF8.toList ++ more) =
      readString fuel (c :: acc) more := by
  unfold escapeChar
  split
  · rw [show ("\\\"" : String).toUTF8.toList = [0x5C, 0x22] by decide +kernel]; rfl
  · rw [show ("\\\\" : String).toUTF8.toList = [0x5C, 0x5C] by decide +kernel]; rfl
  · rw [show ("\\n" : String).toUTF8.toList = [0x5C, 0x6E] by decide +kernel]; rfl
  · rw [show ("\\r" : String).toUTF8.toList = [0x5C, 0x72] by decide +kernel]; rfl
  · rw [show ("\\t" : String).toUTF8.toList = [0x5C, 0x74] by decide +kernel]; rfl
  · rw [show ("\\b" : String).toUTF8.toList = [0x5C, 0x62] by decide +kernel]; rfl
  · rw [show ("\\f" : String).toUTF8.toList = [0x5C, 0x66] by decide +kernel]; rfl
  · rename_i hquote hbackslash _ _ _ _ _
    have hvalid := Text.toNat_valid c
    have hescape : ∀ (h : c.toNat < 0xD800 ∨ (0xDFFF < c.toNat ∧ c.toNat < 65536)),
        readString (fuel + 1) acc (("\\u" ++ hex4 c.toNat).toUTF8.toList ++ more) =
          readString fuel (c :: acc) more := fun h => by
      rw [readString_unicodeEscape h, Text.charOf_toNat]
    split
    · exact hescape (by omega)
    · split
      · exact hescape (by omega)
      · split
        · rename_i h
          exact hescape (by rcases h.2 with rfl | rfl | rfl <;> decide)
        · rename_i hlow _ _
          obtain ⟨b, tail, henc, hascii, hhigh⟩ := Text.utf8EncodeChar_head c
          have hfirst := Text.decodeFirst_utf8EncodeChar c more
          rw [henc, List.cons_append] at hfirst
          simp only [Text.decodeFirst, Option.some.injEq, Prod.mk.injEq] at hfirst
          have hb : b ≠ 0x22 ∧ b ≠ 0x5C ∧ 0x20 ≤ b.toNat := by
            by_cases hc : c.toNat < 128
            · have hbc := hascii hc
              refine ⟨fun h => hquote ?_, fun h => hbackslash ?_, by omega⟩
              · apply Char.ext; apply UInt32.toNat_inj.mp
                rw [Char.toNat_val, ← hbc, h]; rfl
              · apply Char.ext; apply UInt32.toNat_inj.mp
                rw [Char.toNat_val, ← hbc, h]; rfl
            · have := hhigh (by omega)
              refine ⟨fun h => ?_, fun h => ?_, by omega⟩ <;> (subst h; simp at this)
          rw [Text.toUTF8_toList, String.toList_singleton, List.flatMap_cons, List.flatMap_nil,
            List.append_nil, henc, List.cons_append]
          obtain ⟨hq, hs, hlo⟩ := hb
          have hnlt : ¬ b < 0x20 := by rw [UInt8.lt_iff_toNat_lt]; simpa using hlo
          simp only [readString, beq_iff_eq, hq, hs, hnlt, if_false]
          rw [hfirst.1, hfirst.2]

/-- The bytes the writer gives for the characters of a string body. -/
def escapedBytes (style : Style) (cs : List Char) : Bytes :=
  cs.flatMap fun c => (escapeChar style c).toUTF8.toList

theorem escapeChar_toList_ne_nil (style : Style) (c : Char) : (escapeChar style c).toList ≠ [] := by
  unfold escapeChar
  split <;> (repeat' split) <;> simp

/-- Escaping never shortens a text: every escape takes at least one byte, as its first character
takes at least one. -/
theorem length_le_escapedBytes (style : Style) (cs : List Char) :
    cs.length ≤ (escapedBytes style cs).length := by
  induction cs with
  | nil => simp [escapedBytes]
  | cons c cs ih =>
    obtain ⟨d, ds, hds⟩ := List.exists_cons_of_ne_nil (escapeChar_toList_ne_nil style c)
    have hpos : 0 < (String.utf8EncodeChar d).length :=
      List.length_pos_iff.mpr String.utf8EncodeChar_ne_nil
    simp only [escapedBytes, List.flatMap_cons, List.length_append, List.length_cons,
      Text.toUTF8_toList, hds] at ih ⊢
    omega

/-- A whole string body reads back, up to its closing quote, when the fuel exceeds
its length. -/
theorem readString_escapedBytes (style : Style) (cs : List Char) (fuel : Nat) (acc : List Char)
    (more : Bytes) (hfuel : cs.length < fuel) :
    readString fuel acc (escapedBytes style cs ++ 0x22 :: more) =
      .ok (String.ofList (acc.reverse ++ cs), more) := by
  induction cs generalizing fuel acc with
  | nil =>
    obtain ⟨f, rfl⟩ : ∃ f, fuel = f + 1 := ⟨fuel - 1, by simp at hfuel; omega⟩
    simp [escapedBytes, readString]
    rfl
  | cons c cs ih =>
    obtain ⟨f, rfl⟩ : ∃ f, fuel = f + 1 := ⟨fuel - 1, by simp at hfuel; omega⟩
    simp only [escapedBytes, List.flatMap_cons, List.append_assoc] at ih ⊢
    rw [readString_escapeChar, ih f (c :: acc) (by simpa using hfuel)]
    simp

theorem quote_bytes (style : Style) (s : String) :
    (quote style s).toUTF8.toList = 0x22 :: (escapedBytes style s.toList ++ [0x22]) := by
  simp only [quote, Text.toUTF8_toList, String.toList_append, List.flatMap_append,
    String.toList_join, List.flatMap_map, escapedBytes, List.flatMap_assoc]
  rfl

/-! ## Numbers -/

theorem isDigit_asciiByte {c : Char} (h : c.toNat < 128) : isDigit (asciiByte c) = c.isDigit := by
  simp only [isDigit, Char.isDigit, UInt8.le_iff_toNat_le, Text.toNat_asciiByte h,
    UInt32.le_iff_toNat_le, ge_iff_le]
  rfl

/-- Decimal digits, at least one. -/
def IsDigits (ds : List Char) : Prop := ds ≠ [] ∧ ∀ c ∈ ds, c.isDigit = true

/-- The rest of the input after a run of digits: it does not go on with a digit. -/
def NoDigitHead (r : Bytes) : Prop := ∀ b t, r = b :: t → isDigit b = false

theorem spanDigits_append {ds : List Char} (hd : ∀ c ∈ ds, c.isDigit = true) {r : Bytes}
    (hr : NoDigitHead r) : spanDigits (ds.map asciiByte ++ r) = (ds.map asciiByte, r) := by
  induction ds with
  | nil =>
    cases r with
    | nil => rfl
    | cons b t => simp [spanDigits, hr b t rfl]
  | cons c ds ih =>
    have hc := hd c List.mem_cons_self
    have hb : isDigit (asciiByte c) = true := by rw [isDigit_asciiByte (digit_lt hc), hc]
    have ih' := ih (fun x hx => hd x (List.mem_cons_of_mem c hx))
    simp only [spanDigits, Prod.mk.injEq] at ih' ⊢
    simp [hb, ih'.1, ih'.2]


theorem noDigitHead_cons {b : UInt8} {t : Bytes} (h : isDigit b = false) : NoDigitHead (b :: t) := by
  rintro b' t' ⟨⟩
  exact h

theorem readSign_digit {b : UInt8} (hb : isDigit b = true) (t : Bytes) :
    readSign (b :: t) = ([], b :: t) := by
  unfold readSign
  split
  · next h => cases h; simp [isDigit] at hb
  · rfl

theorem readWhole_digits {d : Char} {ds : List Char} (hd : IsDigits (d :: ds)) (h0 : d ≠ '0')
    {r : Bytes} (hr : NoDigitHead r) :
    readWhole ((d :: ds).map asciiByte ++ r) = .ok ((d :: ds).map asciiByte, r) := by
  have hdig : isDigit (asciiByte d) = true := by
    rw [isDigit_asciiByte (digit_lt (hd.2 d List.mem_cons_self)), hd.2 d List.mem_cons_self]
  have hne : asciiByte d ≠ 0x30 := by
    intro h
    apply h0
    have := Text.toNat_asciiByte (digit_lt (hd.2 d List.mem_cons_self))
    rw [h] at this
    exact Char.toNat_inj.mp this.symm
  unfold readWhole
  split
  · next _ r' h =>
    simp only [List.map_cons, List.cons_append, List.cons.injEq] at h
    exact absurd h.1 hne
  · next _ d' t _ h =>
    simp only [List.map_cons, List.cons_append, List.cons.injEq] at h
    obtain ⟨rfl, -⟩ := h
    rw [if_pos hdig, spanDigits_append hd.2 hr]
    rfl
  · next _ h => simp at h

theorem isDigit_head {ds : List Char} (hd : IsDigits ds) :
    ∃ c cs, ds = c :: cs ∧ isDigit (asciiByte c) = true := by
  obtain ⟨hne, hall⟩ := hd
  obtain ⟨c, cs, rfl⟩ := List.exists_cons_of_ne_nil hne
  have hc := hall c List.mem_cons_self
  exact ⟨c, cs, rfl, by rw [isDigit_asciiByte (digit_lt hc), hc]⟩

theorem readFraction_none {r : Bytes} (h : ∀ t, r ≠ 0x2E :: t) : readFraction r = .ok ([], r) := by
  unfold readFraction
  split
  · next _ t => exact absurd rfl (h t)
  · rfl

theorem readFraction_digits {ds : List Char} (hd : IsDigits ds) {r : Bytes} (hr : NoDigitHead r) :
    readFraction (0x2E :: (ds.map asciiByte ++ r)) = .ok (0x2E :: ds.map asciiByte, r) := by
  obtain ⟨c, cs, rfl, hc⟩ := isDigit_head hd
  simp only [readFraction, List.map_cons, List.cons_append, hc, if_true]
  rw [← List.cons_append, ← List.map_cons, spanDigits_append hd.2 hr]
  rfl

theorem readExponentSign_digits {sg : List Char} (hsg : sg = [] ∨ sg = ['+'] ∨ sg = ['-'])
    {ds : List Char} (hd : IsDigits ds) (r : Bytes) :
    readExponentSign (sg.map asciiByte ++ (ds.map asciiByte ++ r)) =
      (sg.map asciiByte, ds.map asciiByte ++ r) := by
  rcases hsg with rfl | rfl | rfl
  · obtain ⟨c, cs, rfl, hc⟩ := isDigit_head hd
    unfold readExponentSign
    split
    · next t h => simp only [List.map_nil, List.nil_append, List.map_cons, List.cons_append,
        List.cons.injEq] at h; rw [h.1] at hc; simp [isDigit] at hc
    · next t h => simp only [List.map_nil, List.nil_append, List.map_cons, List.cons_append,
        List.cons.injEq] at h; rw [h.1] at hc; simp [isDigit] at hc
    · rfl
  · rfl
  · rfl

theorem readExponentPart_none {r : Bytes} (h : ∀ e t, r = e :: t → e ≠ 0x65 ∧ e ≠ 0x45) :
    readExponentPart r = .ok ([], r) := by
  unfold readExponentPart
  split
  · next e t =>
    obtain ⟨h1, h2⟩ := h e t rfl
    rw [if_neg (by simp [h1, h2])]
    rfl
  · rfl

theorem readExponentPart_digits {e : Char} (he : e = 'e' ∨ e = 'E') {sg : List Char}
    (hsg : sg = [] ∨ sg = ['+'] ∨ sg = ['-']) {ds : List Char} (hd : IsDigits ds) {r : Bytes}
    (hr : NoDigitHead r) :
    readExponentPart (asciiByte e :: (sg.map asciiByte ++ (ds.map asciiByte ++ r))) =
      .ok (asciiByte e :: (sg.map asciiByte ++ ds.map asciiByte), r) := by
  have hmark : (asciiByte e == 0x65 || asciiByte e == 0x45) = true := by
    rcases he with rfl | rfl <;> rfl
  obtain ⟨c, cs, hcs, hc⟩ := isDigit_head hd
  simp only [readExponentPart, hmark, if_true]
  rw [readExponentSign_digits hsg hd r, spanDigits_append hd.2 hr]
  simp only [hcs, List.map_cons, List.cons_append, hc, if_true]
  rfl

/-- The exponent part of a number text: nothing, or `e`/`E`, a sign and digits. -/
def IsExponent (es : List Char) : Prop :=
  es = [] ∨ ∃ m sg ds, es = m :: (sg ++ ds) ∧ (m = 'e' ∨ m = 'E') ∧
    (sg = [] ∨ sg = ['+'] ∨ sg = ['-']) ∧ IsDigits ds

/-- Digits read by `spanDigits` with nothing after them are the whole text. -/
theorem isDigits_of_spanDigits {cs ds tail : List Char} (hspan : Decimal.spanDigits cs = (ds, tail))
    (h : ¬ (ds.isEmpty = true ∨ ¬ tail.isEmpty = true)) : IsDigits cs := by
  simp only [Decimal.spanDigits, Prod.mk.injEq] at hspan
  obtain ⟨rfl, rfl⟩ := hspan
  simp only [List.isEmpty_iff, not_or, Decidable.not_not] at h
  obtain ⟨hne, hnil⟩ := h
  have hcs : cs.takeWhile Char.isDigit ++ cs.dropWhile Char.isDigit = cs :=
    List.takeWhile_append_dropWhile
  rw [hnil, List.append_nil] at hcs
  refine ⟨fun h => hne (by simp [h]), fun c hc => ?_⟩
  rw [← hcs] at hc
  exact List.all_eq_true.mp List.all_takeWhile c hc

theorem isExponent_of_readExponent {cs : List Char} {e : Int}
    (h : Decimal.readExponent cs = some e) : IsExponent cs := by
  unfold Decimal.readExponent at h
  split at h
  · exact .inl rfl
  · next m rest =>
    split at h
    · next hm =>
      split at h
      next negative body hsign =>
      split at h
      next ds tail hspan =>
      split at h
      · simp at h
      · next hdigits =>
        have hbody := isDigits_of_spanDigits hspan hdigits
        refine .inr ?_
        split at hsign
        · next r => cases hsign; exact ⟨m, ['-'], body, rfl, hm, .inr (.inr rfl), hbody⟩
        · next r => cases hsign; exact ⟨m, ['+'], body, rfl, hm, .inr (.inl rfl), hbody⟩
        · cases hsign; exact ⟨m, [], rest, rfl, hm, .inl rfl, hbody⟩
    · simp at h

/-- Digits read by `spanDigits` from the front of a text, when there is at least one. -/
theorem isDigits_takeWhile {cs : List Char} (h : ¬ (cs.takeWhile Char.isDigit).isEmpty = true) :
    IsDigits (cs.takeWhile Char.isDigit) :=
  ⟨fun hnil => h (by simp [hnil]), List.all_eq_true.mp List.all_takeWhile⟩

/-- The text of a JSON number split as the grammar splits it: an optional minus, the integer
part (a lone zero, or digits that do not start with zero), an optional fraction (a point and
digits) and an optional exponent. -/
structure NumberText where
  sign : List Char
  whole : List Char
  frac : List Char
  exp : List Char
  sign_eq : sign = [] ∨ sign = ['-']
  whole_digits : IsDigits whole
  whole_zero : whole.head? = some '0' → whole = ['0']
  frac_eq : frac = [] ∨ ∃ ds, frac = '.' :: ds ∧ IsDigits ds
  exp_eq : IsExponent exp

/-- The characters of a number text. -/
def NumberText.chars (t : NumberText) : List Char := t.sign ++ t.whole ++ t.frac ++ t.exp

/-- Every text that reads as a literal has the shape of the grammar. The text splits into its sign,
its integer part and its fraction, read in turn. -/
theorem exists_numberText {s : String} {l : Decimal.Literal} (h : Decimal.Literal.ofJson? s = some l) :
    ∃ t : NumberText, t.chars = s.toList := by
  unfold Decimal.Literal.ofJson? at h
  dsimp -iota -proj only at h
  split at h
  next negative cs hsign =>
  split at h
  next ints rest hspan =>
  split at h
  · simp at h
  next hint =>
  split at h
  next fs rest' ok hfrac =>
  split at h
  · simp at h
  next hok =>
  split at h
  · simp at h
  next e hexp =>
  obtain ⟨sign, hsign_eq, hs⟩ : ∃ sign, (sign = [] ∨ sign = ['-']) ∧ s.toList = sign ++ cs := by
    split at hsign
    · next r heq => cases hsign; exact ⟨['-'], .inr rfl, heq⟩
    · cases hsign; exact ⟨[], .inl rfl, rfl⟩
  simp only [Decimal.spanDigits, Prod.mk.injEq] at hspan
  obtain ⟨rfl, rfl⟩ := hspan
  simp only [not_or, not_and] at hint
  have hwhole := isDigits_takeWhile hint.1
  have hzero : (cs.takeWhile Char.isDigit).head? = some '0' → cs.takeWhile Char.isDigit = ['0'] := by
    intro h0
    have hlen : (cs.takeWhile Char.isDigit).length ≤ 1 :=
      Nat.le_of_not_lt fun hgt => hint.2 hgt h0
    obtain ⟨c, cs', hcs'⟩ := List.exists_cons_of_ne_nil hwhole.1
    rw [hcs'] at h0 hlen ⊢
    simp only [List.head?_cons, Option.some.injEq] at h0
    subst h0
    simp only [List.length_cons] at hlen
    simp [List.eq_nil_of_length_eq_zero (by omega : cs'.length = 0)]
  obtain ⟨frac, hfrac_eq, hrest⟩ : ∃ frac, (frac = [] ∨ ∃ ds, frac = '.' :: ds ∧ IsDigits ds) ∧
      cs.dropWhile Char.isDigit = frac ++ rest' := by
    split at hfrac
    · next r heq =>
      simp only [Decimal.spanDigits, Prod.mk.injEq] at hfrac
      obtain ⟨rfl, rfl, rfl⟩ := hfrac
      simp only [Bool.not_not] at hok
      refine ⟨'.' :: r.takeWhile Char.isDigit, .inr ⟨_, rfl, isDigits_takeWhile (by simpa using hok)⟩, ?_⟩
      rw [heq, List.cons_append, List.takeWhile_append_dropWhile]
    · cases hfrac; exact ⟨[], .inl rfl, rfl⟩
  refine ⟨⟨sign, _, frac, rest', hsign_eq, hwhole, hzero, hfrac_eq, isExponent_of_readExponent hexp⟩, ?_⟩
  rw [hs, NumberText.chars, List.append_assoc, List.append_assoc, ← hrest, List.takeWhile_append_dropWhile]

/-- What may follow a number: nothing that would continue it. -/
def EndsNumber (r : Bytes) : Prop :=
  ∀ b t, r = b :: t → isDigit b = false ∧ b ≠ 0x2E ∧ b ≠ 0x65 ∧ b ≠ 0x45

theorem readExponentPart_exponent {es : List Char} (hes : IsExponent es) {r : Bytes}
    (hr : EndsNumber r) : readExponentPart (es.map asciiByte ++ r) = .ok (es.map asciiByte, r) := by
  rcases hes with rfl | ⟨m, sg, ds, rfl, hm, hsg, hds⟩
  · exact readExponentPart_none fun b t h => ⟨(hr b t h).2.2.1, (hr b t h).2.2.2⟩
  · have hnd : NoDigitHead r := fun b t h => (hr b t h).1
    simpa [List.map_append] using readExponentPart_digits hm hsg hds hnd

/-- After an exponent, or nothing, comes no digit and no point. -/
theorem exponent_ends {es : List Char} (hes : IsExponent es) {r : Bytes} (hr : EndsNumber r) :
    NoDigitHead (es.map asciiByte ++ r) ∧ ∀ t, es.map asciiByte ++ r ≠ 0x2E :: t := by
  rcases hes with rfl | ⟨m, sg, ds, rfl, hm, -, -⟩
  · exact ⟨fun b t h => (hr b t h).1, fun t h => (hr _ t h).2.1 rfl⟩
  · rcases hm with rfl | rfl <;> exact ⟨noDigitHead_cons (by decide), by simp [asciiByte]⟩

theorem readFraction_fraction {fr : List Char} (hfr : fr = [] ∨ ∃ ds, fr = '.' :: ds ∧ IsDigits ds)
    {r : Bytes} (hr : NoDigitHead r ∧ ∀ t, r ≠ 0x2E :: t) :
    readFraction (fr.map asciiByte ++ r) = .ok (fr.map asciiByte, r) := by
  rcases hfr with rfl | ⟨ds, rfl, hds⟩
  · exact readFraction_none hr.2
  · exact readFraction_digits hds hr.1

theorem fraction_ends {fr : List Char} (hfr : fr = [] ∨ ∃ ds, fr = '.' :: ds ∧ IsDigits ds)
    {r : Bytes} (hr : NoDigitHead r) : NoDigitHead (fr.map asciiByte ++ r) := by
  rcases hfr with rfl | ⟨ds, rfl, -⟩
  · exact hr
  · exact noDigitHead_cons (by decide)

theorem readWhole_whole {ws : List Char} (hws : IsDigits ws) (hzero : ws.head? = some '0' → ws = ['0'])
    {r : Bytes} (hr : NoDigitHead r) : readWhole (ws.map asciiByte ++ r) = .ok (ws.map asciiByte, r) := by
  obtain ⟨d, ds, rfl⟩ := List.exists_cons_of_ne_nil hws.1
  by_cases h0 : d = '0'
  · subst h0
    rw [hzero rfl]
    rfl
  · exact readWhole_digits hws h0 hr

theorem readSign_sign {sg : List Char} (hsg : sg = [] ∨ sg = ['-']) {ws : List Char}
    (hws : IsDigits ws) (r : Bytes) :
    readSign (sg.map asciiByte ++ (ws.map asciiByte ++ r)) = (sg.map asciiByte, ws.map asciiByte ++ r) := by
  rcases hsg with rfl | rfl
  · obtain ⟨c, cs, rfl, hc⟩ := isDigit_head hws
    exact readSign_digit hc _
  · rfl

/-- `readNumber` reads exactly the text of a number, when nothing follows that would
continue it. -/
theorem readNumber_chars (t : NumberText) {r : Bytes} (hr : EndsNumber r) :
    readNumber (t.chars.map asciiByte ++ r) = .ok (Text.toText (t.chars.map asciiByte), r) := by
  obtain ⟨sg, ws, fr, es, hsg, hws, hzero, hfr, hes⟩ := t
  have hexp := readExponentPart_exponent hes hr
  have hends := exponent_ends hes hr
  have hfrac := readFraction_fraction hfr hends
  have hwhole := readWhole_whole hws hzero (fraction_ends hfr hends.1)
  have hsign := readSign_sign hsg hws (fr.map asciiByte ++ (es.map asciiByte ++ r))
  simp only [NumberText.chars, List.map_append, List.append_assoc] at hwhole hfrac ⊢
  simp only [readNumber, hsign, hwhole, hfrac, hexp, bind, Except.bind, pure, Except.pure,
    List.append_assoc]

theorem NumberText.ascii (t : NumberText) : ∀ c ∈ t.chars, c.toNat < 128 := by
  obtain ⟨sg, ws, fr, es, hsg, hws, -, hfr, hes⟩ := t
  have hdigits : ∀ {ds : List Char}, IsDigits ds → ∀ c ∈ ds, c.toNat < 128 :=
    fun hds c hc => digit_lt (hds.2 c hc)
  intro c hc
  simp only [NumberText.chars, List.mem_append] at hc
  rcases hc with ((hc | hc) | hc) | hc
  · rcases hsg with rfl | rfl <;> simp_all
  · exact hdigits hws c hc
  · rcases hfr with rfl | ⟨ds, rfl, hds⟩
    · simp at hc
    · rcases List.mem_cons.mp hc with rfl | hc
      · decide
      · exact hdigits hds c hc
  · rcases hes with rfl | ⟨m, sg', ds, rfl, hm, hsg', hds⟩
    · simp at hc
    · rcases List.mem_cons.mp hc with rfl | hc
      · rcases hm with rfl | rfl <;> decide
      · rcases List.mem_append.mp hc with hc | hc
        · rcases hsg' with rfl | rfl | rfl <;> simp_all
        · exact hdigits hds c hc

/-- A number text begins with a minus or a digit. -/
theorem NumberText.head (t : NumberText) :
    ∃ c cs, t.chars = c :: cs ∧ (c = '-' ∨ c.isDigit = true) := by
  obtain ⟨sg, ws, fr, es, hsg, hws, -, -, -⟩ := t
  obtain ⟨w, ws', rfl⟩ := List.exists_cons_of_ne_nil hws.1
  rcases hsg with rfl | rfl
  · exact ⟨w, ws' ++ fr ++ es, by simp [NumberText.chars], .inr (hws.2 w List.mem_cons_self)⟩
  · exact ⟨'-', w :: ws' ++ fr ++ es, by simp [NumberText.chars], .inl rfl⟩

/-! ## Values and objects -/

/-- The values of a telemetry object: strings, and numbers in the JSON grammar. -/
def Readable (v : Value) : Prop :=
  (∃ s, v = .string s) ∨ ∃ lit l, v = .number lit ∧ Decimal.Literal.ofJson? lit = some l

theorem skipSpace_cons {b : UInt8} (hb : isSpace b = false) (t : Bytes) :
    skipSpace (b :: t) = b :: t := by
  simp [skipSpace, hb]

theorem digit_not_token {b : UInt8} (hb : isDigit b = true) :
    b ≠ 0x7B ∧ b ≠ 0x5B ∧ b ≠ 0x22 ∧ isSpace b = false := by
  simp only [isDigit, Bool.and_eq_true, decide_eq_true_eq, UInt8.le_iff_toNat_le] at hb
  have h30 : (0x30 : UInt8).toNat = 48 := rfl
  have h39 : (0x39 : UInt8).toNat = 57 := rfl
  refine ⟨fun h => ?_, fun h => ?_, fun h => ?_, ?_⟩
  · subst h; simp at hb
  · subst h; simp at hb
  · subst h; simp at hb
  · simp only [isSpace, Bool.or_eq_false_iff, beq_eq_false_iff_ne, ne_eq]
    refine ⟨⟨⟨fun h => ?_, fun h => ?_⟩, fun h => ?_⟩, fun h => ?_⟩ <;> (subst h; simp at hb)

/-- A readable value is read back from its text, when a comma or a closing brace follows. A
string's text is its quotes around what `readString` takes back; a number's passes the grammar's
stages up to the comma or brace. -/
theorem readValue_render {v : Value} (hv : Readable v) (style : Style) (fuel depth : Nat)
    {c : UInt8} (hc : c = 0x2C ∨ c = 0x7D) (rest : Bytes) :
    readValue (fuel + 1) depth ((v.render style).toUTF8.toList ++ c :: rest) = .ok (v, c :: rest) := by
  rcases hv with ⟨s, rfl⟩ | ⟨lit, l, rfl, hlit⟩
  · have hlen := length_le_escapedBytes style s.toList
    rw [Value.render, quote_bytes, List.cons_append, List.append_assoc, List.cons_append,
      List.nil_append]
    simp only [readValue, skipSpace_cons (show isSpace 0x22 = false by decide)]
    rw [if_neg (by simp), if_neg (by decide), if_neg (by decide), if_pos (by decide),
      readString_escapedBytes style s.toList _ [] _
        (by simp only [List.length_append, List.length_cons]; omega)]
    simp [bind, Except.bind, pure, Except.pure]
  · obtain ⟨t, ht⟩ := exists_numberText hlit
    have hbytes : ((Value.number lit).render style).toUTF8.toList = t.chars.map asciiByte := by
      rw [Value.render, Text.toUTF8_toList, ← ht,
        Text.flatMap_utf8EncodeChar_of_ascii t.ascii]
    have hends : EndsNumber (c :: rest) := by
      rintro b r ⟨⟩
      rcases hc with rfl | rfl <;> decide
    have hread := readNumber_chars t hends
    have hlit' : String.ofList t.chars = lit := by rw [ht, String.ofList_toList]
    rw [Text.toText_map_asciiByte t.ascii, hlit'] at hread
    obtain ⟨c0, cs, hcs, hc0⟩ := t.head
    rw [hbytes]
    rw [hcs] at hread ⊢
    rcases hc0 with rfl | hdig
    · simp only [List.map_cons, List.cons_append, show asciiByte '-' = 0x2D from rfl] at hread ⊢
      simp only [readValue, skipSpace_cons (show isSpace 0x2D = false by decide)]
      rw [if_neg (by simp), if_neg (by decide), if_neg (by decide), if_neg (by decide),
        if_pos (by decide), hread]
      rfl
    · have hb : isDigit (asciiByte c0) = true := by rw [isDigit_asciiByte (digit_lt hdig), hdig]
      obtain ⟨h7B, h5B, h22, hsp⟩ := digit_not_token hb
      simp only [List.map_cons, List.cons_append] at hread ⊢
      simp only [readValue, skipSpace_cons hsp]
      rw [if_neg (by simp [h7B, h5B]), if_neg (by simpa using h7B), if_neg (by simpa using h5B),
        if_neg (by simpa using h22), if_pos (by simp [hb]), hread]
      rfl

/-- The text of an object member. -/
def memberText (style : Style) (m : String × Value) : String :=
  quote style m.1 ++ ":" ++ m.2.render style

/-- One member is read, key and value, up to the comma or brace after it. -/
theorem readMembers_member {m : String × Value} (hm : Readable m.2) (style : Style)
    (fuel depth : Nat) (acc : List (String × Value)) (first : Bool) {c : UInt8}
    (hc : c = 0x2C ∨ c = 0x7D) (rest : Bytes) :
    readMembers (fuel + 2) depth acc ((memberText style m).toUTF8.toList ++ c :: rest) first =
      if c == 0x2C then readMembers (fuel + 1) depth (m :: acc) rest false
      else .ok (.object (m :: acc).reverse, rest) := by
  obtain ⟨k, v⟩ := m
  have hlen := length_le_escapedBytes style k.toList
  have hvalue := readValue_render hm style fuel depth hc rest
  have hsp : isSpace c = false := by rcases hc with rfl | rfl <;> decide
  rw [memberText, Text.toUTF8_append_toList, Text.toUTF8_append_toList, quote_bytes,
    show (":" : String).toUTF8.toList = [0x3A] by decide +kernel]
  simp only [List.cons_append, List.append_assoc, List.nil_append]
  simp only [readMembers, skipSpace_cons (show isSpace 0x22 = false by decide)]
  rw [if_neg (by simp), if_pos (by decide), readString_escapedBytes style k.toList _ [] _
    (by simp only [List.length_append, List.length_cons]; omega)]
  simp only [bind, Except.bind, List.reverse_nil, List.nil_append, String.ofList_toList,
    skipSpace_cons (show isSpace 0x3A = false by decide)]
  rw [if_neg (by decide), hvalue]
  simp only [skipSpace_cons hsp]
  rcases hc with rfl | rfl
  · rfl
  · rfl

/-- The members of an object, written one after the other with commas between them,
are read back in order up to the closing brace. -/
theorem readMembers_render (style : Style) (m : String × Value) (ms : List (String × Value))
    (hms : ∀ x ∈ m :: ms, Readable x.2) (fuel depth : Nat) (hfuel : ms.length ≤ fuel)
    (acc : List (String × Value)) (first : Bool) (rest : Bytes) :
    readMembers (fuel + 2) depth acc
        ((",".intercalate ((m :: ms).map (memberText style))).toUTF8.toList ++ 0x7D :: rest) first =
      .ok (.object (acc.reverse ++ m :: ms), rest) := by
  induction ms generalizing m fuel acc first with
  | nil =>
    rw [List.map_singleton, String.intercalate_singleton,
      readMembers_member (hms m List.mem_cons_self) style fuel depth acc first (.inr rfl)]
    simp
  | cons m' ms ih =>
    obtain ⟨f, rfl⟩ : ∃ f, fuel = f + 1 := ⟨fuel - 1, by simp at hfuel; omega⟩
    rw [List.map_cons, List.map_cons, String.intercalate_cons_cons, Text.toUTF8_append_toList,
      Text.toUTF8_append_toList, show (",").toUTF8.toList = [0x2C] by decide +kernel,
      ← List.map_cons]
    simp only [List.append_assoc, List.cons_append]
    rw [readMembers_member (hms m List.mem_cons_self) style (f + 1) depth acc first (.inl rfl),
      if_pos (by decide), List.nil_append]
    have hread := ih m' (fun x hx => hms x (List.mem_cons_of_mem m hx)) f
      (by simp at hfuel; omega) (m :: acc) false
    simpa using hread

theorem render_object (style : Style) (hsort : style.sortKeys = false) (ms : List (String × Value)) :
    (Value.object ms).render style = "\x7b" ++ ",".intercalate (ms.map (memberText style)) ++ "\x7d" := by
  rw [Value.render]
  simp only [hsort, Bool.false_eq_true, if_false, List.map_map]
  congr 2
  exact congrArg _
    (List.attach_map_val : (ms.attach.map fun i => memberText style i.val) = ms.map (memberText style))

/-- Each member takes at least one byte, so an object has at least as many bytes as members. -/
theorem length_le_members_bytes (style : Style) (m : String × Value) (ms : List (String × Value)) :
    (m :: ms).length ≤ ((",".intercalate ((m :: ms).map (memberText style))).toUTF8.toList).length := by
  induction ms generalizing m with
  | nil =>
    rw [List.map_singleton, String.intercalate_singleton, memberText, Text.toUTF8_append_toList,
      Text.toUTF8_append_toList, quote_bytes]
    simp
  | cons m' ms ih =>
    rw [List.map_cons, List.map_cons, String.intercalate_cons_cons, Text.toUTF8_append_toList,
      Text.toUTF8_append_toList, ← List.map_cons, memberText, Text.toUTF8_append_toList,
      Text.toUTF8_append_toList, quote_bytes]
    have := ih m'
    simp only [List.length_append, List.length_cons] at this ⊢
    omega

/-- The bytes of an object: a brace, the members, a brace. -/
theorem render_object_bytes (style : Style) (hsort : style.sortKeys = false)
    (ms : List (String × Value)) :
    ((Value.object ms).render style).toUTF8.toList =
      0x7B :: ((",".intercalate (ms.map (memberText style))).toUTF8.toList ++ [0x7D]) := by
  rw [render_object style hsort, Text.toUTF8_append_toList, Text.toUTF8_append_toList,
    show ("\x7b" : String).toUTF8.toList = [0x7B] by decide +kernel,
    show ("\x7d" : String).toUTF8.toList = [0x7D] by decide +kernel]
  rfl

/-- An object of strings and JSON numbers reads back as itself. -/
theorem parse_render_object (style : Style) (hsort : style.sortKeys = false)
    (m : String × Value) (ms : List (String × Value)) (hms : ∀ x ∈ m :: ms, Readable x.2) :
    parse ((Value.object (m :: ms)).render style).toUTF8.toList = .ok (.object (m :: ms)) := by
  have hlen := length_le_members_bytes style m ms
  rw [render_object_bytes style hsort]
  generalize hbody : (",".intercalate ((m :: ms).map (memberText style))).toUTF8.toList = body at hlen
  obtain ⟨fuel, hfuel⟩ : ∃ fuel, 2 * (0x7B :: (body ++ [0x7D])).length + 1 = fuel + 2 ∧
      ms.length ≤ fuel := ⟨2 * (0x7B :: (body ++ [0x7D])).length - 1,
        by simp only [List.length_append, List.length_cons] at hlen ⊢; omega⟩
  have hread := readMembers_render style m ms hms fuel 1 hfuel.2 [] true []
  rw [hbody] at hread
  simp only [parse, readValue, skipSpace_cons (show isSpace 0x7B = false by decide)]
  rw [if_neg (by decide), if_pos (by decide), Nat.zero_add, hfuel.1, hread]
  rfl

end Airspace.Json
