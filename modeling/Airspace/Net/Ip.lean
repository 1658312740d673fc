import Airspace.Text.Quoted
import Airspace.Text.Utf8

/-!
# IP addresses as text

An IPv4 address is written as four decimal fields from 0 to 255 separated by
dots, none with a leading zero. An IPv6 address is written as eight groups of
one to four hexadecimal digits separated by colons; one run of groups may be
left out and written `::` (it stands for at least one zero group), and the last
two groups may be written as an IPv4 address. An IPv6 address may carry a zone
after `%`, which must not be empty.

An address is written back in one canonical form: IPv4 in dotted decimal; IPv6
in lower-case hexadecimal without leading zeros, the longest run of two or more
zero groups (the first of equal runs) written `::`, the zone after `%`. An IPv6
address that maps an IPv4 one, `::ffff:a.b.c.d`, is written as that IPv4
address.

A host and a port are joined with a colon, the host between brackets when it
holds a colon itself.

`parseAddr` reads an address as the standard address parser does, byte by
byte, and says where and why it stops: the first `.`, `:` or `%` decides
between IPv4, IPv6 and a zone without an address, and each fault is reported
with the whole input and, for most faults, the rest of the text from the place
where reading stopped.
-/

namespace Airspace.Net

/-- An IP address: four octets, or eight 16-bit groups with a zone (empty for none). -/
inductive IpAddress where
  | v4 (octets : List Nat)
  | v6 (groups : List Nat) (zone : String)

/-- The value of a hexadecimal digit. -/
def hexDigitValue (c : Char) : Option Nat :=
  if c.isDigit then some (c.toNat - 0x30)
  else if 'a' ≤ c && c ≤ 'f' then some (c.toNat - 0x61 + 10)
  else if 'A' ≤ c && c ≤ 'F' then some (c.toNat - 0x41 + 10)
  else none

/-- One decimal field of an IPv4 address: digits, no leading zero, at most 255. -/
def readOctet (cs : List Char) : Option Nat :=
  if cs.isEmpty || !cs.all Char.isDigit || cs.length > 3 then none
  else if cs.length > 1 && cs.head? == some '0' then none
  else
    let v := cs.foldl (fun acc c => 10 * acc + (c.toNat - 0x30)) 0
    if v > 255 then none else some v

/-- The four octets of a dotted IPv4 address. -/
def readIpv4 (cs : List Char) : Option (List Nat) := do
  let fields := (String.ofList cs).splitOn "."
  guard (fields.length == 4)
  fields.mapM fun f => readOctet f.toList

/-- One group of an IPv6 address: one to four hexadecimal digits. -/
def readGroup (cs : List Char) : Option Nat :=
  if cs.isEmpty || cs.length > 4 then none
  else cs.foldlM (fun acc c => (hexDigitValue c).map (16 * acc + ·)) 0

/-- The groups of colon-separated text, the last possibly an IPv4 address
standing for two groups; `[]` for empty text. -/
def readGroups (cs : List Char) : Option (List Nat) :=
  if cs.isEmpty then some []
  else
    let parts := (String.ofList cs).splitOn ":"
    match parts.getLast? with
    | none => some []
    | some last =>
      if last.contains '.' then do
        let octets ← readIpv4 last.toList
        let front ← (parts.dropLast).mapM fun p => readGroup p.toList
        pure (front ++ [256 * octets.getD 0 0 + octets.getD 1 0, 256 * octets.getD 2 0 + octets.getD 3 0])
      else parts.mapM fun p => readGroup p.toList

/-- Splits text at its first `::`, if it has one. -/
def splitEllipsis : List Char → Option (List Char × List Char)
  | [] => none
  | ':' :: ':' :: rest => some ([], rest)
  | c :: rest => (splitEllipsis rest).map fun (a, b) => (c :: a, b)

/-- The eight groups of an IPv6 address without its zone. -/
def readIpv6Groups (cs : List Char) : Option (List Nat) :=
  match splitEllipsis cs with
  | none => do
    let gs ← readGroups cs
    guard (gs.length == 8)
    pure gs
  | some (before, after) => do
    guard (!(splitEllipsis after).isSome)
    -- a `:` next to the ellipsis would leave an empty group, and an IPv4 part
    -- may only end the address
    guard (before.getLast? != some ':' && after.head? != some ':' && !before.contains '.')
    let front ← readGroups before
    let back ← readGroups after
    guard (front.length + back.length ≤ 7)
    pure (front ++ List.replicate (8 - front.length - back.length) 0 ++ back)

/-- Reads an IP address: dotted IPv4, or IPv6 with an optional zone. -/
def IpAddress.read (s : String) : Option IpAddress :=
  let cs := s.toList
  if cs.contains ':' then
    let addr := cs.takeWhile (· != '%')
    let zone := cs.drop (addr.length + 1)
    if addr.length < cs.length && zone.isEmpty then none
    else (readIpv6Groups addr).map fun gs => .v6 gs (String.ofList zone)
  else (readIpv4 cs).map .v4

/-- `n` in lower-case hexadecimal without leading zeros. -/
def hexText (n : Nat) : String := String.ofList (Nat.toDigits 16 n)

/-- The start and length of the first longest run of zero groups, when it is at least two long. -/
def longestZeroRun (gs : List Nat) : Option (Nat × Nat) :=
  let step := fun (acc : (Option (Nat × Nat)) × Nat × Nat) (g : Nat × Nat) =>
    let (best, start, len) := acc
    let (v, i) := g
    if v == 0 then
      let start := if len == 0 then i else start
      let len := len + 1
      let better : Bool := match best with
        | some (_, l) => len > l
        | none => len ≥ 2
      (if better then some (start, len) else best, start, len)
    else (best, start, 0)
  (gs.zipIdx.foldl step (none, 0, 0)).1

/-- Groups as hexadecimal joined by colons. -/
def groupsText (gs : List Nat) : String := ":".intercalate (gs.map hexText)

/-- The canonical text of an address. -/
def IpAddress.text : IpAddress → String
  | .v4 os => ".".intercalate (os.map toString)
  | .v6 gs zone =>
    let mapped := gs.take 5 == [0, 0, 0, 0, 0] && gs.getD 5 0 == 0xFFFF && zone.isEmpty
    if mapped then
      let a := gs.getD 6 0
      let b := gs.getD 7 0
      ".".intercalate ([a / 256, a % 256, b / 256, b % 256].map toString)
    else
      let body := match longestZeroRun gs with
        | some (start, len) => groupsText (gs.take start) ++ "::" ++ groupsText (gs.drop (start + len))
        | none => groupsText gs
      if zone.isEmpty then body else body ++ "%" ++ zone

/-- A host and a port joined by a colon, the host bracketed when it holds a colon. -/
def joinHostPort (host port : String) : String :=
  if host.contains ':' then "[" ++ host ++ "]:" ++ port else host ++ ":" ++ port

/-- Why a text is not an IP address: the whole text, the reason, and the text
from the place where reading stopped when the reason names one. -/
structure AddrError where
  input : List UInt8
  reason : String
  place : Option (List UInt8)

/-- The text of an address fault. -/
def AddrError.message (e : AddrError) : String :=
  "ParseAddr(" ++ Text.quoteBytes e.input ++ "): " ++ e.reason ++
    match e.place with
    | some rest => " (at " ++ Text.quoteBytes rest ++ ")"
    | none => ""

/-- Whether a byte is an ASCII decimal digit. -/
def isDecimalByte (b : UInt8) : Bool := 0x30 ≤ b && b ≤ 0x39

/-- Whether a byte is an ASCII hexadecimal digit. -/
def isHexByte (b : UInt8) : Bool :=
  isDecimalByte b || (0x61 ≤ b && b ≤ 0x66) || (0x41 ≤ b && b ≤ 0x46)

/-- The value of hexadecimal digit bytes. -/
def hexBytesValue (ds : List UInt8) : Nat :=
  ds.foldl (fun acc b => 16 * acc + (hexDigitValue (Char.ofNat b.toNat)).getD 0) 0

/-- The fields of dotted IPv4 text, read left to right: `val` and `digits` are
the field being read, `fields` those before it, `start` whether nothing has
been read and `lastDot` whether the byte before was a dot. Faults name the whole
input `input`. -/
def ipv4Fields (input : List UInt8) (val digits : Nat) (fields : List Nat) (start lastDot : Bool) :
    List UInt8 → Except AddrError (List Nat)
  | [] =>
    if fields.length < 3 then .error ⟨input, "IPv4 address too short", none⟩ else .ok (fields ++ [val])
  | b :: rest =>
    if isDecimalByte b then
      if digits == 1 && val == 0 then .error ⟨input, "IPv4 field has octet with leading zero", none⟩
      else
        let v := 10 * val + (b.toNat - 0x30)
        if v > 255 then .error ⟨input, "IPv4 field has value >255", none⟩
        else ipv4Fields input v (digits + 1) fields false false rest
    else if b == 0x2E then
      if start || rest.isEmpty || lastDot then
        .error ⟨input, "IPv4 field must have at least one digit", some (b :: rest)⟩
      else if fields.length == 3 then .error ⟨input, "IPv4 address too long", none⟩
      else ipv4Fields input 0 0 (fields ++ [val]) false true rest
    else .error ⟨input, "unexpected character", some (b :: rest)⟩

/-- Reads the groups of IPv6 text (after a leading `::`, which `ellipsis`
then records): the 16-bit groups read, the place of the `::` counted in
groups, and the text left when eight groups are read. An IPv4 address may stand
for the last two groups. -/
def ipv6Groups (input : List UInt8) : Nat → List Nat → Option Nat → List UInt8 →
    Except AddrError (List Nat × Option Nat × List UInt8)
  | 0, gs, ellipsis, s => .ok (gs, ellipsis, s)
  | fuel + 1, gs, ellipsis, s =>
    if gs.length ≥ 8 then .ok (gs, ellipsis, s)
    else
      let ds := s.takeWhile isHexByte
      if ds.length > 4 then .error ⟨input, "each group must have 4 or less digits", some s⟩
      else if ds.isEmpty then .error ⟨input, "each colon-separated field must have at least one digit", some s⟩
      else
        let rest := s.drop ds.length
        if rest.head? == some 0x2E then
          if ellipsis.isNone && gs.length != 6 then
            .error ⟨input, "embedded IPv4 address must replace the final 2 fields of the address", some s⟩
          else if gs.length > 6 then
            .error ⟨input, "too many hex fields to fit an embedded IPv4 at the end of the address", some s⟩
          else do
            let os ← ipv4Fields input 0 0 [] true false s
            return (gs ++ [256 * os.getD 0 0 + os.getD 1 0, 256 * os.getD 2 0 + os.getD 3 0], ellipsis, [])
        else
          let gs := gs ++ [hexBytesValue ds]
          match rest with
          | [] => .ok (gs, ellipsis, [])
          | c :: more =>
            if c != 0x3A then .error ⟨input, "unexpected character, want colon", some rest⟩
            else if more.isEmpty then .error ⟨input, "colon must be followed by more characters", some rest⟩
            else match more with
              | 0x3A :: more' =>
                if ellipsis.isSome then .error ⟨input, "multiple :: in address", some more⟩
                else if more'.isEmpty then .ok (gs, some gs.length, [])
                else ipv6Groups input fuel gs (some gs.length) more'
              | _ => ipv6Groups input fuel gs ellipsis more

/-- Reads IPv6 text with an optional zone after the first `%`. -/
def parseIpv6 (input : List UInt8) : Except AddrError IpAddress := do
  let addr := input.takeWhile (· != 0x25)
  let hasZone := addr.length < input.length
  let zone := input.drop (addr.length + 1)
  if hasZone && zone.isEmpty then throw ⟨input, "zone must be a non-empty string", none⟩
  let zoneText := Text.toText zone
  let (ellipsis, s) : Option Nat × List UInt8 := match addr with
    | 0x3A :: 0x3A :: r => (some 0, r)
    | r => (none, r)
  if ellipsis.isSome && s.isEmpty then return .v6 (List.replicate 8 0) zoneText
  let (gs, ellipsis, rest) ← ipv6Groups input 16 [] ellipsis s
  if !rest.isEmpty then throw ⟨input, "trailing garbage after address", some rest⟩
  if gs.length < 8 then
    match ellipsis with
    | none => throw ⟨input, "address string too short", none⟩
    | some place => return .v6 (gs.take place ++ List.replicate (8 - gs.length) 0 ++ gs.drop place) zoneText
  else if ellipsis.isSome then throw ⟨input, "the :: must expand to at least one field of zeros", none⟩
  else return .v6 gs zoneText

/-- Reads an IP address as the standard address parser does. -/
def parseAddr (input : List UInt8) : Except AddrError IpAddress :=
  match input.find? (fun b => b == 0x2E || b == 0x3A || b == 0x25) with
  | some 0x2E => (ipv4Fields input 0 0 [] true false input).map IpAddress.v4
  | some 0x3A => parseIpv6 input
  | some _ => .error ⟨input, "missing IPv6 address", none⟩
  | none => .error ⟨input, "unable to parse IP", none⟩

end Airspace.Net
