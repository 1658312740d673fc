import Airspace.Text.Case
import Airspace.Text.Quoted
import Airspace.Net.Ip

/-!
# Request URLs

A request URL is `scheme:` followed by `//authority`, a path, an optional query
after the first `?` and an optional fragment after the first `#`. The
authority is `[userinfo@]host[:port]`, the host possibly a bracketed IPv6
literal with a zone after `%25`. Reading stops at the first fault, in this
order:

* a control character before the fragment;
* a text that starts with `:` (a scheme without a name);
* without a scheme, a colon in the first path segment;
* in the authority: a last `[` anywhere but at the start of the host, a `[` without
  a `]`, a port that is not all digits, a malformed `%` escape in the host or
  one that encodes an ASCII byte (only `%25` may; a zone may also escape a
  space or a byte a host may hold), a character a host may not hold, a
  bracketed host that is not an IPv6 address once decoded (an IPv4 address
  is refused too), then userinfo with a character it may not hold or a
  malformed escape;
* a malformed `%` escape in the path;
* a malformed `%` escape in the fragment.

The query is not checked, and a text with a scheme and no `/` after it is
opaque and not checked further. A fault before the fragment names the URL
without its fragment. A scheme is matched without regard to case and kept in
lower case. A text that ends in its only `?` keeps an empty query.

The user name, password, host, path and fragment are kept decoded. Written
again, each is escaped by the rules of its part, except that a path or fragment
is written as it was read when that text holds only characters its part may
show; a password is shown as `***`, next to the user name unescaped.
-/

namespace Airspace.Http

/-- The user part of an authority, decoded. -/
structure Userinfo where
  name : List UInt8
  password : Option (List UInt8)

/-- A URL split into its parts. -/
structure Url where
  /-- In lower case; empty when the text has none. -/
  scheme : String := ""
  /-- With a scheme and no `/` after it, the rest up to the query. -/
  rootless : String := ""
  user : Option Userinfo := none
  /-- The host with its port, decoded; empty without an authority. -/
  host : List UInt8 := []
  /-- Whether a scheme is followed by a path with no authority. -/
  omitHost : Bool := false
  /-- The path, decoded. -/
  path : List UInt8 := []
  /-- The path as written when escaping `path` gives another text; else empty. -/
  rawPath : String := ""
  /-- Whether the text ends in its only `?`. -/
  forceQuery : Bool := false
  /-- The query as written. -/
  query : String := ""
  /-- The fragment, decoded. -/
  fragment : List UInt8 := []
  /-- The fragment as written when escaping `fragment` gives another text; else empty. -/
  rawFragment : String := ""

/-- Why a text is not a URL. -/
inductive UrlFault where
  /-- A control character stands before the fragment. -/
  | controlCharacter
  /-- The text starts with `:`. -/
  | missingScheme
  /-- A URL without a scheme has a colon in its first path segment. -/
  | colonInFirstSegment
  /-- A bracketed host has no closing bracket. -/
  | missingBracket
  /-- What follows the host is not a colon and digits. -/
  | invalidPort (port : String)
  /-- A host holds a character it may not. -/
  | invalidHostCharacter (c : String)
  /-- The userinfo holds a character it may not. -/
  | invalidUserinfo
  /-- A `%` escape is malformed, or not allowed where it stands: its first three bytes. -/
  | invalidEscape (escape : List UInt8)
  /-- A bracketed host is not an IP address. -/
  | invalidAddress (e : Net.AddrError)
  /-- A bracketed host is an IPv4 address, or a `[` stands inside the host. -/
  | invalidLiteral

/-- The text of a URL fault. -/
def UrlFault.message : UrlFault → String
  | .controlCharacter => "net/url: invalid control character in URL"
  | .missingScheme => "missing protocol scheme"
  | .colonInFirstSegment => "first path segment in URL cannot contain colon"
  | .missingBracket => "missing ']' in host"
  | .invalidPort p => "invalid port " ++ Text.quoteText p ++ " after host"
  | .invalidHostCharacter c => "invalid character " ++ Text.quoteText c ++ " in host name"
  | .invalidUserinfo => "net/url: invalid userinfo"
  | .invalidEscape e => "invalid URL escape " ++ Text.quoteBytes e
  | .invalidAddress e => "invalid host: " ++ e.message
  | .invalidLiteral => "invalid IP-literal"

/-- Why a text is not a URL: the text as the failure names it, and the fault. -/
structure UrlError where
  url : String
  fault : UrlFault

/-- The text of a URL error. -/
def UrlError.message (e : UrlError) : String := "parse " ++ Text.quoteText e.url ++ ": " ++ e.fault.message

/-- Whether a character is a control character. -/
def isControl (c : Char) : Bool := c.toNat < 0x20 || c.toNat == 0x7F

/-- The value of a hexadecimal digit. -/
def hexValue? (c : Char) : Option Nat :=
  if c.isDigit then some (c.toNat - 0x30)
  else if 'a' ≤ c && c ≤ 'f' then some (c.toNat - 0x61 + 10)
  else if 'A' ≤ c && c ≤ 'F' then some (c.toNat - 0x41 + 10)
  else none

/-- Whether a character is a hexadecimal digit. -/
def isHexDigit (c : Char) : Bool := (hexValue? c).isSome

/-- Decodes `%` escapes to bytes, and `+` to a space when `plusIsSpace`; none
when an escape is malformed. -/
def percentDecode (plusIsSpace : Bool) : List Char → Option (List UInt8)
  | [] => some []
  | '%' :: a :: b :: rest =>
    match hexValue? a, hexValue? b with
    | some h, some l => (percentDecode plusIsSpace rest).map ((16 * h + l).toUInt8 :: ·)
    | _, _ => none
  | '%' :: _ => none
  | c :: rest =>
    let bytes := if plusIsSpace && c == '+' then [0x20] else (String.singleton c).toUTF8.toList
    (percentDecode plusIsSpace rest).map fun bs => bytes ++ bs

/-- The bytes of text whose escapes were checked before. -/
def decoded (cs : List Char) : List UInt8 := (percentDecode false cs).getD []

/-- The escape a fault shows: the `%` and at most two bytes after it. -/
def escapeAt (afterPercent : List Char) : UrlFault :=
  .invalidEscape (0x25 :: ((String.ofList (afterPercent.take 2)).toUTF8.data.toList.take 2))

/-- The first `%` escape that is not followed by two hexadecimal digits. -/
def badEscape : List Char → Option UrlFault
  | [] => none
  | '%' :: rest =>
    match rest with
    | a :: b :: more => if isHexDigit a && isHexDigit b then badEscape more else some (escapeAt rest)
    | r => some (escapeAt r)
  | _ :: rest => badEscape rest

/-- Whether a character may stand in a host name. -/
def hostChar (c : Char) : Bool :=
  c.isAlphanum || "-._~!$&'()*+,;=:[]<>".toList.contains c || c == '"' || c.toNat ≥ 0x80

/-- The first fault of a host, or of a zone when `zone`, read left to right: an
escape must be well formed; in a host it must encode a byte above ASCII or be
`%25`, in a zone a space, a byte a host may hold or `%25`; any other character
must be one a host may hold. -/
def hostFault (zone : Bool) : List Char → Option UrlFault
  | [] => none
  | '%' :: rest =>
    match rest with
    | a :: b :: more =>
      match hexValue? a, hexValue? b with
      | some h, some l =>
        let v := 16 * h + l
        let allowed := (a == '2' && b == '5') ||
          (if zone then v == 0x20 || (v < 0x80 && hostChar (Char.ofNat v)) else v ≥ 0x80)
        if allowed then hostFault zone more else some (escapeAt rest)
      | _, _ => some (escapeAt rest)
    | r => some (escapeAt r)
  | c :: rest => if hostChar c then hostFault zone rest else some (.invalidHostCharacter (String.singleton c))

/-- Whether a character may stand in userinfo. -/
def userinfoChar (c : Char) : Bool :=
  c.isAlphanum || "-._:~!$&'()*+,;=%@".toList.contains c

/-- The index of the first occurrence of `pat` in `cs`. -/
def findSub (pat : List Char) : List Char → Option Nat
  | [] => if pat.isEmpty then some 0 else none
  | c :: rest => if pat.isPrefixOf (c :: rest) then some 0 else (findSub pat rest).map (· + 1)

/-- Checks a bracketed host's decoded address: an IPv6 address, possibly with a zone. -/
def checkLiteral (inside : List Char) : Except UrlFault Unit :=
  match Net.parseAddr (decoded inside) with
  | .error e => .error (.invalidAddress e)
  | .ok (.v4 _) => .error .invalidLiteral
  | .ok (.v6 _ _) => .ok ()

/-- Checks `host[:port]`, the host possibly a bracketed literal whose port
follows its last `]`, and gives the host decoded. -/
def readHost (hostPort : List Char) : Except UrlFault (List UInt8) :=
  -- the last `[` must open the host
  if (hostPort.reverse.findIdx? (· == '[')).any (· + 1 < hostPort.length) then .error .invalidLiteral
  else if hostPort.head? == some '[' then
    match hostPort.reverse.findIdx? (· == ']') with
    | none => .error .missingBracket
    | some fromEnd =>
      let close := hostPort.length - fromEnd
      let after := hostPort.drop close
      let portOk := match after with
        | [] => true
        | ':' :: digits => digits.all Char.isDigit
        | _ => false
      if !portOk then .error (.invalidPort (String.ofList after))
      else
        let inside := (hostPort.take (close - 1)).drop 1
        let faults := match findSub ['%', '2', '5'] inside with
          | some z => [(inside.take z, false), (inside.drop z, true)]
          | none => [(inside, false)]
        match faults.findSome? fun (p, zone) => hostFault zone p with
        | some f => .error f
        | none => do
          checkLiteral inside
          return decoded hostPort
  else
    match hostPort.reverse.span (· != ':') with
    | (port, ':' :: _) =>
      if !port.all Char.isDigit then .error (.invalidPort (":" ++ String.ofList port.reverse))
      else match hostFault false hostPort with
        | some f => .error f
        | none => .ok (decoded hostPort)
    | _ =>
      match hostFault false hostPort with
      | some f => .error f
      | none => .ok (decoded hostPort)

/-- Reads an authority: the host and port after the last `@`, then the
userinfo before it, its name and password decoded apart. -/
def readAuthority (authority : List Char) : Except UrlFault (Option Userinfo × List UInt8) := do
  let (userinfo, hostPort) := match authority.reverse.span (· != '@') with
    | (hp, '@' :: ui) => (some ui.reverse, hp.reverse)
    | (hp, _) => (none, hp.reverse)
  let host ← readHost hostPort
  match userinfo with
  | none => return (none, host)
  | some ui =>
    if !ui.all userinfoChar then throw .invalidUserinfo
    let name := ui.takeWhile (· != ':')
    if let some f := badEscape name then throw f
    if name.length == ui.length then return (some ⟨decoded name, none⟩, host)
    let password := ui.drop (name.length + 1)
    if let some f := badEscape password then throw f
    return (some ⟨decoded name, some (decoded password)⟩, host)

/-- The scheme, in lower case, and the rest; an empty scheme when the text does
not start with one. -/
def splitScheme (s : List Char) : Except UrlFault (String × List Char) :=
  match s with
  | ':' :: _ => .error .missingScheme
  | _ =>
    let name := s.takeWhile fun c => c.isAlpha || c.isDigit || c == '+' || c == '-' || c == '.'
    match name, s.drop name.length with
    | c :: _, ':' :: rest => if c.isAlpha then .ok (Text.lower (String.ofList name), rest) else .ok ("", s)
    | _, _ => .ok ("", s)

/-- The parts of a URL whose characters are escaped by different rules. -/
inductive Part where
  | host | path | userinfo | fragment

/-- Whether a byte is written as an escape in a part: letters, digits and
`-._~` never are, bytes above ASCII always are, and each part keeps some of the
other punctuation. -/
def Part.escapes (p : Part) (b : UInt8) : Bool :=
  let c := Char.ofNat b.toNat
  if b ≥ 0x80 then true
  else if c.isAlphanum || "-_.~".contains c then false
  else match p with
    | .host => !"!$&'()*+,;=:[]<>\"".contains c
    | .path => !"$&+,/:;=@".contains c
    | .userinfo => !"$&+,;=".contains c
    | .fragment => !"$&+,/:;=?@!()*".contains c

/-- An upper-case hexadecimal digit. -/
def upperHex (n : Nat) : UInt8 := if n < 10 then (0x30 + n).toUInt8 else (0x41 + n - 10).toUInt8

/-- Bytes written with a part's escapes, `%` and two upper-case hexadecimal digits. -/
def Part.escape (p : Part) (bs : List UInt8) : List UInt8 :=
  bs.flatMap fun b => if p.escapes b then [0x25, upperHex (b.toNat / 16), upperHex (b.toNat % 16)] else [b]

/-- Whether text as written may stand for its part: each byte is `%`, a
sub-delimiter, `:`, `@`, a bracket, or one the part shows unescaped. -/
def Part.keepsWritten (p : Part) (s : String) : Bool :=
  s.toUTF8.toList.all fun b => (b < 0x80 && "!$&'()*+,;=:@[]%".contains (Char.ofNat b.toNat)) || !p.escapes b

/-- The written text to keep for a decoded part: empty when escaping gives it back. -/
def rawText (p : Part) (written : List Char) (value : List UInt8) : String :=
  if p.escape value == (String.ofList written).toUTF8.toList then "" else String.ofList written

/-- A URL with the path `rest` as written. -/
def withPath (u : Url) (rest : List Char) : Except UrlFault Url := do
  if let some f := badEscape rest then throw f
  let path := decoded rest
  return { u with path := path, rawPath := rawText .path rest path }

/-- Reads a URL without its fragment. -/
def readBody (body : List Char) : Except UrlFault Url := do
  if body.any isControl then throw .controlCharacter
  if body == ['*'] then return { path := [0x2A] }
  let (scheme, rest) ← splitScheme body
  let (rest, query, force) :=
    if rest.getLast? == some '?' && rest.count '?' == 1 then (rest.dropLast, [], true)
    else (rest.takeWhile (· != '?'), (rest.dropWhile (· != '?')).drop 1, false)
  let u : Url := { scheme := scheme, query := String.ofList query, forceQuery := force }
  if rest.head? != some '/' then
    if !scheme.isEmpty then return { u with rootless := String.ofList rest }
    if (rest.takeWhile (· != '/')).contains ':' then throw .colonInFirstSegment
  match rest with
  | '/' :: '/' :: after =>
    if !scheme.isEmpty || after.head? != some '/' then
      let authority := after.takeWhile (· != '/')
      let (user, host) ← readAuthority authority
      withPath { u with user := user, host := host } (after.drop authority.length)
    else withPath u rest
  | '/' :: _ => withPath { u with omitHost := !scheme.isEmpty } rest
  | _ => withPath u rest

/-- Reads a URL. The fragment, after the first `#`, is read last: a fault
before it names the URL without the fragment, a bad escape in it the whole
text. -/
def Url.parse (text : String) : Except UrlError Url := do
  let body := text.toList.takeWhile (· != '#')
  let u ← (readBody body).mapError fun f => ⟨String.ofList body, f⟩
  let frag := text.toList.drop (body.length + 1)
  if frag.isEmpty then return u
  match badEscape frag with
  | some f => throw ⟨text, f⟩
  | none =>
    let fragment := decoded frag
    return { u with fragment := fragment, rawFragment := rawText .fragment frag fragment }

/-- The path as written again: as read when that text may stand, else escaped. -/
def Url.escapedPath (u : Url) : List UInt8 :=
  if !u.rawPath.isEmpty && Part.path.keepsWritten u.rawPath then u.rawPath.toUTF8.toList
  else if u.path == [0x2A] then [0x2A]
  else Part.path.escape u.path

/-- The fragment as written again: as read when that text may stand, else escaped. -/
def Url.escapedFragment (u : Url) : List UInt8 :=
  if !u.rawFragment.isEmpty && Part.fragment.keepsWritten u.rawFragment then u.rawFragment.toUTF8.toList
  else Part.fragment.escape u.fragment

/-- The userinfo as requests show it: a password as `***` after the user name
unescaped, else the escaped name. -/
def Userinfo.shown (ui : Userinfo) : List UInt8 :=
  match ui.password with
  | some _ => ui.name ++ ":***".toUTF8.toList
  | none => Part.userinfo.escape ui.name

/-- The URL as requests show it, in bytes. -/
def Url.shownBytes (u : Url) : List UInt8 :=
  let ascii := fun (s : String) => s.toUTF8.toList
  let scheme := if u.scheme.isEmpty then [] else ascii u.scheme ++ ascii ":"
  let query := if u.forceQuery || !u.query.isEmpty then ascii "?" ++ ascii u.query else []
  let fragment := if u.fragment.isEmpty then [] else ascii "#" ++ u.escapedFragment
  if !u.rootless.isEmpty then scheme ++ ascii u.rootless ++ query ++ fragment
  else
    let authority :=
      if u.scheme.isEmpty && u.host.isEmpty && u.user.isNone then []
      else if u.omitHost && u.host.isEmpty && u.user.isNone then []
      else
        (if !u.host.isEmpty || !u.path.isEmpty || u.user.isSome then ascii "//" else []) ++
          (match u.user with
            | some ui => ui.shown ++ ascii "@"
            | none => []) ++
          Part.host.escape u.host
    let path := u.escapedPath
    let slash := if !path.isEmpty && path.head? != some 0x2F && !u.host.isEmpty then ascii "/" else []
    let written := scheme ++ authority ++ slash
    let dot := if written.isEmpty && (path.takeWhile (· != 0x2F)).contains 0x3A then ascii "./" else []
    written ++ dot ++ path ++ query ++ fragment

/-- Whether a byte is an ASCII digit. -/
def isDigitByte (b : UInt8) : Bool := 0x30 ≤ b && b ≤ 0x39

/-- The host without its port and without brackets. -/
def Url.hostname (u : Url) : List UInt8 :=
  let host := match u.host.reverse.span (· != 0x3A) with
    | (port, 0x3A :: before) => if port.all isDigitByte then before.reverse else u.host
    | _ => u.host
  if host.head? == some 0x5B && host.getLast? == some 0x5D then (host.drop 1).dropLast else host

/-- The port written after the host; empty when none is. -/
def Url.port (u : Url) : String :=
  match u.host.reverse.span (· != 0x3A) with
  | (port, 0x3A :: _) => if port.all isDigitByte then Text.toText port.reverse else ""
  | _ => ""

end Airspace.Http
