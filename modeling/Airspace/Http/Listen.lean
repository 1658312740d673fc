import Airspace.Decimal.Read

/-!
# Listening addresses

A server listens on `host:port`. The port follows the last colon; a host with
a colon of its own must be bracketed, as in `[::1]:80`. The port is a decimal
number from 0 to 65535 (an empty port is 0) or one of a few well-known service
names. An address that breaks these rules cannot be listened on:

* `listen tcp: address A: missing port in address`,
* `listen tcp: address A: too many colons in address`,
* `listen tcp: address P: invalid port` for a number out of range,
* `listen tcp: lookup tcp/P: unknown port` for an unknown service name.
-/

namespace Airspace.Http

/-- The well-known service names and their ports. -/
def servicePorts : List (String × Nat) :=
  [("ftp", 21), ("ftps", 990), ("gopher", 70), ("http", 80), ("https", 443), ("imap2", 143), ("imap3", 220),
   ("imaps", 993), ("pop3", 110), ("pop3s", 995), ("smtp", 25), ("submissions", 465), ("ssh", 22),
   ("telnet", 23)]

/-- Splits an address into host and port, or says why it cannot be. -/
def splitHostPort (address : String) : Except String (String × String) :=
  let cs := address.toList
  let missingPort := "missing port in address"
  let tooManyColons := "too many colons in address"
  match cs.reverse.findIdx? (· == ':') with
  | none => .error missingPort
  | some fromEnd =>
    let i := cs.length - 1 - fromEnd
    let port := String.ofList (cs.drop (i + 1))
    if cs.head? == some '[' then
      match cs.findIdx? (· == ']') with
      | none => .error "missing ']' in address"
      | some close =>
        if close + 1 == cs.length then .error missingPort
        else if close + 1 != i then
          if cs.getD (close + 1) ' ' == ':' then .error tooManyColons else .error missingPort
        else
          let host := cs.drop 1 |>.take (close - 1)
          if (cs.drop 1).contains '[' then .error "unexpected '[' in address"
          else if (cs.drop (close + 1)).contains ']' then .error "unexpected ']' in address"
          else .ok (String.ofList host, port)
    else
      let host := cs.take i
      if host.contains ':' then .error tooManyColons
      else if cs.contains '[' then .error "unexpected '[' in address"
      else if cs.contains ']' then .error "unexpected ']' in address"
      else .ok (String.ofList host, port)

/-- The port a service text names: a signed decimal number, or a service name. -/
def portOf (service : String) : Except String Int :=
  let (negative, ds) := match service.toList with
    | '+' :: r => (false, r)
    | '-' :: r => (true, r)
    | r => (false, r)
  if service.isEmpty then .ok 0
  else if ds.all Char.isDigit then
    let n : Int := Decimal.digitsValue ds
    let n := if negative then -n else n
    if n < 0 || n > 65535 then .error ("address " ++ service ++ ": invalid port") else .ok n
  else match servicePorts.lookup service with
    | some p => .ok p
    | none => .error ("lookup tcp/" ++ service ++ ": unknown port")

/-- Why a server cannot listen on an address; none when it can. -/
def listenError (address : String) : Option String :=
  match splitHostPort address with
  | .error why => some ("listen tcp: address " ++ address ++ ": " ++ why)
  | .ok (_, port) =>
    match portOf port with
    | .error why => some ("listen tcp: " ++ why)
    | .ok _ => none

end Airspace.Http
