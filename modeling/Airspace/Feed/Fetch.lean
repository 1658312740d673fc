import Airspace.Feed.StateVector
import Airspace.Http.Status
import Airspace.Http.Url
import Airspace.Net.Ip
import Airspace.Time.Instant

/-!
# Fetching state vectors

The feed client asks the state-vector service for every aircraft in its box
and reads the answer into samples. It waits at most a minute.

An answer other than `200 OK` is refused with its status. The body's first
JSON value is read as the response; what follows it is ignored. An empty body
is refused as `EOF`, one that ends inside the value as `unexpected EOF`.

A request that cannot be made fails before any answer: a URL that does not
read, a scheme other than `http` and `https`, a URL without a host, a port
above 65535, a host name that does not resolve, or a server that refuses the
connection. No name resolves: a host that is not an IP address fails its
lookup once the port has been checked. The failure shows the URL as it is
written again, its password hidden. The connection goes to the IP address in
its canonical form (or to no host at all when the URL names none before its
port), and the port (80 or 443 by default) as a number.
-/

namespace Airspace.Feed

open Airspace.Json Airspace.Http Airspace.Time Airspace.Telemetry

/-- The service asked when no URL is configured. -/
def defaultUrl : String :=
  "https://opensky-network.org/api/states/all?lamin=24.5&lamax=49.5&lomin=-125&lomax=-66.5"

/-- How long a fetch may take. -/
def fetchTimeout : Duration := 60000000000

/-- The URL a client uses: the configured one, or the default when empty. -/
def clientUrl (configured : String) : String := if configured.isEmpty then defaultUrl else configured

/-- Why a fetch gave no samples. -/
inductive FetchError where
  /-- The service answered with another status than 200. -/
  | unexpectedStatus (code : Nat)
  /-- The body held no complete value. -/
  | unreadable (f : StreamFault)
  /-- The body's value is not a response. -/
  | mismatch (m : TypeMismatch)
  /-- The URL does not read. -/
  | badUrl (e : UrlError)
  /-- The URL's scheme cannot be requested. -/
  | unsupportedScheme (url : List UInt8) (scheme : String)
  /-- The URL names no host. -/
  | noHost (url : List UInt8)
  /-- The port is no port number. -/
  | invalidPort (url : List UInt8) (port : String)
  /-- The host is a name that does not resolve. -/
  | unresolved (url : List UInt8) (host : String)
  /-- Nothing accepted the connection. -/
  | refused (url : List UInt8) (address : String)

/-- The text of a fetch error. -/
def FetchError.message : FetchError → String
  | .unexpectedStatus code => "opensky: unexpected status " ++ statusLine code
  | .unreadable f => "opensky: decode: " ++ f.message
  | .mismatch m => "opensky: decode: " ++ m.message
  | .badUrl e => e.message
  | .unsupportedScheme url scheme =>
    "Get " ++ Text.quoteBytes url ++ ": unsupported protocol scheme " ++ Text.quoteText scheme
  | .noHost url => "Get " ++ Text.quoteBytes url ++ ": http: no Host in request URL"
  | .invalidPort url port => "Get " ++ Text.quoteBytes url ++ ": dial tcp: address " ++ port ++ ": invalid port"
  | .unresolved url host => "Get " ++ Text.quoteBytes url ++ ": dial tcp: lookup " ++ host ++ ": no such host"
  | .refused url address => "Get " ++ Text.quoteBytes url ++ ": dial tcp " ++ address ++ ": connect: connection refused"

/-- The service's answer. -/
structure Reply where
  status : Nat
  body : List UInt8

/-- The samples of an answer. -/
def Reply.samples (r : Reply) : Except FetchError (List Sample) := do
  let status := finalStatus r.status
  if status != 200 then throw (.unexpectedStatus status)
  let v ← (readFirst r.body).mapError FetchError.unreadable
  match (Response.read v).run' with
  | .ok resp => return resp.samples
  | .error (.mismatch m) => throw (.mismatch m)
  | .error (.malformed e) => throw (.unreadable (.malformed e))
  | .error (.refused e) => nomatch e

/-- How a request to a URL fails when no server listens anywhere. -/
def unanswered (url : String) : FetchError :=
  match Url.parse url with
  | .error e => .badUrl e
  | .ok u =>
    let shown := u.shownBytes
    if u.scheme != "http" && u.scheme != "https" then .unsupportedScheme shown u.scheme
    else if u.host.isEmpty then .noHost shown
    else
      let port := if !u.port.isEmpty then u.port else if u.scheme == "https" then "443" else "80"
      let number := port.foldl (fun acc c => 10 * acc + (c.toNat - 0x30)) 0
      if number > 65535 then .invalidPort shown port
      else
        let name := Text.toText u.hostname
        match Net.IpAddress.read name with
        | some a => .refused shown (Net.joinHostPort a.text (toString number))
        | none =>
          if name.isEmpty then .refused shown (Net.joinHostPort name (toString number))
          else .unresolved shown name

end Airspace.Feed
