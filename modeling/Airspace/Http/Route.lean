import Airspace.Http.Url

/-!
# Request targets as a server routes them

A request target is a path and, after the first `?`, a query; a fragment,
after the first `#`, never reaches the server. Both the path and the query's
keys and values are written with `%` escapes, and in the query a `+` also
stands for a space.

The server routes on the decoded path with its dot segments removed: empty and
`.` segments are dropped, and `..` drops the segment before it (none above the
root). A path that ends with a slash keeps it. A request whose path is not
already in that form is redirected to the cleaned path with the same query, and
the client follows the redirect, so the answer is the one for the cleaned path.
-/

namespace Airspace.Http

/-- Adds a segment to the segments kept so far, the newest first. -/
def pushSegment (kept : List String) (segment : String) : List String :=
  if segment.isEmpty || segment == "." then kept
  else if segment == ".." then kept.drop 1
  else segment :: kept

/-- A path rooted at `/`, without dot segments, keeping a final slash. -/
def cleanPath (path : String) : String :=
  let rooted := if path.startsWith "/" then path else "/" ++ path
  let kept := ((rooted.splitOn "/").foldl pushSegment []).reverse
  let base := "/" ++ "/".intercalate kept
  if rooted.endsWith "/" && base != "/" then base ++ "/" else base

/-- The path and the raw query of a request target. -/
def splitTarget (target : String) : String × String :=
  let beforeFragment := String.ofList (target.toList.takeWhile (· != '#'))
  match beforeFragment.splitOn "?" with
  | p :: rest => (p, "?".intercalate rest)
  | [] => ("", "")

/-- The path a request is answered for: decoded and cleaned. -/
def routedPath (path : String) : String :=
  match percentDecode false path.toList with
  | some bytes => cleanPath (Text.toText bytes)
  | none => cleanPath path

/-- The first value of a key in a raw query; pairs with a semicolon or a
malformed escape are skipped, and a missing key reads as empty. -/
def queryValue (query key : String) : String :=
  let pairs := (query.splitOn "&").filter fun p => !p.isEmpty && !p.contains ';'
  let found := pairs.findSome? fun p =>
    let (k, v) := match p.splitOn "=" with
      | k :: rest => (k, "=".intercalate rest)
      | [] => ("", "")
    match percentDecode true k.toList, percentDecode true v.toList with
    | some k, some v => if Text.toText k == key then some (Text.toText v) else none
    | _, _ => none
  found.getD ""

end Airspace.Http
