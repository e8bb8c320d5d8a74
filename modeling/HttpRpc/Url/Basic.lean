import HttpRpc.Url.Form
import HttpRpc.Url.Host

/-!
# URLs

A URL has a scheme, perhaps a host with what stands around it, a path, and perhaps a query and a
fragment. A path is a list of segments, each behind a slash; a path without a slash at its start is
rootless, and has no segments to work with. All texts are in their escaped form.
-/

namespace HttpRpc

/-- The path of a URL: segments, each behind a slash, or a text that does not start with one. -/
inductive UrlPath where
  | segments (list : List String)
  | rootless (text : String)
deriving DecidableEq, Repr

/-- A parsed URL. -/
structure Url where
  scheme : String
  userinfo : String
  host : Option Url.Host
  port : Option Nat
  /-- Whether `/.` stands before the path, which tells a path that starts with two slashes from a
  host. -/
  marked : Bool
  path : UrlPath
  query : Option String
  fragment : Option String
deriving DecidableEq, Repr

namespace Url

/-- Whether browsers know the scheme, which makes a backslash a slash and the host a domain. -/
def isSpecialScheme (scheme : String) : Bool :=
  ["http", "https", "ws", "wss", "ftp", "file"].contains scheme

/-- The port that a scheme uses if none is given. -/
def defaultPort? (scheme : String) : Option Nat :=
  if scheme = "http" ∨ scheme = "ws" then some 80
  else if scheme = "https" ∨ scheme = "wss" then some 443
  else if scheme = "ftp" then some 21
  else none

/-- Whether the scheme of the URL is one that browsers know. -/
def isSpecial (url : Url) : Bool :=
  isSpecialScheme url.scheme

/-- The text of the host, if there is one and it is not empty. -/
def hostText? (url : Url) : Option String :=
  match url.host with
  | none => none
  | some (.name "") => none
  | some host => some host.render

/-- The port given, or else that of the scheme. -/
def effectivePort? (url : Url) : Option Nat :=
  url.port <|> defaultPort? url.scheme

/-- The text of a path. -/
def renderPath : UrlPath → String
  | .segments list => String.join (list.map ("/" ++ ·))
  | .rootless text => text

/-- The text between the scheme and the path: the host with user and port around it, or the mark in
front of the path. -/
def renderAuthority (url : Url) : String :=
  match url.host with
  | some host =>
    "//" ++ (if url.userinfo.isEmpty then "" else url.userinfo ++ "@") ++ host.render ++
      (match url.port with
        | some port => ":" ++ Text.decimal port
        | none => "")
  | none => if url.marked then "/." else ""

/-- The text of a URL. -/
def render (url : Url) : String :=
  url.scheme ++ ":" ++ url.renderAuthority ++ renderPath url.path ++
    (match url.query with
      | some query => "?" ++ query
      | none => "") ++
    (match url.fragment with
      | some fragment => "#" ++ fragment
      | none => "")

/-- The URL with pairs in form encoding appended to its query. -/
def appendPairs (url : Url) (pairs : List (String × String)) : Url :=
  let added := String.ofList (Form.encodePairs pairs)
  match url.query with
  | some query =>
    { url with query := some (if query.isEmpty then added else query ++ "&" ++ added) }
  | none => { url with query := some added }

end Url

end HttpRpc
