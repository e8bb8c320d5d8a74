import HttpRpc.Text.Blank
import HttpRpc.Url.Path

/-!
# Reading URLs

`Url.parse` reads an absolute URL as the URL standard of web browsers lays down. Control characters
and spaces at the ends, and tabs and line ends anywhere, are ignored; the text is cut into scheme,
authority, path, query and fragment, and each part is checked and brought into its escaped form.
-/

namespace HttpRpc.Url

open HttpRpc.Text

/-- The text without control characters and spaces at its ends. -/
def trimmed (text : List Char) : List Char :=
  trimMatches (fun c => c.toNat ≤ 0x20) text

/-- The scheme in small letters and the text behind its colon. -/
def splitScheme? (text : List Char) : Option (String × List Char) :=
  match splitOnce ':' text with
  | none => none
  | some (scheme, rest) =>
    let scheme := kept scheme
    let allowed (c : Char) := isAlphanumeric c || c == '+' || c == '-' || c == '.'
    if (scheme.head?.any isLetter) && scheme.all allowed then
      some (String.ofList (scheme.map Char.toLower), rest)
    else none

/-- Whether the character is a slash; in special schemes a backslash is one. -/
def isSlash (special : Bool) (c : Char) : Bool :=
  c == '/' || (special && c == '\\')

/-- The text behind a slash, if one comes first. -/
def behindSlash? (special : Bool) (text : List Char) : Option (List Char) :=
  match text.dropWhile isIgnored with
  | [] => none
  | c :: rest => if isSlash special c then some rest else none

/-- The text before the last `@` and the text after it. -/
def splitUserinfo? (authority : List Char) : Option (List Char × List Char) :=
  (splitOnce '@' authority.reverse).map fun (after, before) => (before.reverse, after.reverse)

/-- The escaped form of a user name and a password behind the first colon. An empty password leaves
no colon. -/
def userinfoText (text : List Char) : String :=
  let escape (part : List Char) := Percent.encode Percent.inUserinfo part
  match splitOnce ':' text with
  | none => String.ofList (escape text)
  | some (user, password) =>
    String.ofList (escape user ++ (if password.isEmpty then [] else ':' :: escape password))

/-- The host part of a text, up to the first colon outside brackets, and the rest. -/
def splitHost (inBrackets : Bool) : List Char → List Char × List Char
  | [] => ([], [])
  | c :: rest =>
    if c = ':' ∧ !inBrackets then ([], c :: rest)
    else
      let (host, after) :=
        splitHost (if c = '[' then true else if c = ']' then false else inBrackets) rest
      (c :: host, after)

/-- The port that digits state, where the default port of the scheme and no digits state none, and
the text behind the digits, which a backslash may start. -/
def parsePort (scheme : String) (text : List Char) :
    Except ParseError (Option Nat × List Char) :=
  let digits := text.takeWhile isDigit
  let rest := text.dropWhile isDigit
  if !rest.isEmpty && rest.head? != some '\\' then .error .invalidPort
  else match value? 10 digits with
    | none => .ok (none, rest)
    | some port =>
      if 65535 < port then .error .invalidPort
      else .ok (if defaultPort? scheme = some port then none else some port, rest)

/-- The parts of an authority, and the text behind its port, which belongs to the path. -/
structure Authority where
  userinfo : String
  host : Host
  port : Option Nat
  behind : List Char

/-- The authority that a text states, where a user, a password or a port needs a host, and so does a
sign `@` alone unless it ends the URL. -/
def parseAuthority (scheme : String) (final : Bool) (text : List Char) :
    Except ParseError Authority := do
  let special := isSpecialScheme scheme
  let (userinfo, server) := match splitUserinfo? text with
    | some (user, server) => (userinfoText user, server)
    | none => ("", text)
  if text = ['@'] && !final then throw .emptyHost
  let (hostText, behind) := splitHost false server
  if hostText.isEmpty && (special || !behind.isEmpty || !userinfo.isEmpty) then throw .emptyHost
  let host ← Host.parse special hostText
  let (port, behind) ← parsePort scheme (behind.drop 1)
  return ⟨userinfo, host, port, behind⟩

/-- The segments of a path behind its first slash. -/
def pathSegments (special : Bool) (text : List Char) : List (List Char) :=
  splitOn '/' (text.map fun c => if isSlash special c then '/' else c)

/-- The segments of a path behind a host, which is empty only in schemes that are not special. -/
def pathBehindHost (special : Bool) (text : List Char) : List (List Char) :=
  if text.isEmpty && !special then []
  else pathSegments special ((behindSlash? special text).getD text)

/-- What stands between the scheme and the query of a URL. -/
structure Hierarchy where
  userinfo : String
  host : Option Host
  port : Option Nat
  path : UrlPath

/-- The file that a text names: one on the server between two slashes and the next, unless that is
empty, this machine, or a drive letter, or the path starts with a drive letter. The path behind an
empty server starts with an empty segment. -/
def parseFile (text : List Char) : Except ParseError Hierarchy :=
  let trail (segments : List (List Char)) := resolve true segments
  let onServer (host : Host) (path : Trail) : Hierarchy :=
    ⟨"", some (if path.onDrive then .name "" else host), none, .segments path.segments⟩
  match behindSlash? true text with
  | none => .ok (onServer (.name "") (trail (pathSegments true text)))
  | some one =>
    match behindSlash? true one with
    | none => .ok (onServer (.name "") (trail (pathSegments true one)))
    | some two =>
      let (before, path) := two.span fun c => !isSlash true c
      let server := kept before
      if (drive? server).isSome then .ok (onServer (.name "") (trail (pathSegments true two)))
      else do
        let host ← if server.isEmpty then pure (Host.name "") else Host.parse true server
        if host = .name "" ∨ host = .name "localhost" then
          return onServer (.name "") (trail (pathSegments true path))
        return onServer host (trail (pathBehindHost true path))

/-- What a text between a scheme and a query states, where `final` says that nothing follows it. -/
def parseHierarchy (scheme : String) (final : Bool) (text : List Char) :
    Except ParseError Hierarchy := do
  let special := isSpecialScheme scheme
  let onServer (text : List Char) : Except ParseError Hierarchy := do
    let (server, path) := text.span fun c => !isSlash special c
    let authority ← parseAuthority scheme (final && path.isEmpty) (kept server)
    let trail := resolve false (pathBehindHost special (authority.behind ++ path))
    return ⟨authority.userinfo, some authority.host, authority.port, .segments trail.segments⟩
  if scheme = "file" then parseFile text
  else if special then onServer (text.dropWhile fun c => isSlash true c || isIgnored c)
  else match behindSlash? false text with
    | none =>
      let path := Percent.encode Percent.isControl (kept text)
      return ⟨"", none, none, .rootless (String.ofList path)⟩
    | some one =>
      match behindSlash? false one with
      | none =>
        let trail := resolve false (pathSegments false one)
        return ⟨"", none, none, .segments trail.segments⟩
      | some two => onServer two

/-- Whether the path starts with two slashes. -/
def startsDouble (path : UrlPath) : Bool :=
  match path with
  | .segments ("" :: _ :: _) => true
  | _ => false

/-- Reads an absolute URL. -/
def parse (text : String) : Except ParseError Url :=
  match splitScheme? (trimmed text.toList) with
  | none => .error .relativeWithoutBase
  | some (scheme, rest) => do
    let (before, fragment) := match splitOnce '#' rest with
      | some (before, fragment) => (before, some fragment)
      | none => (rest, none)
    let (before, query) := match splitOnce '?' before with
      | some (before, query) => (before, some query)
      | none => (before, none)
    let ⟨userinfo, host, port, path⟩ ←
      parseHierarchy scheme (query.isNone && fragment.isNone) before
    let escape (set : Char → Bool) (part : List Char) :=
      String.ofList (Percent.encode set (kept part))
    return {
      scheme, userinfo, host, port, path
      marked := host.isNone && startsDouble path
      query := query.map (escape (Percent.inQuery (isSpecialScheme scheme)))
      fragment := fragment.map (escape Percent.inFragment) }

end HttpRpc.Url
