import HttpRpc.Text.Digits
import HttpRpc.Text.Split
import HttpRpc.Text.Utf8

/-!
# Request targets

The target of a request is a path with a query, or an absolute URL, or a server alone. Reading one
checks every octet and cuts off a fragment; only the path and the query matter afterwards.
-/

namespace HttpRpc

open HttpRpc.Text

/-- Why a text is no request target. -/
inductive TargetError where
  | invalidCharacter
  | invalidAuthority
  | invalidFormat
  | tooLong
  | empty
  | schemeTooLong
deriving DecidableEq, Repr

/-- The wording of an error. -/
def TargetError.message : TargetError → String
  | invalidCharacter => "invalid uri character"
  | invalidAuthority => "invalid authority"
  | invalidFormat => "invalid format"
  | tooLong => "uri too long"
  | empty => "empty string"
  | schemeTooLong => "scheme too long"

/-- The path of a request and its query. -/
structure Target where
  path : String
  query : Option String
deriving DecidableEq, Repr

namespace Target

/-- The greatest number of octets of a target. -/
def maxLength : Nat := 65534

/-- The greatest number of characters of a scheme. -/
def maxSchemeLength : Nat := 64

/-! ## Schemes -/

/-- Whether the character may occur in a scheme. -/
def isSchemeChar (c : Char) : Bool :=
  isAlphanumeric c || ['+', '-', '.', '~'].contains c

/-- The rest behind the scheme and the two slashes that follow it: none if there is no scheme. -/
def afterScheme? (text : List Char) : Except TargetError (Option (List Char)) :=
  let (scheme, rest) := text.span isSchemeChar
  match rest with
  | ':' :: '/' :: '/' :: behind =>
    if maxSchemeLength < scheme.length then .error .schemeTooLong else .ok (some behind)
  | _ => .ok none

/-! ## Servers -/

/-- Whether the character may occur in a server with user and port, escapes aside. -/
def isServerChar (c : Char) : Bool :=
  isAlphanumeric c ||
    ['!', '$', '&', '\x27', '(', ')', '*', '+', ',', '-', '.', ':', ';', '=', '@', '[', ']', '_',
      '~'].contains c

/-- What has been seen of a server so far: colons and escapes that are in neither a user name nor an
address in brackets, and brackets. -/
structure Seen where
  colons : Nat
  opened : Bool
  closed : Bool
  escaped : Bool

/-- What has been seen after one more character. -/
def Seen.next (seen : Seen) (c : Char) : Except TargetError Seen :=
  if c = ':' then
    if 8 ≤ seen.colons then .error .invalidAuthority
    else .ok { seen with colons := seen.colons + 1 }
  else if c = '[' then
    if seen.escaped || seen.opened then .error .invalidAuthority
    else .ok { seen with opened := true }
  else if c = ']' then
    if !seen.opened || seen.closed then .error .invalidAuthority
    else .ok { seen with closed := true, colons := 0, escaped := false }
  else if c = '@' then .ok { seen with colons := 0, escaped := false }
  else if c = '%' then .ok { seen with escaped := true }
  else if isServerChar c then .ok seen
  else .error .invalidCharacter

/-- Checks a server: brackets come in a pair, one colon stands before the port, a user name has a
host behind it, and a host has no escapes. -/
def checkServer (server : List Char) : Except TargetError Unit := do
  let seen ← server.foldlM Seen.next ⟨0, false, false, false⟩
  if seen.opened != seen.closed then throw .invalidAuthority
  if 1 < seen.colons then throw .invalidAuthority
  if server.getLast? = some '@' then throw .invalidAuthority
  if seen.escaped then throw .invalidAuthority

/-- Whether the character ends a server. -/
def endsServer (c : Char) : Bool :=
  c == '/' || c == '?' || c == '#'

/-! ## Paths and queries -/

/-- Whether the character may occur in a path. -/
def isPathChar (c : Char) : Bool :=
  0x21 ≤ c.toNat && !(['#', '<', '>', '?', '\x60', '\x7F'].contains c)

/-- Whether the character may occur in a query. -/
def isQueryChar (c : Char) : Bool :=
  0x21 ≤ c.toNat && !(['"', '#', '<', '>', '\x7F'].contains c)

/-- The path and the query of a text, whose fragment is cut off. -/
def ofPathAndQuery (text : List Char) : Except TargetError Target :=
  let (path, rest) := text.span fun c => c != '?' && c != '#'
  if !path.all isPathChar then .error .invalidCharacter
  else match rest with
    | '?' :: behind =>
      let query := behind.takeWhile (· != '#')
      if query.all isQueryChar then .ok ⟨String.ofList path, some (String.ofList query)⟩
      else .error .invalidCharacter
    | _ => .ok ⟨String.ofList path, none⟩

/-- Reads the target of a request. -/
def parse (text : String) : Except TargetError Target := do
  let chars := text.toList
  if maxLength < (Utf8.encode chars).length then throw .tooLong
  match chars with
  | [] => throw .empty
  | ['*'] => return ⟨"*", none⟩
  | '/' :: _ => ofPathAndQuery chars
  | [c] =>
    checkServer ([c].takeWhile fun c => !endsServer c)
    if endsServer c then throw .invalidCharacter
    return ⟨"", none⟩
  | _ =>
    match ← afterScheme? chars with
    | none =>
      let (server, rest) := chars.span fun c => !endsServer c
      checkServer server
      if rest.isEmpty then return ⟨"", none⟩ else throw .invalidFormat
    | some behind =>
      let (server, rest) := behind.span fun c => !endsServer c
      checkServer server
      if server.isEmpty then throw .invalidFormat
      ofPathAndQuery rest

end Target

end HttpRpc
