import HttpRpc.Url.Label
import HttpRpc.Url.Percent

/-!
# Hosts

A host is a name, an IPv4 address or an IPv6 address. In the schemes that browsers know, a name is
unescaped and spelled in ASCII, may not hold certain characters, and is an IPv4 address if its last
label is a number; elsewhere a name is kept as it is.
-/

namespace HttpRpc.Url

open HttpRpc.Text

/-- Why a text is no URL. -/
inductive ParseError where
  | relativeWithoutBase
  | emptyHost
  | invalidPort
  | invalidIpv4
  | invalidIpv6
  | invalidDomainName
  | invalidDomainCharacter
deriving DecidableEq, Repr

/-- The wording of an error. -/
def ParseError.message : ParseError → String
  | .relativeWithoutBase => "relative URL without a base"
  | .emptyHost => "empty host"
  | .invalidPort => "invalid port number"
  | .invalidIpv4 => "invalid IPv4 address"
  | .invalidIpv6 => "invalid IPv6 address"
  | .invalidDomainName => "invalid international domain name"
  | .invalidDomainCharacter => "invalid domain character"

/-- The server that a URL names. An IPv6 address is a list of eight 16-bit pieces. -/
inductive Host where
  | name (text : String)
  | ipv4 (address : Nat)
  | ipv6 (pieces : List Nat)
deriving DecidableEq, Repr

namespace Host

/-! ## IPv4 -/

/-- A number as a label of an IPv4 address states it: decimal, octal behind `0`, hexadecimal behind
`0x`. -/
def ipv4Number? : List Char → Option Nat
  | [] => none
  | '0' :: 'x' :: rest => if rest.isEmpty then some 0 else value? 16 rest
  | '0' :: 'X' :: rest => if rest.isEmpty then some 0 else value? 16 rest
  | ['0'] => some 0
  | '0' :: rest => value? 8 rest
  | text => value? 10 text

/-- The labels of a name without the empty one behind a final point. -/
def labels (name : List Char) : List (List Char) :=
  let parts := splitOn '.' name
  if parts.getLast? == some [] then parts.dropLast else parts

/-- Whether the last label of a name is a number. -/
def endsInNumber (name : List Char) : Bool :=
  match (labels name).getLast? with
  | none => false
  | some last => (!last.isEmpty && last.all isDigit) || (ipv4Number? last).isSome

/-- The address that labels state: all but the last are octets, and the last fills what is left. -/
def ipv4Address? (name : List Char) : Option Nat := do
  let parts := labels name
  if 4 < parts.length then none
  let numbers ← parts.mapM ipv4Number?
  let last ← numbers.getLast?
  let octets := numbers.dropLast
  if octets.any (255 < ·) || Nat.pow 256 (4 - octets.length) ≤ last then none
  let places := octets.zipIdx.map fun (octet, i) => octet * Nat.pow 256 (3 - i)
  some (places.foldl (· + ·) last)

/-- The four octets of an address between points. -/
def renderIpv4 (address : Nat) : String :=
  String.intercalate "."
    ([address / 0x1000000, address / 0x10000 % 256, address / 0x100 % 256, address % 256].map
      decimal)

/-! ## IPv6 -/

/-- The number of a piece: one to four hexadecimal digits. -/
def piece? (text : List Char) : Option Nat :=
  if text.length ≤ 4 then value? 16 text else none

/-- The two pieces of an IPv4 address written as four decimal octets without leading zeros. -/
def embedded? (text : List Char) : Option (List Nat) := do
  let parts := splitOn '.' text
  if parts.length != 4 then none
  let octets ← parts.mapM fun part => do
    let n ← value? 10 part
    if 255 < n || (part.head? == some '0' && part.length != 1) then none else some n
  match octets with
  | [a, b, c, d] => some [a * 256 + b, c * 256 + d]
  | _ => none

/-- The pieces of a run of groups between colons, the last of which may be an embedded IPv4
address. -/
def pieces? : List (List Char) → Option (List Nat)
  | [] => some []
  | [last] => if last.contains '.' then embedded? last else (piece? last).map fun n => [n]
  | part :: rest => do
    let n ← piece? part
    let more ← pieces? rest
    some (n :: more)

/-- The text before a double colon and the text after it. -/
def splitDoubleColon : List Char → Option (List Char × List Char)
  | ':' :: ':' :: rest => some ([], rest)
  | c :: rest => (splitDoubleColon rest).map fun (before, after) => (c :: before, after)
  | [] => none

/-- The pieces of a text that is empty or a run of groups. -/
def run? (text : List Char) : Option (List Nat) :=
  if text.isEmpty then some [] else pieces? (splitOn ':' text)

/-- The eight pieces of an address. One double colon stands for the zero pieces left out. -/
def ipv6Pieces? (text : List Char) : Option (List Nat) :=
  match splitDoubleColon text with
  | none => (run? text).bind fun all => if all.length = 8 then some all else none
  | some (before, after) => do
    if before.contains '.' then none
    let high ← run? before
    let low ← run? after
    if 7 < high.length + low.length then none
    some (high ++ List.replicate (8 - high.length - low.length) 0 ++ low)

/-- The length of the run of zero pieces at the start. -/
def zeroRun (pieces : List Nat) : Nat :=
  (pieces.takeWhile (· == 0)).length

/-- The start and length of the first longest run of zero pieces from a position on. -/
def longestRun (start : Nat) : List Nat → Nat × Nat
  | [] => (start, 0)
  | piece :: rest =>
    let here := zeroRun (piece :: rest)
    let (later, length) := longestRun (start + 1) rest
    if here < length then (later, length) else (start, here)

/-- The pieces in hexadecimal between colons. -/
def renderPieces (pieces : List Nat) : String :=
  String.intercalate ":" (pieces.map hexadecimal)

/-- The pieces between colons, with the first longest run of two or more zeros left out. -/
def renderIpv6 (pieces : List Nat) : String :=
  let (start, length) := longestRun 0 pieces
  if length < 2 then renderPieces pieces
  else renderPieces (pieces.take start) ++ "::" ++ renderPieces (pieces.drop (start + length))

/-! ## Names -/

/-- Whether the character may not occur in a domain name. -/
def isForbiddenInDomain (c : Char) : Bool :=
  c.toNat ≤ 0x20 || c.toNat == 0x7F ||
    ['%', '#', '/', ':', '<', '>', '?', '@', '[', '\\', ']', '^', '|'].contains c

/-- Whether the character may not occur in a host name of a scheme that browsers do not know. -/
def isForbiddenInHost (c : Char) : Bool :=
  ['\x00', '\t', '\n', '\r', ' ', '#', '/', ':', '<', '>', '?', '@', '[', '\\', ']', '^',
    '|'].contains c

/-- The host that a text names in a scheme that browsers know. -/
def parseDomain (text : List Char) : Except ParseError Host :=
  match (Utf8.decode? (Percent.decode text)).bind Label.domain? with
  | none => .error .invalidDomainName
  | some domain =>
    if domain.any isForbiddenInDomain then .error .invalidDomainName
    else if domain.isEmpty then .error .emptyHost
    else if endsInNumber domain then
      match ipv4Address? domain with
      | some address => .ok (.ipv4 address)
      | none => .error .invalidIpv4
    else .ok (.name (String.ofList domain))

/-- The host that a text names. -/
def parse (special : Bool) (text : List Char) : Except ParseError Host :=
  match text with
  | '[' :: rest =>
    if text.getLast? == some ']' then
      match ipv6Pieces? rest.dropLast with
      | some pieces => .ok (.ipv6 pieces)
      | none => .error .invalidIpv6
    else .error .invalidIpv6
  | _ =>
    if special then parseDomain text
    else if text.any isForbiddenInHost then .error .invalidDomainCharacter
    else .ok (.name (String.ofList (Percent.encode Percent.isControl text)))

/-- The text of a host. -/
def render : Host → String
  | .name text => text
  | .ipv4 address => renderIpv4 address
  | .ipv6 pieces => "[" ++ renderIpv6 pieces ++ "]"

end Host

end HttpRpc.Url
