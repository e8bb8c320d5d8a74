import HttpRpc.Text.Digits
import HttpRpc.Text.Utf8

/-!
# Percent encoding

An escaped octet is a percent sign and two hexadecimal digits. `encode` escapes the ASCII characters
of a set and the octets of every other character; `decode` puts octets back in place of escapes and
leaves a percent sign alone that no two digits follow.
-/

namespace HttpRpc.Url.Percent

open HttpRpc.Text

/-- An escaped octet. -/
def escapeOctet (octet : UInt8) : List Char :=
  '%' :: octetHex octet

/-- A character as it is, or the escapes of its octets if it is in the set or not ASCII. -/
def encodeChar (escaped : Char → Bool) (c : Char) : List Char :=
  if c.toNat < 0x80 && !escaped c then [c]
  else (String.utf8EncodeChar c).flatMap escapeOctet

/-- The text with the characters of the set and all characters beyond ASCII escaped. -/
def encode (escaped : Char → Bool) (text : List Char) : List Char :=
  text.flatMap (encodeChar escaped)

/-- The octets of a text with escapes resolved. -/
def decode : List Char → List UInt8
  | [] => []
  | '%' :: a :: b :: rest =>
    if isHexDigit a && isHexDigit b then
      UInt8.ofNat ((digitValue? a).getD 0 * 16 + (digitValue? b).getD 0) :: decode rest
    else String.utf8EncodeChar '%' ++ decode (a :: b :: rest)
  | c :: rest => String.utf8EncodeChar c ++ decode rest

/-- The control characters of ASCII. -/
def isControl (c : Char) : Bool :=
  c.toNat < 0x20 || c.toNat == 0x7F

/-- The characters escaped in a fragment. -/
def inFragment (c : Char) : Bool :=
  isControl c || [' ', '"', '<', '>', '\x60'].contains c

/-- The characters escaped in a path. -/
def inPath (c : Char) : Bool :=
  inFragment c || ['#', '?', '\x7b', '\x7d'].contains c

/-- The characters escaped in a user name or password. -/
def inUserinfo (c : Char) : Bool :=
  inPath c || ['/', ':', ';', '=', '@', '[', '\\', ']', '^', '|'].contains c

/-- The characters escaped in a single path segment, where neither a slash nor an escape may stay
as it is; nor may a backslash, where that separates segments. -/
def inSegment (special : Bool) (c : Char) : Bool :=
  inPath c || c == '/' || c == '%' || (special && c == '\\')

/-- The characters escaped in a query. -/
def inQuery (special : Bool) (c : Char) : Bool :=
  isControl c || [' ', '"', '#', '<', '>'].contains c || (special && c == '\x27')

end HttpRpc.Url.Percent
