import HttpRpc.Text.Digits

/-!
# Octets in hexadecimal

Each octet is two digits.
-/

namespace HttpRpc.Text.Hex

/-- The digits of octets, in small letters. -/
def encode (octets : List UInt8) : List Char :=
  octets.flatMap fun octet => [Nat.digitChar (octet.toNat / 16), Nat.digitChar (octet.toNat % 16)]

/-- The octets that pairs of digits stand for. -/
def decode? : List Char → Option (List UInt8)
  | [] => some []
  | [_] => none
  | a :: b :: rest => do
    let octet ← value? 16 [a, b]
    let others ← decode? rest
    some (UInt8.ofNat octet :: others)

end HttpRpc.Text.Hex
