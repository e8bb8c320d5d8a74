/-!
# UTF-8

An octet sequence is read as a list of pieces: a scalar value, or a maximal run of octets that
starts like a scalar value and cannot be continued. Strict decoding (`decode?`) refuses a sequence
with such a run, and lossy decoding (`decodeLossy`) writes U+FFFD for each.
-/

namespace HttpRpc.Text.Utf8

/-- The octets of a text. -/
def encode (text : List Char) : List UInt8 :=
  text.flatMap String.utf8EncodeChar

/-- The octets of a string. -/
def encodeString (text : String) : List UInt8 :=
  encode text.toList

/-- What the first octet of a sequence promises: the number of octets after it, the range of the
first of those, and the bits that it contributes. -/
inductive Lead where
  | one (bits : Nat)
  | two (bits : Nat)
  | three (bits low high : Nat)
  | four (bits low high : Nat)

/-- The promise of an octet, or none for one that starts no sequence. The ranges exclude overlong
forms, surrogates and values above U+10FFFF. -/
def lead? (octet : UInt8) : Option Lead :=
  let n := octet.toNat
  if n < 0x80 then some (.one n)
  else if n < 0xC2 then none
  else if n < 0xE0 then some (.two (n - 0xC0))
  else if n = 0xE0 then some (.three 0 0xA0 0xBF)
  else if n = 0xED then some (.three 0xD 0x80 0x9F)
  else if n < 0xF0 then some (.three (n - 0xE0) 0x80 0xBF)
  else if n = 0xF0 then some (.four 0 0x90 0xBF)
  else if n < 0xF4 then some (.four (n - 0xF0) 0x80 0xBF)
  else if n = 0xF4 then some (.four 4 0x80 0x8F)
  else none

/-- Whether the octet lies in the range. -/
def within (low high : Nat) (octet : UInt8) : Bool :=
  low ≤ octet.toNat && octet.toNat ≤ high

/-- Whether the octet continues a sequence. -/
def isTail (octet : UInt8) : Bool :=
  within 0x80 0xBF octet

/-- The six bits of a continuing octet appended to the bits before it. -/
def append (bits : Nat) (octet : UInt8) : Nat :=
  bits * 64 + (octet.toNat - 0x80)

/-- The scalar values of an octet sequence in order, with `none` for each maximal run that is part
of no scalar value. -/
def pieces : List UInt8 → List (Option Char)
  | [] => []
  | a :: rest =>
    match lead? a with
    | none => none :: pieces rest
    | some (.one bits) => some (Char.ofNat bits) :: pieces rest
    | some (.two bits) =>
      match rest with
      | [] => [none]
      | b :: more =>
        if isTail b then some (Char.ofNat (append bits b)) :: pieces more
        else none :: pieces (b :: more)
    | some (.three bits low high) =>
      match rest with
      | [] => [none]
      | b :: more =>
        if within low high b then
          match more with
          | [] => [none]
          | c :: others =>
            if isTail c then some (Char.ofNat (append (append bits b) c)) :: pieces others
            else none :: pieces (c :: others)
        else none :: pieces (b :: more)
    | some (.four bits low high) =>
      match rest with
      | [] => [none]
      | b :: more =>
        if within low high b then
          match more with
          | [] => [none]
          | c :: others =>
            if isTail c then
              match others with
              | [] => [none]
              | d :: last =>
                if isTail d then
                  some (Char.ofNat (append (append (append bits b) c) d)) :: pieces last
                else none :: pieces (d :: last)
            else none :: pieces (c :: others)
        else none :: pieces (b :: more)

/-- The text of a well-formed octet sequence. -/
def decode? (octets : List UInt8) : Option (List Char) :=
  (pieces octets).mapM id

/-- The text of an octet sequence with U+FFFD in place of what is not well formed. -/
def decodeLossy (octets : List UInt8) : List Char :=
  (pieces octets).map fun piece => piece.getD '\uFFFD'

/-- The string of a well-formed octet sequence. -/
def decodeString? (octets : List UInt8) : Option String :=
  (decode? octets).map String.ofList

/-- The string of an octet sequence with U+FFFD in place of what is not well formed. -/
def decodeStringLossy (octets : List UInt8) : String :=
  String.ofList (decodeLossy octets)

end HttpRpc.Text.Utf8
