/-!
# Numerals

The decimal and hexadecimal digits of a number, and the number that a row of digits stands for
(`value?`). The character classes here are those of ASCII.
-/

namespace HttpRpc.Text

/-- The digit that a character stands for in bases up to 36, in either case of letters. -/
def digitValue? (c : Char) : Option Nat :=
  let n := c.toNat
  if 48 ≤ n && n ≤ 57 then some (n - 48)
  else if 97 ≤ n && n ≤ 122 then some (n - 87)
  else if 65 ≤ n && n ≤ 90 then some (n - 55)
  else none

/-- The decimal digits of a number. -/
def decimal (n : Nat) : String :=
  String.ofList (Nat.toDigits 10 n)

/-- The decimal digits of an integer behind its sign; only negative numbers show one. -/
def decimalInt (n : Int) : String :=
  if n < 0 then "-" ++ decimal n.natAbs else decimal n.natAbs

/-- The hexadecimal digits of a number, in small letters. -/
def hexadecimal (n : Nat) : String :=
  String.ofList (Nat.toDigits 16 n)

/-- Two capital hexadecimal digits of an octet. -/
def octetHex (octet : UInt8) : List Char :=
  [(Nat.digitChar (octet.toNat / 16)).toUpper, (Nat.digitChar (octet.toNat % 16)).toUpper]

/-- The number that digits of the base stand for, after the digits read so far. -/
def valueFrom? (base : Nat) (sum : Nat) : List Char → Option Nat
  | [] => some sum
  | c :: rest =>
    match digitValue? c with
    | some digit => if digit < base then valueFrom? base (sum * base + digit) rest else none
    | none => none

/-- The number that a row of one or more digits of the base stands for. -/
def value? (base : Nat) (text : List Char) : Option Nat :=
  if text.isEmpty then none else valueFrom? base 0 text

/-- Whether the character is an ASCII decimal digit. -/
def isDigit (c : Char) : Bool :=
  48 ≤ c.toNat && c.toNat ≤ 57

/-- Whether the character is an ASCII hexadecimal digit. -/
def isHexDigit (c : Char) : Bool :=
  isDigit c || (97 ≤ c.toNat && c.toNat ≤ 102) || (65 ≤ c.toNat && c.toNat ≤ 70)

/-- Whether the character is an ASCII letter. -/
def isLetter (c : Char) : Bool :=
  (97 ≤ c.toNat && c.toNat ≤ 122) || (65 ≤ c.toNat && c.toNat ≤ 90)

/-- Whether the character is an ASCII letter or digit. -/
def isAlphanumeric (c : Char) : Bool :=
  isLetter c || isDigit c

end HttpRpc.Text
