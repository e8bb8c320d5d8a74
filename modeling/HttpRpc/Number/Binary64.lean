import HttpRpc.Number.Shortest
import HttpRpc.Text.Digits

/-!
# Double-precision numbers

A double is its 64-bit interchange code, so that equality is equality of codes: zeros of different
sign differ and a NaN equals itself. `parse?` reads a decimal literal and rounds it to the nearest
double; `Layout.render` writes the shortest decimal that reads back as the same double.
-/

namespace HttpRpc.Number

open HttpRpc.Text

/-- A double-precision number, as its interchange code. -/
structure Binary64 where
  code : UInt64
deriving DecidableEq, Repr, Inhabited

namespace Binary64

/-- Whether the sign bit is set. -/
def isNegative (x : Binary64) : Bool :=
  UInt64.size / 2 ≤ x.code.toNat

/-- The code without its sign bit. -/
def absCode (x : Binary64) : Nat :=
  x.code.toNat % (UInt64.size / 2)

/-- Whether the number is neither infinite nor NaN. -/
def isFinite (x : Binary64) : Bool :=
  x.absCode < binary64.infinityCode

/-- Whether the code stands for no number. -/
def isNaN (x : Binary64) : Bool :=
  binary64.infinityCode < x.absCode

/-- The absolute value of a finite number. -/
def magnitude (x : Binary64) : Magnitude :=
  binary64.ofCode x.absCode

/-- The double with the sign and the absolute code. -/
def ofAbsCode (negative : Bool) (code : Nat) : Binary64 :=
  ⟨UInt64.ofNat ((if negative then UInt64.size / 2 else 0) + code)⟩

/-- The double of a sign and a rounded absolute value, where none is infinity. -/
def ofMagnitude (negative : Bool) : Option Magnitude → Binary64
  | some x => ofAbsCode negative (binary64.code x)
  | none => ofAbsCode negative binary64.infinityCode

/-- The double that stands for no number. -/
def nan : Binary64 := ⟨0x7FF8000000000000⟩

/-- The double nearest to an integer. -/
def ofInt (n : Int) : Binary64 :=
  ofMagnitude (n < 0) (binary64.round n.natAbs 1)

/-- Half of a double. -/
def half (x : Binary64) : Binary64 :=
  if x.isFinite then
    ofMagnitude x.isNegative (binary64.round x.magnitude.num (2 * x.magnitude.den))
  else x

/-- Whether a finite double is greater than one. -/
def exceedsOne (x : Binary64) : Bool :=
  !x.isNegative && x.magnitude.den < x.magnitude.num

end Binary64

/-- A number as a decimal literal states it. -/
inductive Literal where
  | nan
  | infinite (negative : Bool)
  | finite (negative : Bool) (digits : Nat) (exponent : Int)

namespace Literal

/-- The longest prefix of decimal digits, and the rest. -/
def digits (text : List Char) : List Char × List Char :=
  text.span isDigit

/-- The number that a row of decimal digits stands for; no digit stands for zero. -/
def digitsValue (text : List Char) : Nat :=
  (valueFrom? 10 0 text).getD 0

/-- The exponent behind a mantissa: nothing, or `e` or `E`, an optional sign and digits. -/
def exponent? : List Char → Option Int
  | [] => some 0
  | e :: rest =>
    if e = 'e' ∨ e = 'E' then
      match rest with
      | '-' :: more => (value? 10 more).map fun n => -(n : Int)
      | '+' :: more => (value? 10 more).map Int.ofNat
      | more => (value? 10 more).map Int.ofNat
    else none

/-- Reads digits with an optional point among, before or behind them, and an optional exponent. -/
def unsigned? (negative : Bool) (text : List Char) : Option Literal :=
  let (whole, rest) := digits text
  let (fraction, rest) := match rest with
    | '.' :: more => digits more
    | _ => ([], rest)
  if whole.isEmpty && fraction.isEmpty then none
  else (exponent? rest).map fun exponent =>
    .finite negative (digitsValue (whole ++ fraction)) (exponent - fraction.length)

/-- Reads a literal: an optional sign, then digits, `inf`, `infinity` or `nan` in letters of any
case. -/
def parse? (text : List Char) : Option Literal :=
  let (negative, rest) := match text with
    | '-' :: rest => (true, rest)
    | '+' :: rest => (false, rest)
    | rest => (false, rest)
  let word := rest.map Char.toLower
  if word = "inf".toList ∨ word = "infinity".toList then some (.infinite negative)
  else if word = "nan".toList then some .nan
  else unsigned? negative rest

end Literal

/-- The double nearest to what a literal states. -/
def Binary64.ofLiteral : Literal → Binary64
  | .nan => .nan
  | .infinite negative => .ofMagnitude negative none
  | .finite negative digits exponent =>
    .ofMagnitude negative (binary64.ofDecimal digits exponent)

/-- The double nearest to a decimal literal. -/
def Binary64.parse? (text : String) : Option Binary64 :=
  (Literal.parse? text.toList).map .ofLiteral

/-- How decimals are written: for which places of the point they are written positionally, whether
a whole number keeps one zero behind its point, and whether a positive exponent has a sign. -/
structure Layout where
  least : Option Int
  greatest : Option Int
  keepsPoint : Bool
  plusSign : Bool

namespace Layout

/-- Whether a number with `place` digits before its point is written positionally. -/
def isPositional (layout : Layout) (place : Int) : Bool :=
  (layout.least.all fun least => least ≤ place) &&
    (layout.greatest.all fun greatest => place ≤ greatest)

/-- The digits with the point behind the first `place` of them. -/
def positional (layout : Layout) (digits : List Char) (place : Int) : List Char :=
  if place ≤ 0 then ['0', '.'] ++ List.replicate (-place).toNat '0' ++ digits
  else if digits.length ≤ place.toNat then
    digits ++ List.replicate (place.toNat - digits.length) '0' ++
      (if layout.keepsPoint then ['.', '0'] else [])
  else digits.take place.toNat ++ ['.'] ++ digits.drop place.toNat

/-- The digits with the point behind the first one, and the exponent that makes up for it. -/
def scientific (layout : Layout) (digits : List Char) (place : Int) : List Char :=
  digits.take 1 ++ (if digits.length = 1 then [] else '.' :: digits.drop 1) ++
    (if layout.plusSign && 0 < place then ['e', '+'] else ['e']) ++ (decimalInt (place - 1)).toList

/-- The text of a decimal. -/
def renderDecimal (layout : Layout) (x : Decimal) : List Char :=
  let digits := Nat.toDigits 10 x.digits
  let place := x.exponent + digits.length
  if layout.isPositional place then layout.positional digits place
  else layout.scientific digits place

/-- The text of a double: its shortest decimal behind its sign. -/
def render (layout : Layout) (x : Binary64) : String :=
  if x.isNaN then "NaN"
  else
    let sign := if x.isNegative then "-" else ""
    if !x.isFinite then sign ++ "inf"
    else if x.magnitude.mantissa = 0 then
      sign ++ (if layout.keepsPoint then "0.0" else "0")
    else sign ++ String.ofList (layout.renderDecimal (binary64.shortest x.magnitude))

/-- Every number is written positionally, whole numbers without a point. -/
def plain : Layout := ⟨none, none, false, false⟩

/-- Numbers from 1e-4 up to below 1e16 are written positionally, and a point is always shown. -/
def described : Layout := ⟨some (-3), some 16, true, false⟩

end Layout

end HttpRpc.Number
