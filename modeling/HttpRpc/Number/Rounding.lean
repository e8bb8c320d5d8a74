/-!
# Binary floating-point formats

A format fixes how many significant bits a value has and the range of its exponent. A value of a
format is `mantissa * 2 ^ exponent`, and `BinaryFormat.round` takes a ratio of natural numbers to
the nearest value, ties going to the even mantissa. All arithmetic is exact until that last step.
-/

namespace HttpRpc.Number

/-- The quotient rounded to the nearest natural number, a tie going to the even one. -/
def divRoundEven (num den : Nat) : Nat :=
  let quotient := num / den
  let twice := 2 * (num % den)
  if twice < den then quotient
  else if den < twice then quotient + 1
  else quotient + quotient % 2

/-- The value `mantissa * 2 ^ exponent`. -/
structure Magnitude where
  mantissa : Nat
  exponent : Int
deriving DecidableEq, Repr

namespace Magnitude

/-- The numerator of the value written as a ratio. -/
def num (x : Magnitude) : Nat :=
  x.mantissa * Nat.pow 2 x.exponent.toNat

/-- The denominator of the value written as a ratio. -/
def den (x : Magnitude) : Nat :=
  Nat.pow 2 (-x.exponent).toNat

end Magnitude

/-- A binary format: the number of significant bits, the exponent of the least positive value and
the exponent of the greatest values. -/
structure BinaryFormat where
  precision : Nat
  minExponent : Int
  maxExponent : Int

/-- The 64-bit interchange format. -/
def binary64 : BinaryFormat := ⟨53, -1074, 971⟩

/-- The 32-bit interchange format. -/
def binary32 : BinaryFormat := ⟨24, -149, 104⟩

namespace BinaryFormat

/-- The greatest `k` with `2 ^ k ≤ num / den`, for positive numbers. -/
def floorLog2 (num den : Nat) : Int :=
  let guess : Int := (num.log2 : Int) - den.log2
  if den * Nat.pow 2 guess.toNat ≤ num * Nat.pow 2 (-guess).toNat then guess else guess - 1

/-- The value nearest to the ratio, or none if the ratio rounds beyond the greatest value. -/
def round (format : BinaryFormat) (num den : Nat) : Option Magnitude :=
  if num = 0 then some ⟨0, format.minExponent⟩
  else
    let exponent := max (floorLog2 num den - (format.precision - 1)) format.minExponent
    let mantissa :=
      divRoundEven (num * Nat.pow 2 (-exponent).toNat) (den * Nat.pow 2 exponent.toNat)
    let rounded : Magnitude :=
      if mantissa = Nat.pow 2 format.precision then
        ⟨Nat.pow 2 (format.precision - 1), exponent + 1⟩
      else ⟨mantissa, exponent⟩
    if format.maxExponent < rounded.exponent then none else some rounded

/-- The value nearest to the product. -/
def mul (format : BinaryFormat) (x y : Magnitude) : Option Magnitude :=
  format.round (x.num * y.num) (x.den * y.den)

/-- The value nearest to the quotient. -/
def div (format : BinaryFormat) (x y : Magnitude) : Option Magnitude :=
  format.round (x.num * y.den) (x.den * y.num)

/-- The value nearest to `digits * 10 ^ exponent`. Exponents far outside the range are settled
without computing the power. -/
def ofDecimal (format : BinaryFormat) (digits : Nat) (exponent : Int) : Option Magnitude :=
  if digits = 0 then some ⟨0, format.minExponent⟩
  else
    let top := exponent + (Nat.toDigits 10 digits).length
    if 400 < top then none
    else if top < -400 then some ⟨0, format.minExponent⟩
    else format.round (digits * Nat.pow 10 exponent.toNat) (Nat.pow 10 (-exponent).toNat)

/-- The interchange code of a value without its sign: the biased exponent above the mantissa
without its leading bit. -/
def code (format : BinaryFormat) (x : Magnitude) : Nat :=
  (x.exponent - format.minExponent).toNat * Nat.pow 2 (format.precision - 1) + x.mantissa

/-- The interchange code of infinity without its sign. -/
def infinityCode (format : BinaryFormat) : Nat :=
  (format.maxExponent - format.minExponent + 2).toNat * Nat.pow 2 (format.precision - 1)

/-- The value of an interchange code without its sign, for finite codes. -/
def ofCode (format : BinaryFormat) (code : Nat) : Magnitude :=
  let half := Nat.pow 2 (format.precision - 1)
  if code < half then ⟨code, format.minExponent⟩
  else ⟨half + code % half, format.minExponent + (code / half : Nat) - 1⟩

end BinaryFormat

end HttpRpc.Number
