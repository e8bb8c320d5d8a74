import HttpRpc.Number.Rounding

/-!
# Shortest decimals

The decimal that stands for a binary value is the one with the fewest digits among those that
round to the value; of two, it is the nearer one. It is found as the coarsest decimal grid that
has a point in the interval of numbers that round to the value.
-/

namespace HttpRpc.Number

/-- The decimal `digits * 10 ^ exponent`. -/
structure Decimal where
  digits : Nat
  exponent : Int
deriving DecidableEq, Repr

/-- The numbers that round to a value, in quarters of the distance to the next value: the value
itself and the two ends, which belong to the interval if `closed`. -/
structure RoundingInterval where
  low : Nat
  value : Nat
  high : Nat
  exponent : Int
  closed : Bool

/-- The interval of numbers that round to the value. Below a power of two the next value is half
as far away as above it. -/
def BinaryFormat.interval (format : BinaryFormat) (x : Magnitude) : RoundingInterval :=
  let near := x.mantissa = Nat.pow 2 (format.precision - 1) ∧ format.minExponent < x.exponent
  { low := 4 * x.mantissa - (if near then 1 else 2)
    value := 4 * x.mantissa
    high := 4 * x.mantissa + 2
    exponent := x.exponent - 2
    closed := x.mantissa % 2 == 0 }

namespace RoundingInterval

/-- The point of the grid `10 ^ grid` that lies in the interval, the one nearer to the value if
there are two, and the even one of two that are equally near. -/
def pointOn (i : RoundingInterval) (grid : Int) : Option Nat :=
  let unit := Nat.pow 2 (-i.exponent).toNat * Nat.pow 10 grid.toNat
  let scale := Nat.pow 2 i.exponent.toNat * Nat.pow 10 (-grid).toNat
  let inside (n : Nat) : Bool :=
    if i.closed then i.low * scale ≤ n * unit && n * unit ≤ i.high * scale
    else i.low * scale < n * unit && n * unit < i.high * scale
  let below := i.value * scale / unit
  match inside below, inside (below + 1) with
  | true, true =>
    some (divRoundEven (i.value * scale) unit)
  | true, false => some below
  | false, true => some (below + 1)
  | false, false => none

/-- The first of the grids, from the coarsest one down, with a point in the interval. -/
def search (i : RoundingInterval) : Nat → Int → Decimal
  | 0, grid => ⟨0, grid⟩
  | fuel + 1, grid =>
    match i.pointOn grid with
    | some digits => if digits = 0 then search i fuel (grid - 1) else ⟨digits, grid⟩
    | none => search i fuel (grid - 1)

end RoundingInterval

/-- The shortest decimal that rounds to a positive value. The search starts at a power of ten above
the value, and twenty digits are enough for each of the formats here. -/
def BinaryFormat.shortest (format : BinaryFormat) (x : Magnitude) : Decimal :=
  let bits : Int := (x.mantissa.log2 : Int) + 1 + x.exponent
  (format.interval x).search 24 (bits * 30103 / 100000 + 2)

end HttpRpc.Number
