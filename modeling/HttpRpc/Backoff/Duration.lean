import HttpRpc.Text.Digits

/-!
# Durations

A duration is a whole number of nanoseconds. In descriptions it is shown in the largest unit that
does not make it less than one, without zeros at the end.
-/

namespace HttpRpc

/-- A span of time. -/
structure Duration where
  nanos : Nat
deriving DecidableEq, Repr

namespace Duration

/-- The nanoseconds of a second. -/
def nanosPerSecond : Nat := 1000000000

/-- A number of seconds and nanoseconds. -/
def ofParts (seconds nanos : Nat) : Duration :=
  ⟨seconds * nanosPerSecond + nanos⟩

/-- A number of milliseconds. -/
def ofMillis (millis : Nat) : Duration :=
  ⟨millis * 1000000⟩

/-- The longest duration that clocks count: `2 ^ 64` seconds less a nanosecond. -/
def maxValue : Duration :=
  ofParts (UInt64.size - 1) 999999999

/-- The duration of a number of nanoseconds, where the whole seconds stay below `2 ^ 64`. -/
def ofNanos (nanos : Nat) : Duration :=
  ofParts (min (nanos / nanosPerSecond) (UInt64.size - 1)) (nanos % nanosPerSecond)

/-- The whole milliseconds of a duration. -/
def millis (d : Duration) : Nat :=
  d.nanos / 1000000

/-- A number of units with as many decimals as `10 ^ places` units have, without zeros at the end.
-/
def renderUnits (value places : Nat) : String :=
  let fraction := Nat.toDigits 10 (Nat.pow 10 places + value % Nat.pow 10 places)
  let kept := ((fraction.drop 1).reverse.dropWhile (· == '0')).reverse
  Text.decimal (value / Nat.pow 10 places) ++
    (if kept.isEmpty then "" else "." ++ String.ofList kept)

/-- The form of a duration in descriptions. -/
def describe (d : Duration) : String :=
  if 1000000000 ≤ d.nanos then renderUnits d.nanos 9 ++ "s"
  else if 1000000 ≤ d.nanos then renderUnits d.nanos 6 ++ "ms"
  else if 1000 ≤ d.nanos then renderUnits d.nanos 3 ++ "µs"
  else renderUnits d.nanos 0 ++ "ns"

end Duration

end HttpRpc
