import HttpRpc.Text.Digits
import HttpRpc.Text.Split

/-!
# Punycode

An encoded label holds its ASCII characters, then a hyphen, then the places and values of the other
characters as a row of numbers. Each number has variable length in base 36, and the thresholds that
end it adapt to the numbers before. `decode?` restores the characters of a label that `encode`
states.
-/

namespace HttpRpc.Url.Punycode

open HttpRpc.Text

/-- A distance divided by 35 until it is at most 455, with 36 counted for each division. -/
def shrink (k distance : Nat) : Nat × Nat :=
  if 455 < distance then shrink (k + 36) (distance / 35) else (k, distance)
termination_by distance
decreasing_by exact Nat.div_lt_self (by omega) (by omega)

/-- The bias of the thresholds after a distance among this many code points. -/
def adapt (distance points : Nat) (first : Bool) : Nat :=
  let halved := if first then distance / 700 else distance / 2
  let (k, small) := shrink 0 (halved + halved / points)
  k + 36 * small / (small + 38)

/-- The digit of a character: letters count from 0, decimal digits from 26. -/
def digit? (c : Char) : Option Nat :=
  if isDigit c then some (c.toNat - 48 + 26)
  else if isLetter c then some (c.toLower.toNat - 97)
  else none

/-- The least digit that does not end a number at position `k`. -/
def threshold (k bias : Nat) : Nat :=
  if k ≤ bias then 1 else if bias + 26 ≤ k then 26 else k - bias

/-- A sum continued by one number, and the text behind the number. -/
def number? (bias sum weight k : Nat) : List Char → Option (Nat × List Char)
  | [] => none
  | c :: rest =>
    match digit? c with
    | none => none
    | some digit =>
      let next := sum + digit * weight
      if digit < threshold k bias then some (next, rest)
      else number? bias next (weight * (36 - threshold k bias)) (k + 36) rest

/-! ## From an encoded label -/

/-- How far the insertion of code points has come. -/
structure State where
  point : Nat
  place : Nat
  bias : Nat
  first : Bool
  output : List Char

/-- The characters with those inserted that the text states. -/
def insertAll? : Nat → State → List Char → Option (List Char)
  | _, state, [] => some state.output
  | 0, _, _ => none
  | fuel + 1, state, text => do
    let (sum, rest) ← number? state.bias state.place 1 36 text
    let count := state.output.length + 1
    let point := state.point + sum / count
    let place := sum % count
    if !decide point.isValidChar then none
    insertAll? fuel
      { point := point
        place := place + 1
        bias := adapt (sum - state.place) count state.first
        first := false
        output := state.output.take place ++ [Char.ofNat point] ++ state.output.drop place } rest

/-- The characters of an encoded label. A hyphen that no character precedes ends nothing. Every
number takes at least one character, so the length of the text bounds the insertions. -/
def decode? (label : List Char) : Option (List Char) :=
  let (basic, extended) := match splitOnce '-' label.reverse with
    | some (_, []) => ([], label)
    | some (after, before) => (before.reverse, after.reverse)
    | none => ([], label)
  insertAll? (extended.length + 1) ⟨128, 0, 72, true, basic⟩ extended

/-! ## To an encoded label -/

/-- The character of a digit. -/
def digit (n : Nat) : Char :=
  Char.ofNat (if n < 26 then 97 + n else 48 + (n - 26))

/-- The digits of a number from position `k` on. A digit below the threshold ends the number. -/
def digits (bias k n : Nat) : List Char :=
  let least := threshold k bias
  if n < least then [digit n]
  else digit (least + (n - least) % (36 - least)) ::
    digits bias (k + 36) ((n - least) / (36 - least))
termination_by n
decreasing_by
  have positive : 0 < threshold k bias := by unfold threshold; (repeat' split) <;> omega
  exact Nat.lt_of_le_of_lt (Nat.div_le_self _ _) (by omega)

/-- How far the statement of code points has come: the text so far, the distance passed since, the
bias, how many characters the text stands for, and whether it states no number yet. -/
structure Progress where
  text : List Char
  distance : Nat
  bias : Nat
  count : Nat
  first : Bool

/-- The progress over a character of the label in the round of a code point. -/
def Progress.pass (point : Nat) (progress : Progress) (c : Char) : Progress :=
  if c.toNat < point then { progress with distance := progress.distance + 1 }
  else if c.toNat = point then
    { text := progress.text ++ digits progress.bias 36 progress.distance
      distance := 0
      bias := adapt progress.distance (progress.count + 1) progress.first
      count := progress.count + 1
      first := false }
  else progress

/-- The progress over rounds of the label for code points in ascending order, the first of which may
be `least`. -/
def Progress.rounds (label : List Char) (least : Nat) (progress : Progress) : List Nat → Progress
  | [] => progress
  | point :: points =>
    let skipped := (point - least) * (progress.count + 1)
    let passed := label.foldl (pass point) { progress with distance := progress.distance + skipped }
    rounds label (point + 1) { passed with distance := passed.distance + 1 } points

/-- The encoded label that stands for the characters. -/
def encode (label : List Char) : List Char :=
  let basic := label.filter (·.toNat < 128)
  let points := (((label.map Char.toNat).filter (128 ≤ ·)).mergeSort).eraseDups
  let start : Progress := ⟨basic ++ if basic.isEmpty then [] else ['-'], 0, 72, basic.length, true⟩
  (start.rounds label 128 points).text

end HttpRpc.Url.Punycode
