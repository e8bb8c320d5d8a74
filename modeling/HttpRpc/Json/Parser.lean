import HttpRpc.Json.Draft

/-!
# Reading JSON

`Draft.parse?` reads the form of one value with blanks around it, and `parse?` the value. Values
nest at most 127 levels deep; what is nested more deeply has a form but no value. An object keeps
its fields as the text has them; `parseCanonical?` sorts them and keeps the last of several with one
name.

An integer from `-2 ^ 63` up to below `2 ^ 64` stays an integer, except for `-0`; every other
number is a double. A double is computed from the digits that fit into 64 bits, and from a power of
ten that is multiplied or divided by in double arithmetic, so its last bit may differ from that of
the nearest double. A number too large for a double has no value, nor has a string with half a
surrogate pair.
-/

namespace HttpRpc.Json

open HttpRpc.Number HttpRpc.Text

/-- Whether the character is blank between tokens. -/
def isSpace (c : Char) : Bool :=
  c == ' ' || c == '\n' || c == '\t' || c == '\r'

/-- The text behind leading blanks. -/
def skipSpace (text : List Char) : List Char :=
  text.dropWhile isSpace

/-- The text behind a word that it starts with. -/
def word? (word text : List Char) : Option (List Char) :=
  if word.isPrefixOf text then some (text.drop word.length) else none

/-- The number that four hexadecimal digits stand for. -/
def hex4? (a b c d : Char) : Option Nat :=
  if [a, b, c, d].all isHexDigit then value? 16 [a, b, c, d] else none

/-- The character of a one-letter escape. -/
def simpleEscape? (c : Char) : Option Char :=
  match c with
  | '"' => some '"'
  | '\\' => some '\\'
  | '/' => some '/'
  | 'b' => some '\x08'
  | 'f' => some '\x0c'
  | 'n' => some '\n'
  | 'r' => some '\r'
  | 't' => some '\t'
  | _ => none

/-- A string with one more character in front, if it has a value, and the text behind it. -/
def withChar (c : Char) (found : Option (List Char) × List Char) : Option (List Char) × List Char :=
  (found.1.map (c :: ·), found.2)

/-- The characters up to the closing quote, and the text behind it. There are none if a surrogate
has no partner. -/
def stringTail? : List Char → Option (Option (List Char) × List Char)
  | [] => none
  | '"' :: rest => some (some [], rest)
  | '\\' :: 'u' :: a :: b :: c :: d :: rest =>
    match hex4? a b c d with
    | none => none
    | some n =>
      if 0xD800 ≤ n ∧ n < 0xDC00 then
        match rest with
        | '\\' :: 'u' :: e :: f :: g :: h :: more =>
          match hex4? e f g h with
          | none => none
          | some m =>
            if 0xDC00 ≤ m ∧ m < 0xE000 then
              (stringTail? more).map
                (withChar (Char.ofNat (0x10000 + (n - 0xD800) * 0x400 + (m - 0xDC00))))
            else (stringTail? ('\\' :: 'u' :: e :: f :: g :: h :: more)).map fun (_, after) =>
              (none, after)
        | rest => (stringTail? rest).map fun (_, after) => (none, after)
      else if 0xDC00 ≤ n ∧ n < 0xE000 then (stringTail? rest).map fun (_, after) => (none, after)
      else (stringTail? rest).map (withChar (Char.ofNat n))
  | '\\' :: c :: rest =>
    match simpleEscape? c with
    | none => none
    | some e => (stringTail? rest).map (withChar e)
  | c :: rest =>
    if c.toNat < 0x20 ∨ c = '\\' then none else (stringTail? rest).map (withChar c)

/-- The power of ten as a double. -/
def powerOfTen (k : Nat) : Magnitude :=
  (binary64.ofDecimal 1 k).getD ⟨0, 0⟩

/-- The value multiplied by a power of ten in double arithmetic, in steps of at most 308 places;
none if it becomes too large. -/
def scaleByTen (fuel : Nat) (x : Magnitude) (exponent : Int) : Option Magnitude :=
  if exponent.natAbs ≤ 308 then
    if 0 ≤ exponent then binary64.mul x (powerOfTen exponent.natAbs)
    else binary64.div x (powerOfTen exponent.natAbs)
  else if x.mantissa = 0 then some x
  else if 0 ≤ exponent then none
  else match fuel with
    | 0 => none
    | fuel + 1 => (binary64.div x (powerOfTen 308)).bind fun y => scaleByTen fuel y (exponent + 308)

/-- A number continued by digits as long as it stays below `2 ^ 64`, and the number of digits left
over. -/
def significand (sum : Nat) : List Char → Nat × Nat
  | [] => (sum, 0)
  | c :: rest =>
    let next := sum * 10 + (c.toNat - 48)
    if next < UInt64.size then significand next rest else (sum, rest.length + 1)

/-- The double of a decimal numeral; none if it is too large. Three steps bring every significand
below `2 ^ 64` down to zero. -/
def double? (negative : Bool) (whole fraction : List Char) (exponent : Int) : Option Binary64 :=
  let (high, droppedWhole) := significand 0 whole
  let (all, droppedFraction) := significand high fraction
  let places := (fraction.length - droppedFraction : Nat)
  let shift := exponent + droppedWhole - places
  (binary64.round all 1).bind fun start =>
    (scaleByTen 3 start shift).map fun x => Binary64.ofMagnitude negative (some x)

/-- The exponent behind a mantissa and the text after it, if there is one. -/
def exponentPart? (text : List Char) : Option (Option Int × List Char) :=
  match text with
  | e :: rest =>
    if e = 'e' ∨ e = 'E' then
      let (negative, digitsOn) := match rest with
        | '-' :: more => (true, more)
        | '+' :: more => (false, more)
        | more => (false, more)
      let (digits, after) := digitsOn.span isDigit
      if digits.isEmpty then none
      else
        let n : Int := Literal.digitsValue digits
        some (some (if negative then -n else n), after)
    else some (none, text)
  | [] => some (none, text)

/-- The fraction behind an integer part and the text after it, if there is one. -/
def fractionPart? (text : List Char) : Option (Option (List Char) × List Char) :=
  match text with
  | '.' :: rest =>
    let (digits, after) := rest.span isDigit
    if digits.isEmpty then none else some (some digits, after)
  | _ => some (none, text)

/-- The number of an integer part, a fraction and an exponent; none if it is too large. -/
def numberOf? (negative : Bool) (whole : List Char) (fraction : Option (List Char))
    (exponent : Option Int) : Option JsonNumber :=
  let n := Literal.digitsValue whole
  match fraction, exponent with
  | none, none =>
    if negative ∧ 0 < n ∧ n ≤ UInt64.size / 2 then some (.integer (-(n : Int)))
    else if ¬negative ∧ n < UInt64.size then some (.integer n)
    else (double? negative whole [] 0).map .real
  | fraction, exponent =>
    (double? negative whole (fraction.getD []) (exponent.getD 0)).map .real

/-- A number behind its sign, if it has a value, and the text after it. -/
def number? (negative : Bool) (text : List Char) : Option (Option JsonNumber × List Char) := do
  let (whole, rest) := text.span isDigit
  if whole.isEmpty || (whole.head? == some '0' && whole.length != 1) then none
  let (fraction, rest) ← fractionPart? rest
  let (exponent, rest) ← exponentPart? rest
  some (numberOf? negative whole fraction exponent, rest)

namespace Draft

/-- What is neither an array nor an object, and the text behind it. -/
def leaf? : List Char → Option (Draft × List Char)
  | '"' :: rest =>
    (stringTail? rest).map fun (found, after) =>
      (.leaf (found.map fun chars => .string (String.ofList chars)), after)
  | '-' :: rest => (number? true rest).map fun (n, after) => (.leaf (n.map .number), after)
  | c :: rest =>
    if isDigit c then
      (number? false (c :: rest)).map fun (n, after) => (.leaf (n.map .number), after)
    else if c = 'n' then (word? "ull".toList rest).map fun after => (.leaf (some .null), after)
    else if c = 't' then
      (word? "rue".toList rest).map fun after => (.leaf (some (.bool true)), after)
    else if c = 'f' then
      (word? "alse".toList rest).map fun after => (.leaf (some (.bool false)), after)
    else none
  | [] => none

/-! ## Passing over -/

/-- What may come next where a value is passed over: a value, the name of a field, or what follows a
value. -/
inductive Expected where
  | value
  | name
  | next

/-- The text behind a value of any depth. The brackets around are given from the inside out, each
by whether it is that of an object. The fuel bounds the number of values and brackets. -/
def skip? (fuel : Nat) (expected : Expected) (around : List Bool) (text : List Char) :
    Option (List Char) :=
  match fuel with
  | 0 => none
  | fuel + 1 =>
    match expected, around, skipSpace text with
    | .value, _, '[' :: rest =>
      match skipSpace rest with
      | ']' :: after => skip? fuel .next around after
      | more => skip? fuel .value (false :: around) more
    | .value, _, '{' :: rest =>
      match skipSpace rest with
      | '}' :: after => skip? fuel .next around after
      | more => skip? fuel .name (true :: around) more
    | .value, _, more =>
      match leaf? more with
      | some (_, after) => skip? fuel .next around after
      | none => none
    | .name, _, '"' :: rest =>
      match stringTail? rest with
      | some (_, rest) =>
        match skipSpace rest with
        | ':' :: more => skip? fuel .value around more
        | _ => none
      | none => none
    | .name, _, _ => none
    | .next, [], _ => some text
    | .next, false :: _, ',' :: more => skip? fuel .value around more
    | .next, false :: outer, ']' :: after => skip? fuel .next outer after
    | .next, true :: _, ',' :: more => skip? fuel .name around more
    | .next, true :: outer, '}' :: after => skip? fuel .next outer after
    | .next, _ :: _, _ => none

/-! ## Reading -/

mutual

/-- A value that may nest `depth` more levels, and the text behind it; one nested more deeply is
passed over. The fuel bounds the number of values, items and fields read. -/
def value? (fuel depth : Nat) (text : List Char) : Option (Draft × List Char) :=
  match fuel with
  | 0 => none
  | fuel + 1 =>
    match skipSpace text, depth with
    | '[' :: rest, 0 => (skip? (2 * text.length + 2) .value [] ('[' :: rest)).map (leaf none, ·)
    | '{' :: rest, 0 => (skip? (2 * text.length + 2) .value [] ('{' :: rest)).map (leaf none, ·)
    | '[' :: rest, depth + 1 =>
      match skipSpace rest with
      | ']' :: after => some (array [], after)
      | more => (items? fuel depth more).map fun (items, after) => (array items, after)
    | '{' :: rest, depth + 1 =>
      match skipSpace rest with
      | '}' :: after => some (object [], after)
      | more => (fields? fuel depth more).map fun (fields, after) => (object fields, after)
    | more, _ => leaf? more

/-- One or more items up to the closing bracket. -/
def items? (fuel depth : Nat) (text : List Char) : Option (List Draft × List Char) :=
  match fuel with
  | 0 => none
  | fuel + 1 =>
    match value? fuel depth text with
    | none => none
    | some (item, rest) =>
      match skipSpace rest with
      | ',' :: more => (items? fuel depth more).map fun (items, after) => (item :: items, after)
      | ']' :: after => some ([item], after)
      | _ => none

/-- One or more fields up to the closing brace. -/
def fields? (fuel depth : Nat) (text : List Char) :
    Option (List (Option String × Draft) × List Char) :=
  match fuel with
  | 0 => none
  | fuel + 1 =>
    match skipSpace text with
    | '"' :: rest =>
      match stringTail? rest with
      | none => none
      | some (name, rest) =>
        match skipSpace rest with
        | ':' :: rest =>
          match value? fuel depth rest with
          | none => none
          | some (value, rest) =>
            let field := (name.map String.ofList, value)
            match skipSpace rest with
            | ',' :: more => (fields? fuel depth more).map fun (fields, after) =>
                (field :: fields, after)
            | '}' :: after => some ([field], after)
            | _ => none
        | _ => none
    | _ => none

end

/-- The form of the value that a text holds. -/
def parse? (text : List Char) : Option Draft :=
  match value? (2 * text.length + 2) 127 text with
  | some (value, rest) => if (skipSpace rest).isEmpty then some value else none
  | none => none

end Draft

/-- The value that a text holds, its objects with the fields of the text. -/
def parse? (text : List Char) : Option Json :=
  (Draft.parse? text).bind Draft.toJson?

/-- The canonical form of the value that a text holds. -/
def parseCanonical? (text : List Char) : Option Json :=
  (parse? text).map canonical

end HttpRpc.Json
