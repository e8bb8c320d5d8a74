import HttpRpc.Json.Basic

/-!
# Views of values

A value seen as a text, a list, a number or a flag, with a default where it is of another kind. A
field that is null counts as missing.
-/

namespace HttpRpc.Json

/-- The value of a field that is not null. -/
def at? (value : Json) (key : String) : Option Json :=
  (value.field? key).filter fun field => !field.isNull

/-- The text of a string, else the empty text. -/
def asText : Json → String
  | .string text => text
  | _ => ""

/-- The items of an array, else none. -/
def asList : Json → List Json
  | .array items => items
  | _ => []

/-- The integer of a number or a numeral, else zero. -/
def asInt : Json → Int
  | .number (.integer n) => n
  | .string text => ((Text.value? 10 text.toList).map Int.ofNat).getD 0
  | _ => 0

/-- The natural number of a number or a numeral, else zero. -/
def asNat (value : Json) : Nat := value.asInt.toNat

/-- The double of a number or a literal, else the one that is no number. -/
def asReal : Json → Number.Binary64
  | .number (.real x) => x
  | .number (.integer n) => .ofInt n
  | .string text => (Number.Binary64.parse? text).getD .nan
  | _ => .nan

/-- The flag of a boolean, else false. -/
def asFlag : Json → Bool
  | .bool flag => flag
  | _ => false

/-- The text of a field. -/
def textAt (value : Json) (key : String) : String := ((value.at? key).map asText).getD ""

/-- The items of a field. -/
def listAt (value : Json) (key : String) : List Json := ((value.at? key).map asList).getD []

/-- The texts of the items of a field. -/
def textsAt (value : Json) (key : String) : List String := (value.listAt key).map asText

/-- The natural number of a field. -/
def natAt (value : Json) (key : String) : Nat := ((value.at? key).map asNat).getD 0

/-- The flag of a field. -/
def flagAt (value : Json) (key : String) : Bool := ((value.at? key).map asFlag).getD false

end HttpRpc.Json
