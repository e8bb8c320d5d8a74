import HttpRpc.Number.Binary64

/-!
# JSON values

A value is null, a boolean, a number, a string, an array or an object. A number is an integer or
a double. An object is a list of fields; `Json.canonical` brings the fields of every object into
the order of their names and keeps the last of several fields with one name, which is the form in
which values are compared, sent and received.
-/

namespace HttpRpc

open HttpRpc.Number

/-- A JSON number: an integer from `-2 ^ 63` up to below `2 ^ 64`, or a double. -/
inductive JsonNumber where
  | integer (value : Int)
  | real (value : Binary64)
deriving DecidableEq, Repr

/-- A JSON value. -/
inductive Json where
  | null
  | bool (value : Bool)
  | number (value : JsonNumber)
  | string (value : String)
  | array (items : List Json)
  | object (fields : List (String × Json))
deriving Repr, Inhabited, BEq

namespace JsonNumber

/-- How doubles are written: positionally from 1e-5 up to below 1e16, and always with a point or
a signed exponent. -/
def layout : Layout := ⟨some (-4), some 16, true, true⟩

/-- The text of a number. -/
def render : JsonNumber → String
  | .integer value => Text.decimalInt value
  | .real value => layout.render value

end JsonNumber

namespace Json

/-- The JSON form of a natural number. -/
def ofNat (n : Nat) : Json := .number (.integer n)

/-- The JSON form of an integer. -/
def ofInt (n : Int) : Json := .number (.integer n)

/-- The JSON form of a double: a number if it is finite, else null. -/
def ofBinary64 (x : Binary64) : Json :=
  if x.isFinite then .number (.real x) else .null

/-- Whether the value is null. -/
def isNull : Json → Bool
  | .null => true
  | _ => false

/-- Whether a name comes before another in the order of code points. -/
def comesBefore (name other : String) : Bool :=
  name.toList.lex other.toList fun c d => c.toNat < d.toNat

/-- The fields with one of them set, in the order of their names. -/
def insertField (key : String) (value : Json) : List (String × Json) → List (String × Json)
  | [] => [(key, value)]
  | (name, old) :: rest =>
    if comesBefore key name then (key, value) :: (name, old) :: rest
    else if key = name then (key, value) :: rest
    else (name, old) :: insertField key value rest

/-- The fields in the order of their names, the last of several with one name being kept. -/
def sortFields (fields : List (String × Json)) : List (String × Json) :=
  fields.foldl (fun sorted field => insertField field.1 field.2 sorted) []

mutual

/-- The value with the fields of every object sorted by name and free of repetitions. -/
def canonical : Json → Json
  | .array items => .array (canonicalItems items)
  | .object fields => .object (sortFields (canonicalFields fields))
  | value => value

/-- The items, each in canonical form. -/
def canonicalItems : List Json → List Json
  | [] => []
  | item :: rest => canonical item :: canonicalItems rest

/-- The fields in the same order, each value in canonical form. -/
def canonicalFields : List (String × Json) → List (String × Json)
  | [] => []
  | (key, value) :: rest => (key, canonical value) :: canonicalFields rest

end

/-- The value of a field of an object. -/
def field? (value : Json) (key : String) : Option Json :=
  match value with
  | .object fields => (fields.find? fun field => field.1 == key).map Prod.snd
  | _ => none

end Json

end HttpRpc
