import HttpRpc.Codec.Basic

/-!
# Data

Values as programs hold them, and their JSON form. Not every value has one: an integer may be too
large, and the keys of a map must have the form of a text.
-/

namespace HttpRpc

open HttpRpc.Number

/-- A value of a program. -/
inductive Datum where
  | unit
  | bool (value : Bool)
  | integer (value : Int)
  | real (value : Binary64)
  | text (value : String)
  | list (items : List Datum)
  | map (entries : List (Datum × Datum))
  | json (value : Json)

namespace Datum

/-- A value that may be missing. -/
def optional : Option Datum → Datum
  | none => unit
  | some value => value

/-- The text of a key of a map: texts as they are, booleans and integers as they are written. -/
def keyText : Datum → Except SerializationError String
  | text value => .ok value
  | bool value => .ok (if value then "true" else "false")
  | integer value => .ok (Text.decimalInt value)
  | _ => .error (.json "key must be a string")

mutual

/-- The JSON form of a value. A double that is no number has that of a missing value. -/
def toJson : Datum → Except SerializationError Json
  | unit => .ok .null
  | bool value => .ok (.bool value)
  | integer value =>
    if -Int.pow 2 63 ≤ value ∧ value < Int.pow 2 64 then .ok (Json.ofInt value)
    else .error (.json "number out of range")
  | real value => .ok (Json.ofBinary64 value)
  | text value => .ok (.string value)
  | list items => (toJsonItems items).map .array
  | map entries => (toJsonEntries entries).map fun fields => .object (Json.sortFields fields)
  | json value => .ok value

/-- The JSON forms of values. -/
def toJsonItems : List Datum → Except SerializationError (List Json)
  | [] => .ok []
  | item :: rest => do
    let first ← toJson item
    let others ← toJsonItems rest
    return first :: others

/-- The JSON forms of the entries of a map. -/
def toJsonEntries : List (Datum × Datum) → Except SerializationError (List (String × Json))
  | [] => .ok []
  | (key, value) :: rest => do
    let name ← keyText key
    let first ← toJson value
    let others ← toJsonEntries rest
    return (name, first) :: others

end

end Datum

end HttpRpc
