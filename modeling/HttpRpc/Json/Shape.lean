import HttpRpc.Json.Basic

/-!
# Shapes

A shape says which JSON values a program takes in a place. Reading a value by a shape gives the
value in the form in which the program would write it again: integers become doubles where doubles
are wanted, and records may come as objects, whose further fields are passed over, or as arrays of
their fields.
-/

namespace HttpRpc

open HttpRpc.Number

/-- What values are taken. -/
inductive Shape where
  | any
  | unit
  | bool
  | integer (least greatest : Int)
  | real
  | text
  | character
  | optional (shape : Shape)
  | list (shape : Shape)
  | record (fields : List (String × Shape))

namespace Shape

/-- Integers of 64 bits with a sign. -/
def int64 : Shape := .integer (-Int.pow 2 63) (Int.pow 2 63 - 1)

/-- Integers of 32 bits with a sign. -/
def int32 : Shape := .integer (-Int.pow 2 31) (Int.pow 2 31 - 1)

/-- Integers of 64 bits without a sign. -/
def uint64 : Shape := .integer 0 (Int.pow 2 64 - 1)

/-- Octets. -/
def octet : Shape := .integer 0 255

/-- Whether a missing field counts as null. -/
def allowsMissing : Shape → Bool
  | optional _ => true
  | _ => false

mutual

/-- The value as the program takes it, if it has the shape. -/
def read? : Shape → Json → Option Json
  | any, value => some value
  | unit, value => if value.isNull then some .null else none
  | bool, .bool value => some (.bool value)
  | integer least greatest, .number (.integer n) =>
    if least ≤ n ∧ n ≤ greatest then some (Json.ofInt n) else none
  | real, .number (.integer n) => some (.number (.real (.ofInt n)))
  | real, .number (.real x) => some (.number (.real x))
  | text, .string value => some (.string value)
  | character, .string value => if value.length = 1 then some (.string value) else none
  | optional shape, value => if value.isNull then some .null else shape.read? value
  | list shape, .array items => (items.mapM shape.read?).map .array
  | record fields, .object given =>
    (readFields? fields (.object given)).map fun fields => (Json.object fields).canonical
  | record fields, .array items =>
    (readItems? fields items).map fun fields => (Json.object fields).canonical
  | _, _ => none

/-- The fields of a record taken from an object. -/
def readFields? : List (String × Shape) → Json → Option (List (String × Json))
  | [], _ => some []
  | (name, shape) :: rest, value => do
    let field ← match value.field? name with
      | some field => shape.read? field
      | none => if shape.allowsMissing then some .null else none
    let others ← readFields? rest value
    some ((name, field) :: others)

/-- The fields of a record taken from an array that holds exactly them. -/
def readItems? : List (String × Shape) → List Json → Option (List (String × Json))
  | [], [] => some []
  | (name, shape) :: rest, item :: items => do
    let field ← shape.read? item
    let others ← readItems? rest items
    some ((name, field) :: others)
  | _, _ => none

end

end Shape

end HttpRpc
