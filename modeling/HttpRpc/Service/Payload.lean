import HttpRpc.Json.Parser

/-!
# Error payloads

What a server says about a failed call: a code, a message, parameters, and the errors behind it. A
payload travels as a JSON object; its lists may be left out when read, fields of other names are
passed over, and the fields may also come as an array in their order. A parameter without a value is
its key alone.
-/

namespace HttpRpc

/-- A named detail of an error, perhaps without a value. -/
structure ErrorParameter where
  key : String
  value : Option String
deriving DecidableEq, Repr

/-- What a server says about an error. -/
inductive ErrorPayload where
  | mk (code message : String) (parameters : List ErrorParameter) (innerErrors : List ErrorPayload)
deriving Repr, BEq

namespace ErrorPayload

/-- The name of the type of payloads, by which codecs are chosen for them. -/
def typeName : String := "restwire::wire::ErrorPayload"

/-- The code of an error. -/
def code : ErrorPayload → String
  | mk code _ _ _ => code

/-- The message of an error. -/
def message : ErrorPayload → String
  | mk _ message _ _ => message

/-- The details of an error. -/
def parameters : ErrorPayload → List ErrorParameter
  | mk _ _ parameters _ => parameters

/-- The errors behind an error. -/
def innerErrors : ErrorPayload → List ErrorPayload
  | mk _ _ _ innerErrors => innerErrors

/-- A payload with parameters that all have values. -/
def new (code message : String) (parameters : List (String × String)) : ErrorPayload :=
  mk code message (parameters.map fun (key, value) => ⟨key, some value⟩) []

/-- The text of a payload. -/
def render (payload : ErrorPayload) : String :=
  payload.code ++ ": " ++ payload.message

/-- The value of the first parameter of a name. -/
def parameter? (payload : ErrorPayload) (key : String) : Option String :=
  (payload.parameters.find? fun parameter => parameter.key == key).bind ErrorParameter.value

/-! ## Writing -/

/-- The JSON form of a parameter. -/
def parameterJson (parameter : ErrorParameter) : Json :=
  .object (("key", .string parameter.key) ::
    (match parameter.value with
      | some value => [("value", .string value)]
      | none => []))

mutual

/-- The JSON form of a payload, its fields in the order of their declaration. -/
def toWire : ErrorPayload → Json
  | mk code message parameters innerErrors => .object
      [("code", .string code), ("message", .string message),
        ("parameters", .array (parameters.map parameterJson)),
        ("innerErrors", .array (toWireList innerErrors))]

/-- The JSON forms of payloads. -/
def toWireList : List ErrorPayload → List Json
  | [] => []
  | payload :: rest => toWire payload :: toWireList rest

end

/-- The JSON form of a payload, its fields in the order of their names. -/
def toJson (payload : ErrorPayload) : Json :=
  payload.toWire.canonical

/-! ## Reading -/

/-- The value of a field that occurs at most once: none if it is missing. -/
def uniqueField? (fields : List (String × Json)) (key : String) : Option (Option Json) :=
  match fields.filter fun field => field.1 == key with
  | [] => some none
  | [field] => some (some field.2)
  | _ => none

/-- A text. -/
def text? : Json → Option String
  | .string text => some text
  | _ => none

/-- A text, or null for none. -/
def optionalText? : Json → Option (Option String)
  | .null => some none
  | .string text => some (some text)
  | _ => none

/-- The parameter that a value stands for. -/
def parameterOfJson? : Json → Option ErrorParameter
  | .object fields => do
    let key ← (← uniqueField? fields "key").bind text?
    let value ← match ← uniqueField? fields "value" with
      | some value => optionalText? value
      | none => some none
    some ⟨key, value⟩
  | .array [key] => (text? key).map fun key => ⟨key, none⟩
  | .array [key, value] => do some ⟨← text? key, ← optionalText? value⟩
  | _ => none

/-- The parameters that a value stands for. -/
def parametersOfJson? : Json → Option (List ErrorParameter)
  | .array items => items.mapM parameterOfJson?
  | _ => none

/-- The list of parameters in a field that may be missing. -/
def parametersOfField? : Option Json → Option (List ErrorParameter)
  | none => some []
  | some value => parametersOfJson? value

mutual

/-- The payload that a value stands for. -/
def ofJson? : Json → Option ErrorPayload
  | .object fields => do
    let code ← (← uniqueField? fields "code").bind text?
    let message ← (← uniqueField? fields "message").bind text?
    let parameters ← parametersOfField? (← uniqueField? fields "parameters")
    let _ ← uniqueField? fields "innerErrors"
    let innerErrors ← ofFields? fields
    some (mk code message parameters innerErrors)
  | .array (code :: message :: rest) => do
    let code ← text? code
    let message ← text? message
    ofTail? code message rest
  | _ => none

/-- The payload of an array behind its code and message. -/
def ofTail? (code message : String) : List Json → Option ErrorPayload
  | [] => some (mk code message [] [])
  | parameters :: rest => do
    let parameters ← parametersOfJson? parameters
    let innerErrors ← ofLast? rest
    some (mk code message parameters innerErrors)

/-- The inner errors at the end of an array, where nothing else may follow. -/
def ofLast? : List Json → Option (List ErrorPayload)
  | [] => some []
  | [.array items] => ofItems? items
  | _ => none

/-- The inner errors of the field of that name; none if it is missing. -/
def ofFields? : List (String × Json) → Option (List ErrorPayload)
  | [] => some []
  | (key, value) :: rest =>
    if key = "innerErrors" then
      match value with
      | .array items => ofItems? items
      | _ => none
    else ofFields? rest

/-- The payloads that values stand for. -/
def ofItems? : List Json → Option (List ErrorPayload)
  | [] => some []
  | item :: rest => do
    let payload ← ofJson? item
    let more ← ofItems? rest
    some (payload :: more)

end

/-! ## Reading texts -/

/-- What is read of a payload with a depth of errors behind it. -/
def wanted : Nat → Json.Wanted
  | 0 => .all
  | depth + 1 => .fields
      [("code", .all), ("message", .all),
        ("parameters", .items (.fields [("key", .all), ("value", .all)])),
        ("innerErrors", .items (wanted depth))]

/-- The payload that a JSON text holds. Values nest at most as deeply as in other texts, but those
of fields of other names may hold anything that has the form of a value. -/
def parse? (text : List Char) : Option ErrorPayload :=
  ((Json.Draft.parse? text).bind (Json.Draft.select? (wanted 127))).bind ofJson?

end ErrorPayload

end HttpRpc
