import HttpRpc.Json.Basic

/-!
# Drafts

A draft is what a text in the form of a JSON value holds, before it is asked whether each part has a
value: a number may be too large, half a surrogate pair has no character, and arrays and objects may
be nested too deeply. A reader that wants only some fields passes the others over, with or without
a value (`Draft.select?`).
-/

namespace HttpRpc.Json

/-- The form of a JSON value, some of whose parts may have no value. -/
inductive Draft where
  | leaf (value : Option Json)
  | array (items : List Draft)
  | object (fields : List (Option String × Draft))

/-- What a reader wants of a value: all of it, items of one kind, or fields of some names. The
fields may also come as an array in their order. -/
inductive Wanted where
  | all
  | items (each : Wanted)
  | fields (known : List (String × Wanted))

namespace Draft

mutual

/-- The value of a draft, if all its parts have one. -/
def toJson? : Draft → Option Json
  | leaf value => value
  | array items => (itemsToJson? items).map .array
  | object fields => (fieldsToJson? fields).map .object

/-- The values of items. -/
def itemsToJson? : List Draft → Option (List Json)
  | [] => some []
  | item :: rest => do
    let first ← toJson? item
    let others ← itemsToJson? rest
    some (first :: others)

/-- The fields with their values. -/
def fieldsToJson? : List (Option String × Draft) → Option (List (String × Json))
  | [] => some []
  | (name, value) :: rest => do
    let key ← name
    let first ← toJson? value
    let others ← fieldsToJson? rest
    some ((key, first) :: others)

end

mutual

/-- The value of what is wanted of a draft, if all of that has one. Fields that are not wanted are
left out. -/
def select? (wanted : Wanted) : Draft → Option Json
  | leaf value => value
  | array items =>
    match wanted with
    | .all => (itemsToJson? items).map .array
    | .items each => (selectItems? each items).map .array
    | .fields known => (selectInOrder? (known.map Prod.snd) items).map .array
  | object fields =>
    match wanted with
    | .fields known => (selectFields? known fields).map .object
    | _ => (fieldsToJson? fields).map .object

/-- The values of what is wanted of each item. -/
def selectItems? (each : Wanted) : List Draft → Option (List Json)
  | [] => some []
  | item :: rest => do
    let first ← select? each item
    let others ← selectItems? each rest
    some (first :: others)

/-- The values of what is wanted of the items in turn, and of all of those behind them. -/
def selectInOrder? (wanted : List Wanted) : List Draft → Option (List Json)
  | [] => some []
  | item :: rest => do
    let first ← select? (wanted.headD .all) item
    let others ← selectInOrder? wanted.tail rest
    some (first :: others)

/-- The fields that are wanted with the values of what is wanted of them. -/
def selectFields? (known : List (String × Wanted)) :
    List (Option String × Draft) → Option (List (String × Json))
  | [] => some []
  | (name, value) :: rest => do
    let key ← name
    match known.find? fun field => field.1 == key with
    | none => selectFields? known rest
    | some field => do
      let first ← select? field.2 value
      let others ← selectFields? known rest
      some ((key, first) :: others)

end

end Draft

end HttpRpc.Json
