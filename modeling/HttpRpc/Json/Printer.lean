import HttpRpc.Json.Basic

/-!
# JSON text

`compact` writes a value without spaces, and `pretty` with one item or field on a line, indented
by two spaces for each level. A string escapes the quote, the backslash and the control characters
below the space, and nothing else.
-/

namespace HttpRpc.Json

/-- The form of a character inside a JSON string. -/
def escape (c : Char) : String :=
  if c = '"' then "\\\""
  else if c = '\\' then "\\\\"
  else if c = '\x08' then "\\b"
  else if c = '\x0c' then "\\f"
  else if c = '\n' then "\\n"
  else if c = '\r' then "\\r"
  else if c = '\t' then "\\t"
  else if c.toNat < 0x20 then
    "\\u00" ++ (if c.toNat < 0x10 then "0" else "1") ++ Text.hexadecimal (c.toNat % 16)
  else c.toString

/-- A string between quotes. -/
def renderString (text : String) : String :=
  "\"" ++ String.join (text.toList.map escape) ++ "\""

mutual

/-- The text of a value without spaces. -/
def compact : Json → String
  | .null => "null"
  | .bool value => if value then "true" else "false"
  | .number value => value.render
  | .string value => renderString value
  | .array items => "[" ++ String.intercalate "," (compactItems items) ++ "]"
  | .object fields => "\x7b" ++ String.intercalate "," (compactFields fields) ++ "\x7d"

/-- The texts of the items. -/
def compactItems : List Json → List String
  | [] => []
  | item :: rest => compact item :: compactItems rest

/-- The texts of the fields, each with its name. -/
def compactFields : List (String × Json) → List String
  | [] => []
  | (key, value) :: rest => (renderString key ++ ":" ++ compact value) :: compactFields rest

end

/-- The start of a line at a level. -/
def indent (level : Nat) : String :=
  "\n" ++ String.ofList (List.replicate (2 * level) ' ')

/-- The parts between brackets, one on a line at the level. -/
def block (left right : String) (level : Nat) (parts : List String) : String :=
  if parts.isEmpty then left ++ right
  else left ++ String.intercalate "," (parts.map (indent (level + 1) ++ ·)) ++ indent level ++ right

mutual

/-- The text of a value with its parts on lines of their own, at a level. -/
def prettyAt (level : Nat) : Json → String
  | .null => "null"
  | .bool value => if value then "true" else "false"
  | .number value => value.render
  | .string value => renderString value
  | .array items => block "[" "]" level (prettyItems (level + 1) items)
  | .object fields => block "\x7b" "\x7d" level (prettyFields (level + 1) fields)

/-- The texts of the items at a level. -/
def prettyItems (level : Nat) : List Json → List String
  | [] => []
  | item :: rest => prettyAt level item :: prettyItems level rest

/-- The texts of the fields at a level, each with its name. -/
def prettyFields (level : Nat) : List (String × Json) → List String
  | [] => []
  | (key, value) :: rest =>
    (renderString key ++ ": " ++ prettyAt level value) :: prettyFields level rest

end

/-- The text of a value with one item or field on a line. -/
def pretty (value : Json) : String :=
  prettyAt 0 value

end HttpRpc.Json
