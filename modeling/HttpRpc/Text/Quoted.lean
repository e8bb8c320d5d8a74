import HttpRpc.Text.Digits
import HttpRpc.Text.Graphic

/-!
# Quoted text

The form in which messages and descriptions show a text: between quotes, with an escape for the
quote, the backslash and every character that is not graphic.
-/

namespace HttpRpc.Text

/-- The form of a character inside quotes. -/
def quoteChar (c : Char) : List Char :=
  if c = '\x00' then ['\\', '0']
  else if c = '\t' then ['\\', 't']
  else if c = '\n' then ['\\', 'n']
  else if c = '\r' then ['\\', 'r']
  else if c = '"' then ['\\', '"']
  else if c = '\\' then ['\\', '\\']
  else if isGraphic c then [c]
  else ['\\', 'u', '{'] ++ Nat.toDigits 16 c.toNat ++ ['}']

/-- The text between quotes. -/
def quoted (text : String) : String :=
  String.ofList (['"'] ++ text.toList.flatMap quoteChar ++ ['"'])

/-- The items of a list between brackets. -/
def bracketed (items : List String) : String :=
  "[" ++ String.intercalate ", " items ++ "]"

/-- A record shown as its name and its fields between braces. -/
def record (name : String) (fields : List (String × String)) : String :=
  name ++ " \x7b " ++
    String.intercalate ", " (fields.map fun (key, value) => key ++ ": " ++ value) ++ " \x7d"

/-- An optional value shown as `None`, or as its form inside `Some(…)`. -/
def optional (value : Option String) : String :=
  match value with
  | none => "None"
  | some text => "Some(" ++ text ++ ")"

end HttpRpc.Text
