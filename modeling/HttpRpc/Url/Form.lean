import HttpRpc.Text.Split
import HttpRpc.Url.Percent

/-!
# Form encoding

Pairs of texts in a query: `&` between pairs, `=` between the parts of a pair, `+` for a space, and
escapes for all but letters, digits and `*-._`. Reading skips empty pairs and takes a missing `=`
for an empty second part.
-/

namespace HttpRpc.Url.Form

open HttpRpc.Text

/-- Whether the character needs an escape. -/
def isEscaped (c : Char) : Bool :=
  !(isAlphanumeric c || ['*', '-', '.', '_'].contains c)

/-- The form of one part of a pair. -/
def encode (text : List Char) : List Char :=
  text.flatMap fun c => if c = ' ' then ['+'] else Percent.encodeChar isEscaped c

/-- The text of one part of a pair. -/
def decode (text : List Char) : List Char :=
  Utf8.decodeLossy (Percent.decode (text.map fun c => if c = '+' then ' ' else c))

/-- The form of a pair. -/
def encodePair (pair : String × String) : List Char :=
  encode pair.1.toList ++ ['='] ++ encode pair.2.toList

/-- The form of a list of pairs. -/
def encodePairs (pairs : List (String × String)) : List Char :=
  join ['&'] (pairs.map encodePair)

/-- The pair that a text stands for. -/
def decodePair (text : List Char) : String × String :=
  match splitOnce '=' text with
  | some (key, value) => (String.ofList (decode key), String.ofList (decode value))
  | none => (String.ofList (decode text), "")

/-- The pairs that a query stands for. -/
def decodePairs (query : List Char) : List (String × String) :=
  ((splitOn '&' query).filter fun part => !part.isEmpty).map decodePair

end HttpRpc.Url.Form
