import HttpRpc.Source.Token
import HttpRpc.Text.Quoted

/-!
# Text literals

A text is written between double quotes with escapes (`Literal.ofText`). It may also be written raw,
without escapes, between `r"` and a quote, and as many number signs on both sides as it needs
(`Literal.text?`).
-/

namespace HttpRpc.Source.Literal

/-- The form of a text between double quotes. A null character has a short escape, unless an octal
digit after it would seem to be part of it. -/
def escape : List Char → List Char
  | [] => []
  | [c] => Text.quoteChar c
  | c :: next :: rest =>
    (if c = '\x00' ∧ '0' ≤ next ∧ next ≤ '7' then ['\\', 'x', '0', '0'] else Text.quoteChar c) ++
      escape (next :: rest)

/-- The literal that stands for a text. -/
def ofText (text : String) : Token :=
  .literal (String.ofList (['"'] ++ escape text.toList ++ ['"']))

/-- Where in a literal the reader is: after the digits of a code point so far, or in plain text, in
which a line break with a backslash before it hides the blanks after it. -/
inductive Place where
  | plain (skipping : Bool)
  | codePoint (value : Nat)

/-- Whether a line break that is hidden hides the character too. -/
def isHidden (c : Char) : Bool :=
  c == ' ' || c == '\t' || c == '\n' || c == '\r'

/-- The character that one letter after a backslash stands for. -/
def escaped? (c : Char) : Option Char :=
  if c = 'n' then some '\n'
  else if c = 'r' then some '\r'
  else if c = 't' then some '\t'
  else if c = '0' then some '\x00'
  else if c = '\\' ∨ c = '"' ∨ c = '\x27' then some c
  else none

/-- The text up to the closing quote. -/
def unescape : Place → List Char → Option (List Char)
  | _, [] => none
  | .codePoint n, c :: rest =>
    if c = '}' then (unescape (.plain false) rest).map (Char.ofNat n :: ·)
    else if c = '_' then unescape (.codePoint n) rest
    else (Text.value? 16 [c]).bind fun digit => unescape (.codePoint (n * 16 + digit)) rest
  | .plain _, '\\' :: 'x' :: a :: b :: rest =>
    (Text.value? 16 [a, b]).bind fun n => (unescape (.plain false) rest).map (Char.ofNat n :: ·)
  | .plain _, '\\' :: 'u' :: '{' :: rest => unescape (.codePoint 0) rest
  | .plain _, '\\' :: c :: rest =>
    if c = '\n' ∨ c = '\r' then unescape (.plain true) rest
    else (escaped? c).bind fun e => (unescape (.plain false) rest).map (e :: ·)
  | .plain skipping, c :: rest =>
    if skipping ∧ isHidden c then unescape (.plain true) rest
    else if c = '"' then some []
    else if c = '\r' then unescape (.plain false) rest
    else (unescape (.plain false) rest).map (c :: ·)

/-- The text of a raw literal after its first letter: what stands between the first quote and the
last. -/
def raw? (text : List Char) : Option (List Char) :=
  match text.dropWhile (· == '#') with
  | '"' :: rest => some ((rest.reverse.dropWhile (· != '"')).drop 1).reverse
  | _ => none

/-- The text that a literal stands for, if it stands for one. -/
def text? (literal : String) : Option String :=
  match literal.toList with
  | '"' :: rest => (unescape (.plain false) rest).map String.ofList
  | 'r' :: rest => (raw? rest).map String.ofList
  | _ => none

end HttpRpc.Source.Literal
