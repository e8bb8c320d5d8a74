import HttpRpc.Source.Literal

/-!
# Reading tokens

Text is cut into lexemes, one step at a time (`Lexeme.step?`), and brackets are paired
(`Lexeme.group?`). Blanks and comments separate tokens. A documentation comment stands for an
attribute that holds its text.
-/

namespace HttpRpc.Source

/-- A bracket or a token. -/
inductive Lexeme where
  | opening (delimiter : Delimiter)
  | closing (delimiter : Delimiter)
  | token (token : Token)

namespace Lexeme

/-! ## Comments -/

/-- The text up to the end of the line, and the text from there. -/
def restOfLine : List Char → List Char × List Char
  | [] => ([], [])
  | '\n' :: rest => ([], '\n' :: rest)
  | '\r' :: '\n' :: rest => ([], '\r' :: '\n' :: rest)
  | c :: rest => (c :: (restOfLine rest).1, (restOfLine rest).2)

/-- The text up to the end of the comment, inside which comments may be nested, and the text after
it. -/
def restOfComment (depth : Nat) : List Char → Option (List Char × List Char)
  | [] => none
  | '*' :: '/' :: rest =>
    match depth with
    | 0 => some ([], rest)
    | depth + 1 =>
      (restOfComment depth rest).map fun (text, after) => ('*' :: '/' :: text, after)
  | '/' :: '*' :: rest =>
    (restOfComment (depth + 1) rest).map fun (text, after) => ('/' :: '*' :: text, after)
  | c :: rest => (restOfComment depth rest).map fun (text, after) => (c :: text, after)

/-- The attribute that a documentation comment stands for. -/
def documentation (inner : Bool) (text : List Char) : List Lexeme :=
  let mark := if inner then [token (.mark '#' false), token (.mark '!' false)]
    else [token (.mark '#' false)]
  mark ++ [token (.group .bracket
    [.name "doc", .mark '=' false, Literal.ofText (String.ofList text)])]

/-- What a comment that starts with two slashes stands for, which come first in the text. -/
def lineComment (text : List Char) : List Lexeme × List Char :=
  let (line, after) := restOfLine text
  match line with
  | '/' :: '/' :: '/' :: '/' :: _ => ([], after)
  | '/' :: '/' :: '/' :: doc => (documentation false doc, after)
  | '/' :: '/' :: '!' :: doc => (documentation true doc, after)
  | _ => ([], after)

/-- What a comment between a slash with a star and a star with a slash stands for. The text starts
after the first star. A comment that starts with three stars stands for nothing, even if the last of
them ends it. -/
def blockComment? (text : List Char) : Option (List Lexeme × List Char) :=
  (restOfComment 0 text).map fun (body, after) =>
    if "**".toList.isPrefixOf text then ([], after)
    else match body with
      | '*' :: doc => (documentation false doc, after)
      | '!' :: doc => (documentation true doc, after)
      | _ => ([], after)

/-! ## Literals -/

/-- The text up to the closing quote, with it, and the text after it. -/
def quotedRest (quote : Char) : List Char → Option (List Char × List Char)
  | [] => none
  | '\\' :: c :: rest =>
    (quotedRest quote rest).map fun (text, after) => ('\\' :: c :: text, after)
  | c :: rest =>
    if c = quote then some ([c], rest)
    else (quotedRest quote rest).map fun (text, after) => (c :: text, after)

/-- The text up to a quote with the number of number signs after it, with them, and the text after
it. -/
def rawRest (signs : List Char) : List Char → Option (List Char × List Char)
  | [] => none
  | c :: rest =>
    if c = '"' ∧ signs.isPrefixOf rest then some ('"' :: signs, rest.drop signs.length)
    else (rawRest signs rest).map fun (text, after) => (c :: text, after)

/-- A literal from the text before its first quote, the text after that with the closing quote, and
the text after the literal, which may start with a suffix. -/
def withSuffix (before : List Char) (found : List Char × List Char) : List Lexeme × List Char :=
  let (text, after) := found
  let suffix := if (after.head?.map Token.startsName).getD false
    then after.takeWhile Token.continuesName else []
  ([token (.literal (String.ofList (before ++ text ++ suffix)))], after.drop suffix.length)

/-- A raw literal: the letters before it, and the text from its number signs or its quote on. -/
def rawLiteral? (letters text : List Char) : Option (List Lexeme × List Char) :=
  let signs := text.takeWhile (· == '#')
  match text.drop signs.length with
  | '"' :: rest => (rawRest signs rest).map (withSuffix (letters ++ signs ++ ['"']))
  | _ => none

/-- The digits and letters after a sign in an exponent, with it, and the text after them. -/
def exponentRest (number text : List Char) : List Char × List Char :=
  match number.getLast?, text with
  | some e, sign :: digit :: rest =>
    if (e = 'e' ∨ e = 'E') ∧ (sign = '+' ∨ sign = '-') ∧ digit.isDigit ∧ number[1]? ≠ some 'x' then
      (sign :: digit :: rest.takeWhile Token.continuesName, rest.dropWhile Token.continuesName)
    else ([], text)
  | _, _ => ([], text)

/-- A number at the start of a text. A point belongs to it unless another point or a name follows.
-/
def number (text : List Char) : List Lexeme × List Char :=
  let whole := text.takeWhile Token.continuesName
  let after := text.dropWhile Token.continuesName
  let (fraction, after) := match after with
    | '.' :: rest =>
      if whole.all (fun c => c.isDigit || c == '_') ∧
          !(rest.head?.map fun c => c == '.' || Token.startsName c).getD false then
        ('.' :: rest.takeWhile Token.continuesName, rest.dropWhile Token.continuesName)
      else ([], after)
    | _ => ([], after)
  let (exponent, after) := exponentRest (whole ++ fraction) after
  ([token (.literal (String.ofList (whole ++ fraction ++ exponent)))], after)

/-! ## Marks and names -/

/-- Whether the character is a mark. -/
def isMarkChar (c : Char) : Bool :=
  "~!@#$%^&*-=+|;:,<.>/?\x27".toList.contains c

/-- Whether a mark comes first in a text; a comment is none. -/
def startsMark : List Char → Bool
  | '/' :: '/' :: _ => false
  | '/' :: '*' :: _ => false
  | c :: _ => isMarkChar c
  | [] => false

/-- A name at the start of a text, behind the given letters. -/
def name (before text : List Char) : List Lexeme × List Char :=
  ([token (.name (String.ofList (before ++ text.takeWhile Token.continuesName)))],
    text.dropWhile Token.continuesName)

/-- What a single quote before a text stands for: a character literal, or the mark of a lifetime. -/
def singleQuote (text : List Char) : List Lexeme × List Char :=
  let mark := ([token (.mark '\x27' true)], text)
  match text with
  | '\\' :: _ => ((quotedRest '\x27' text).map (withSuffix ['\x27'])).getD mark
  | c :: '\x27' :: after => withSuffix ['\x27'] ([c, '\x27'], after)
  | _ => mark

/-- What a text that starts with a letter stands for: a literal with letters before its quote, or a
name. -/
def word? (c : Char) (text : List Char) : Option (List Lexeme × List Char) :=
  let plain := name [] (c :: text)
  if c = 'r' then
    match text with
    | '"' :: _ => rawLiteral? ['r'] text
    | '#' :: next :: rest =>
      if Token.startsName next then some (name ['r', '#'] (next :: rest))
      else rawLiteral? ['r'] text
    | _ => some plain
  else if c = 'b' ∨ c = 'c' then
    match text with
    | '"' :: rest => (quotedRest '"' rest).map (withSuffix [c, '"'])
    | '\x27' :: rest =>
      if c = 'b' then (quotedRest '\x27' rest).map (withSuffix ['b', '\x27']) else some plain
    | 'r' :: '"' :: _ => rawLiteral? [c, 'r'] (text.drop 1)
    | 'r' :: '#' :: _ => rawLiteral? [c, 'r'] (text.drop 1)
    | _ => some plain
  else some plain

/-! ## Lexemes -/

/-- What comes first in a text, which is nothing for a blank or a comment, and the text after it. -/
def step? (c : Char) (rest : List Char) : Option (List Lexeme × List Char) :=
  if Token.separates c then some ([], rest)
  else match c, rest with
    | '/', '/' :: _ => some (lineComment (c :: rest))
    | '/', '*' :: text => blockComment? text
    | '(', _ => some ([opening .paren], rest)
    | '[', _ => some ([opening .bracket], rest)
    | '{', _ => some ([opening .brace], rest)
    | ')', _ => some ([closing .paren], rest)
    | ']', _ => some ([closing .bracket], rest)
    | '}', _ => some ([closing .brace], rest)
    | '"', _ => (quotedRest '"' rest).map (withSuffix ['"'])
    | '\x27', _ => some (singleQuote rest)
    | _, _ =>
      if c.isDigit then some (number (c :: rest))
      else if isMarkChar c then some ([token (.mark c (startsMark rest))], rest)
      else if Token.startsName c then word? c rest
      else none

/-- The lexemes of a text. -/
def read? : List Char → Option (List Lexeme)
  | [] => some []
  | c :: rest =>
    match step? c rest with
    | none => none
    | some (found, after) =>
      if _h : after.length < (c :: rest).length then (read? after).map (found ++ ·) else none
termination_by text => text.length
decreasing_by assumption

/-- The tokens of lexemes. The groups around are given from the inside out, each with the tokens
before it; all tokens before are given backwards. -/
def group? (around : List (Delimiter × List Token)) (before : List Token) :
    List Lexeme → Option (List Token)
  | [] => if around.isEmpty then some before.reverse else none
  | token t :: rest => group? around (t :: before) rest
  | opening d :: rest => group? ((d, before) :: around) [] rest
  | closing d :: rest =>
    match around with
    | (expected, outer) :: around =>
      if d = expected then group? around (.group d before.reverse :: outer) rest else none
    | [] => none

end Lexeme

/-- The text without the mark of byte order that may start it. -/
def withoutByteOrder : List Char → List Char
  | '\uFEFF' :: rest => rest
  | text => text

/-- The tokens of a text, if it is made of tokens and its brackets are paired. -/
def Token.read? (text : String) : Option (List Token) :=
  (Lexeme.read? (withoutByteOrder text.toList)).bind (Lexeme.group? [] [])

end HttpRpc.Source
