import HttpRpc.Text.Blank
import HttpRpc.Text.Split

/-!
# Tokens

The source text of an interface is a list of token trees: names, marks, literals, and groups between
brackets. Two marks may be joined, as in an arrow. `Token.render` writes one space between tokens
that are not joined.
-/

namespace HttpRpc.Source

/-- The kinds of brackets. -/
inductive Delimiter where
  | paren
  | bracket
  | brace
deriving DecidableEq, Repr

/-- A name, a mark, a literal with its text, or a group. A joined mark belongs to the mark after it.
-/
inductive Token where
  | name (text : String)
  | mark (char : Char) (joined : Bool)
  | literal (text : String)
  | group (delimiter : Delimiter) (tokens : List Token)
deriving Repr

/-- What is written before the tokens of a group. -/
def Delimiter.opening : Delimiter → List Char
  | paren => ['(']
  | bracket => ['[']
  | brace => ['{', ' ']

/-- What is written after the tokens of a group that is empty or not. -/
def Delimiter.closing (empty : Bool) : Delimiter → List Char
  | paren => [')']
  | bracket => [']']
  | brace => if empty then ['}'] else [' ', '}']

namespace Token

/-- Whether the next token is written right after the token. -/
def isJoined : Token → Bool
  | mark _ joined => joined
  | _ => false

/-- Whether the token is the mark. -/
def isMark (char : Char) : Token → Bool
  | mark c _ => c == char
  | _ => false

/-- Whether the token is the name. -/
def isName (text : String) : Token → Bool
  | name t => t == text
  | _ => false

mutual
/-- The text of a token. -/
def chars : Token → List Char
  | name text => text.toList
  | mark c _ => [c]
  | literal text => text.toList
  | group d tokens => d.opening ++ charsOf tokens ++ d.closing tokens.isEmpty

/-- The text of tokens in a row. -/
def charsOf : List Token → List Char
  | [] => []
  | token :: rest =>
    chars token ++ (if token.isJoined || rest.isEmpty then [] else [' ']) ++ charsOf rest
end

/-- The text of tokens in a row. -/
def render (tokens : List Token) : String :=
  String.ofList (charsOf tokens)

/-! ## Tokens from words -/

/-- Whether the character separates tokens: white space, or a mark of direction. -/
def separates (c : Char) : Bool :=
  Text.isBlank c || c == '\u200E' || c == '\u200F'

/-- Whether a name may start with the character. Beyond ASCII every character may that does not
separate tokens. -/
def startsName (c : Char) : Bool :=
  c.isAlpha || c == '_' || (0x80 ≤ c.toNat && !separates c)

/-- Whether a name may go on with the character. -/
def continuesName (c : Char) : Bool :=
  startsName c || c.isDigit

/-- The tokens of a word without blanks: its first marks, joined, and the name after them. -/
def ofWord : List Char → List Token
  | [] => []
  | c :: rest =>
    if startsName c then [name (String.ofList (c :: rest))]
    else mark c (!rest.isEmpty) :: ofWord rest

/-- The tokens of words with one space between neighbours. -/
def words (text : String) : List Token :=
  (Text.splitOn ' ' text.toList).flatMap ofWord

/-- The tokens of a list with a mark between neighbours. -/
def separated (char : Char) : List (List Token) → List Token
  | [] => []
  | [item] => item
  | item :: next :: items => item ++ mark char false :: separated char (next :: items)

end Token

end HttpRpc.Source
