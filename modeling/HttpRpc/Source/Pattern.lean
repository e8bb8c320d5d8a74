import HttpRpc.Source.Type
import HttpRpc.Text.Digits

/-!
# Patterns

A pattern binds names and compares with constants. Alternatives stand between bars.
-/

namespace HttpRpc.Source

open Token Reader

/-! ## Members -/

/-- The number that an index states, in decimal digits. -/
def indexText (literal : String) : String :=
  let digits := literal.toList.filter (· != '_')
  let value := match digits with
    | '0' :: 'x' :: rest => Text.value? 16 rest
    | '0' :: 'o' :: rest => Text.value? 8 rest
    | '0' :: 'b' :: rest => Text.value? 2 rest
    | rest => Text.value? 10 rest
  (value.map Text.decimal).getD literal

/-- Reads the name or the index of a member. -/
def member : Reader (List Token) := do
  match ← get with
  | .literal text :: rest =>
    set rest
    return [.literal (indexText text)]
  | _ => identifier

/-! ## Alternatives -/

/-- Whether tokens start with a bar that is no part of an operator. -/
def atBar (tokens : List Token) : Bool :=
  atSign "|" tokens && !atSomeSign ["||", "|="] tokens

/-- Reads patterns with bars between them and perhaps in front. -/
def alternatives (g : Grammar) : Reader (List Token) := do
  let first ← inTurn [sign? "|", g.pattern]
  let more ← many atBar (inTurn [sign "|", g.pattern])
  return first ++ more.flatten

/-! ## Ranges -/

/-- Reads the sign of a range, of which three dots are another spelling. -/
def rangeSign : Reader (List Token) := do
  if atSign "..." (← get) then
    let _ ← sign "..."
    return ofWord ['.', '.', '=']
  either (atSign "..=") (sign "..=") (sign "..")

/-- Reads a block whose value is constant. -/
def constantBlock (g : Grammar) : Reader (List Token) :=
  inTurn [word "const", g.block]

/-- Whether tokens start with what follows a pattern. -/
def endsPattern (tokens : List Token) : Bool :=
  tokens.isEmpty || atSomeSign ["|", "=", ",", ";"] tokens || atColon tokens || atWord "if" tokens

/-- Reads a bound of a range, unless tokens start with what follows a pattern. -/
def rangeBound? (g : Grammar) : Reader (List Token) := do
  let tokens ← get
  if endsPattern tokens then return []
  if atLiteral tokens then constant
  else if atWord "const" tokens then constantBlock g
  else return (← Path.read g true).tokens

/-- Reads a range behind its lower bound. -/
def range (g : Grammar) : Reader (List Token) :=
  inTurn [rangeSign, rangeBound? g]

/-- Reads a range behind its lower bound, if tokens start with one. -/
def range? (g : Grammar) : Reader (List Token) :=
  provided (atSign "..") (range g)

/-! ## Names and paths -/

/-- Reads a field of a record pattern. -/
def fieldPattern (g : Grammar) : Reader (List Token) :=
  let name : Reader (List Token) := settled do
    let boxed ← word? "box"
    return (← inTurn [words? ["ref", "mut"], member], !boxed.isEmpty)
  let field := inTurn [name, provided (atSign ":") (inTurn [sign ":", alternatives g])]
  inTurn [outerAttributes g, either (atSign "..") (sign "..") field]

/-- Reads a pattern that starts with a path. -/
def pathPattern (g : Grammar) : Reader (List Token) := do
  let path ← Path.read g true
  let tokens ← get
  let after :=
    if path.isPlain && atSign "!" tokens && !atSign "!=" tokens then inTurn [sign "!", rawGroup]
    else if atGroup .brace tokens then inside .brace (commas (fieldPattern g))
    else if atGroup .paren tokens then inside .paren (commas (alternatives g))
    else range? g
  return path.tokens ++ (← after)

/-- Reads a pattern that binds a name, perhaps to what another pattern fits. -/
def namePattern (g : Grammar) : Reader (List Token) :=
  inTurn [words? ["ref", "mut"], either (atWord "self") anyWord identifier,
    provided (atSign "@") (inTurn [sign "@", g.pattern])]

/-! ## Patterns -/

/-- Whether tokens start with a pattern that is a path or starts with one. -/
def atPathPattern (tokens : List Token) : Bool :=
  let next := tokens.drop 1
  (atName tokens && (atSomeSign ["::", "!", ".."] next || atGroup .brace next ||
    atGroup .paren next)) ||
    (atWord "self" tokens && atSign "::" next) || atSomeSign ["::", "<"] tokens ||
    atSomeWord ["Self", "super", "crate"] tokens

/-- What may start a pattern. -/
def patternStarts : String :=
  "one of: identifier, \x60::\x60, \x60<\x60, \x60_\x60, literal, \x60const\x60, \x60ref\x60, " ++
    "\x60mut\x60, \x60&\x60, parentheses, square brackets, \x60..\x60"

/-- Reads a pattern without alternatives. -/
def patternAt (g : Grammar) : Reader (List Token) := do
  let tokens ← get
  if atPathPattern tokens then pathPattern g
  else if atWord "_" tokens then anyWord
  else if atWord "box" tokens then raw (inTurn [word "box", g.pattern])
  else if atLiteral tokens then inTurn [constant, range? g]
  else if atWord "const" tokens then inTurn [constantBlock g, range? g]
  else if atName tokens || atSomeWord ["ref", "mut", "self"] tokens then namePattern g
  else if atSign "&" tokens then inTurn [sign "&", word? "mut", g.pattern]
  else if atGroup .paren tokens then inside .paren (commas (alternatives g))
  else if atGroup .bracket tokens then inside .bracket (commas (alternatives g))
  else if atSign ".." tokens then range g
  else expected patternStarts

end HttpRpc.Source
