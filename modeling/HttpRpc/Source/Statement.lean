import HttpRpc.Source.Expression

/-!
# Statements

A block is a row of statements: bindings, definitions, and terms, which semicolons separate.
-/

namespace HttpRpc.Source

open Token Reader

/-! ## What tokens start with -/

/-- Whether tokens start with a plain path and an exclamation mark that the test passes what is
behind. -/
def atInvocation (behind : List Token → Bool) (tokens : List Token) : Bool :=
  match Path.plain tokens with
  | .ok (_, rest) => atSign "!" rest && behind (rest.drop 1)
  | .error _ => false

/-- Whether tokens start with an invocation with braces that is a statement. -/
def atBlockInvocation (tokens : List Token) : Bool :=
  atInvocation (fun rest => atGroup .brace rest && !atMember (rest.drop 1)) tokens

/-- Whether tokens start with an invocation that defines a name. -/
def atNamingInvocation (tokens : List Token) : Bool :=
  atInvocation (fun rest => atName rest || atWord "try" rest) tokens

/-- Whether tokens that start with the word `const` define something. -/
def atConstantDefinition (tokens : List Token) : Bool :=
  let next := tokens.drop 1
  !atGroup .brace next && !atSomeWord ["static", "move"] next && !atSign "|" next &&
    (!atWord "async" next || atSomeWord ["unsafe", "extern", "fn"] (next.drop 1))

/-- Whether tokens start with a definition. -/
def atDefinition (tokens : List Token) : Bool :=
  let next := tokens.drop 1
  atSomeWord ["pub", "extern", "use", "fn", "mod", "type", "struct", "enum", "trait", "impl",
    "macro"] tokens ||
    (atWord "static" tokens && (atWord "mut" next || atName next)) ||
    (atWord "const" tokens && atConstantDefinition tokens) ||
    (atWord "unsafe" tokens && !atGroup .brace next) ||
    (atWord "async" tokens && atSomeWord ["unsafe", "extern", "fn"] next) ||
    (atWord "union" tokens && atName next) || (atWord "auto" tokens && atWord "trait" next) ||
    (atWord "default" tokens && atSomeWord ["unsafe", "impl"] next) || atNamingInvocation tokens

/-! ## Statements -/

/-- Reads a binding. -/
def binding (g : Grammar) : Reader (List Token) :=
  let otherwise := provided (atWord "else") (inTurn [word "else", g.block])
  inTurn [word "let", g.pattern, provided (atSign ":") (inTurn [sign ":", g.types true]),
    provided (atSign "=") (inTurn [sign "=", g.term true, otherwise]), sign ";"]

/-- Reads a statement. -/
def statement (g : Grammar) : Reader (List Token) := do
  if atSign ";" (← get) then return ← sign ";"
  let start ← get
  let attributes ← outerAttributes g
  let tokens ← get
  if atBlockInvocation tokens then
    return attributes ++ (← inTurn [Path.plain, sign "!", rawGroup, sign? ";"])
  if atWord "let" tokens then return attributes ++ (← binding g)
  if atDefinition tokens then
    set start
    g.definition
  else return attributes ++ (← inTurn [g.step, sign? ";"])

/-- Reads what is between the braces of a block. -/
def statementsAt (g : Grammar) : Reader (List Token) := do
  let attributes ← innerAttributes g
  return attributes ++ (← many (!·.isEmpty) (statement g)).flatten

end HttpRpc.Source
