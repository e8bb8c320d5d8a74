import HttpRpc.Source.Grammar

/-!
# Paths

A path is a row of names with double colons between them. A name may have arguments between angle
brackets, of which lifetimes are written first, or the types of a function between parentheses. In
terms, where an angle bracket is an operator, a double colon stands before arguments.
-/

namespace HttpRpc.Source

open Token Reader

/-- What an argument between angle brackets is. -/
inductive ArgumentKind where
  | lifetime
  | type
  | other
deriving DecidableEq, Repr

/-- An argument between angle brackets. -/
structure Argument where
  kind : ArgumentKind
  tokens : List Token
deriving Repr

/-- A name in a path, and the arguments behind it, if there are brackets. -/
structure Segment where
  name : List Token
  arguments : Option (List Argument)
  tokens : List Token
deriving Repr

/-- The types among the arguments between angle brackets. -/
def Segment.typeArguments (segment : Segment) : List (List Token) :=
  (segment.arguments.getD []).filterMap fun argument =>
    if argument.kind = .type then some argument.tokens else none

/-- A path of names with their arguments. -/
structure Path where
  /-- Whether it starts with a type between angle brackets. -/
  qualified : Bool
  /-- Whether it starts with a double colon. -/
  absolute : Bool
  segments : List Segment
  tokens : List Token
deriving Repr

/-- Whether the path is made of names alone. -/
def Path.isPlain (path : Path) : Bool :=
  !path.qualified && path.segments.all fun segment => segment.arguments.isNone

/-- Whether the path is a single name, perhaps with arguments. -/
def Path.isSingle (path : Path) : Bool :=
  !path.qualified && !path.absolute && path.segments.length == 1

/-! ## Plain paths -/

/-- Whether tokens start with a word that may be part of a path. -/
def atPathWord (tokens : List Token) : Bool :=
  atName tokens || atSomeWord ["super", "self", "Self", "crate"] tokens

/-- Reads a path of names alone. -/
def Path.plain : Reader (List Token) := do
  let start ← sign? "::"
  if !atPathWord (← get) then return start ++ (← identifier)
  let names ← rows do
    let name ← if atPathWord (← get) then anyWord else expected "path segment after \x60::\x60"
    let after ← sign? "::"
    return (name ++ after, !after.isEmpty)
  return start ++ names.flatten

/-! ## Arguments -/

/-- Reads a constant argument: a literal, a name or a block. -/
def constantArgument (g : Grammar) : Reader (List Token) := do
  if atLiteral (← get) then constant
  else if atName (← get) then identifier
  else g.block

/-- Whether tokens start with a constant argument that is no name. -/
def atConstant (tokens : List Token) : Bool :=
  atLiteral tokens || atGroup .brace tokens

/-- Whether tokens start with a colon that is not part of a double one. -/
def atColon (tokens : List Token) : Bool :=
  atSign ":" tokens && !atSign "::" tokens

/-- Reads an argument between angle brackets. -/
def Argument.read (g : Grammar) : Reader Argument := do
  let tokens ← get
  if atLifetime tokens && !atSign "+" (tokens.drop 2) then return ⟨.lifetime, ← lifetime⟩
  if atConstant tokens then return ⟨.other, ← constantArgument g⟩
  let found ← g.type true
  if found.isName && atSign "=" (← get) then
    let value ← inTurn [sign "=", either atConstant (constantArgument g) (g.types true)]
    return ⟨.other, found.tokens ++ value⟩
  if found.isName && atSign ":" (← get) then
    let colon ← sign ":"
    let bounds ← chained (atSomeSign [",", ">"]) "+" (g.bound false)
    return ⟨.other, found.tokens ++ colon ++ joined bounds⟩
  return ⟨.type, found.tokens⟩

/-- Reads arguments between angle brackets. -/
def Argument.readAll (g : Grammar) : Reader (List Argument × List Token) := do
  let opening ← sign "<"
  let arguments ← terminated (atSign ">") "," (Argument.read g)
  let closing ← sign ">"
  let written := joinedFirst (fun a => a.kind == .lifetime) Argument.tokens arguments
  return (arguments.map Prod.fst, opening ++ written ++ closing)

/-- Whether tokens start with the types of a function, perhaps behind a double colon. -/
def atFunctionTypes (tokens : List Token) : Bool :=
  atGroup .paren tokens || (atSign "::" tokens && atGroup .paren (tokens.drop 2))

/-- Reads the types of a function. A double colon before them is left out. -/
def functionTypes (g : Grammar) : Reader (List Token) := do
  let _ ← sign? "::"
  inTurn [inside .paren (commas (g.types true)), g.result false]

/-! ## Paths with arguments -/

/-- Whether tokens go on with arguments between angle brackets. -/
def atArguments (inTerm : Bool) (tokens : List Token) : Bool :=
  (!inTerm && atSign "<" tokens && !atSomeSign ["<=", "<<="] tokens) ||
    (atSign "::" tokens && atSign "<" (tokens.drop 2))

/-- Reads a name of a path with its arguments. -/
def Segment.read (g : Grammar) (inTerm : Bool) : Reader Segment := do
  if atSomeWord ["super", "self", "crate", "try"] (← get) then
    let name ← anyWord
    return ⟨name, none, name⟩
  let name ← if atWord "Self" (← get) then anyWord else identifier
  if atArguments inTerm (← get) then
    let colons ← sign? "::"
    let (arguments, written) ← Argument.readAll g
    return ⟨name, some arguments, name ++ colons ++ written⟩
  return ⟨name, none, name⟩

/-- Reads the names of a path. -/
def Segment.readAll (g : Grammar) (inTerm : Bool) : Reader (List Segment × List Token) := do
  let found ← rows do
    let segment ← Segment.read g inTerm
    let tokens ← get
    if atSign "::" tokens && !atGroup .paren (tokens.drop 2) then
      return ((segment, ← sign "::"), true)
    return ((segment, []), false)
  return (found.map Prod.fst, found.flatMap fun (segment, after) => segment.tokens ++ after)

/-- Reads a path that does not start with a type. -/
def Path.unqualified (g : Grammar) (inTerm : Bool) : Reader Path := do
  let start ← sign? "::"
  let (segments, tokens) ← Segment.readAll g inTerm
  return ⟨false, !start.isEmpty, segments, start ++ tokens⟩

/-- Reads a path, which may start with a type between angle brackets, perhaps seen as another. -/
def Path.read (g : Grammar) (inTerm : Bool) : Reader Path := do
  if !atSign "<" (← get) then return ← Path.unqualified g inTerm
  let view : Reader (List Token) := return (← Path.unqualified g false).tokens
  let start ← inTurn
    [sign "<", g.types true, provided (atWord "as") (inTurn [word "as", view]), sign ">", sign "::"]
  let (segments, tokens) ← Segment.readAll g inTerm
  return ⟨true, false, segments, start ++ tokens⟩

/-- Reads the types of a function behind a path that takes them, or nothing. -/
def Path.functionTypes? (g : Grammar) (path : Path) : Reader (List Token) := do
  let bare := (path.segments.getLast?.map fun segment => segment.arguments.isNone).getD false
  if bare && atFunctionTypes (← get) then functionTypes g else return []

end HttpRpc.Source
