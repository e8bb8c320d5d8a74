import HttpRpc.Source.Bounds

/-!
# Types

A type is a path, a pointer, a tuple, an array, a function, or a sum of bounds. Where a type is one
operand of something, it may not be a sum.
-/

namespace HttpRpc.Source

open Token Reader

/-! ## Functions -/

/-- Reads the convention that a function is called by, if tokens start with one. -/
def convention? : Reader (List Token) := do
  let start ← word? "extern"
  match ← get with
  | .literal text :: rest =>
    if start.isEmpty then return []
    set rest
    return start ++ [.literal text]
  | _ => return start

/-- Whether tokens start with a name for an argument. -/
def atArgumentName (tokens : List Token) : Bool :=
  (atName tokens || atSomeWord ["_", "self"] tokens) && atColon (tokens.drop 1)

/-- Reads an argument of a function type: a type with a name or without one, or dots for further
arguments. -/
def functionArgument (g : Grammar) : Reader (List Token) :=
  inTurn [outerAttributes g, provided atArgumentName (inTurn [anyWord, sign ":"]),
    either (atSign "...") (sign "...") (g.types true)]

/-- Reads a function type behind the lifetimes that it is for. -/
def functionType (g : Grammar) : Reader (List Token) :=
  inTurn [word? "unsafe", convention?, word "fn", inside .paren (commas (functionArgument g)),
    g.result false]

/-! ## Sums -/

/-- Reads the bounds behind a type that starts a sum, or nothing. -/
def furtherBounds (g : Grammar) (sums : Bool) : Reader (List Token) :=
  provided (fun tokens => sums && atSign "+" tokens) (inTurn [sign "+", boundSum g true false])

/-- Reads a type that starts with parentheses. -/
def parenthesizedType (g : Grammar) (sums : Bool) : Reader (List Token) :=
  inTurn [
    inside .paren (either (fun body => atLifetime body || atSign "?" body)
      (boundSum g true false) (commas (g.types true))),
    furtherBounds g sums]

/-! ## Paths -/

/-- Reads a type that starts with a path, behind the lifetimes that it is for. -/
def pathType (g : Grammar) (sums : Bool) (lifetimes : List Token) : Reader TypeTokens := do
  let path ← Path.read g false
  let functionTypes ← path.functionTypes? g
  let tokens := lifetimes ++ path.tokens ++ functionTypes
  if path.qualified then return ⟨tokens, false⟩
  let after ← get
  if functionTypes.isEmpty && path.isPlain && atSign "!" after && !atSign "!=" after then
    return ⟨tokens ++ (← sign "!") ++ (← rawGroup), false⟩
  let more ← furtherBounds g sums
  return ⟨tokens ++ more,
    lifetimes.isEmpty && path.isSingle && functionTypes.isEmpty && more.isEmpty⟩

/-- Whether tokens start with a path. -/
def atPath (tokens : List Token) : Bool :=
  atName tokens || atSomeWord ["super", "self", "Self", "crate"] tokens ||
    atSomeSign ["::", "<"] tokens

/-! ## Types -/

/-- Reads a type between brackets: that of an array or of a slice. -/
def arrayType (g : Grammar) : Reader (List Token) :=
  inside .bracket (inTurn [g.types true, provided (atSign ";") (inTurn [sign ";", g.term true])])

/-- Reads a pointer. -/
def pointerType (g : Grammar) : Reader (List Token) :=
  either (atSign "*")
    (inTurn [sign "*", either (atWord "const") (word "const") (word "mut"), g.types false])
    (inTurn [sign "&", lifetime?, word? "mut", g.types false])

/-- Reads the type of any value with the bounds. -/
def dynamicType (g : Grammar) (sums : Bool) : Reader (List Token) :=
  settled do
    let start ← word "dyn"
    let star ← sign? "*"
    return (start ++ (← boundSum g sums false), !star.isEmpty)

/-- What may start a type. -/
def typeStarts : String :=
  "one of: \x60for\x60, parentheses, \x60fn\x60, \x60unsafe\x60, \x60extern\x60, identifier, " ++
    "\x60::\x60, \x60<\x60, \x60dyn\x60, square brackets, \x60*\x60, \x60&\x60, \x60!\x60, " ++
    "\x60impl\x60, \x60_\x60, lifetime"

/-- Reads a type that does not start with a path, behind the lifetimes that it is for. -/
def otherType (g : Grammar) (sums : Bool) : Reader (List Token) := do
  let tokens ← get
  if atSomeWord ["fn", "unsafe", "extern"] tokens then functionType g
  else if atGroup .paren tokens then parenthesizedType g sums
  else if atGroup .bracket tokens then arrayType g
  else if atWord "dyn" tokens then dynamicType g sums
  else if atSomeSign ["*", "&"] tokens then pointerType g
  else if atSign "!" tokens then sign "!"
  else if atWord "impl" tokens then inTurn [word "impl", boundSum g sums true]
  else if atWord "_" tokens then anyWord
  else if atLifetime tokens then boundSum g sums false
  else expected typeStarts

/-- Reads a type, which may be a sum or not. -/
def typeAt (g : Grammar) (sums : Bool) : Reader TypeTokens := do
  let lifetimes ← lifetimesFor? g
  if atPath (← get) then pathType g sums lifetimes
  else return ⟨lifetimes ++ (← otherType g sums), false⟩

end HttpRpc.Source
